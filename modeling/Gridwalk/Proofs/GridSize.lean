import Gridwalk.Proofs.Reachable
import Gridwalk.Proofs.TightBox

/-! # The size of the grid

An erasure leaves a part of the box, and any other write the hull of the box and the position. Commands
check the size of the hull before they write outside the box, so no run makes a grid larger than the
limit, unless it was larger from the start. Every grid is a rectangle, whatever its history.
-/

namespace Gridwalk
set_option autoImplicit false

open Act

structure Box.LiesIn (b b' : Box) : Prop where
  low : b'.Contains b.low
  high : b'.Contains b.high

namespace Box.LiesIn

variable {b b' : Box}

theorem refl (b : Box) : b.LiesIn b :=
  ⟨⟨Int.le_refl _, b.x_le, Int.le_refl _, b.y_le⟩, ⟨b.x_le, Int.le_refl _, b.y_le, Int.le_refl _⟩⟩

theorem trans {b'' : Box} (h : b.LiesIn b') (h' : b'.LiesIn b'') : b.LiesIn b'' := by
  obtain ⟨⟨h₁, h₂, h₃, h₄⟩, ⟨h₅, h₆, h₇, h₈⟩⟩ := h
  obtain ⟨⟨h₁', h₂', h₃', h₄'⟩, ⟨h₅', h₆', h₇', h₈'⟩⟩ := h'
  constructor <;> refine ⟨?_, ?_, ?_, ?_⟩ <;> omega

theorem columns_le (h : b.LiesIn b') : b.columns ≤ b'.columns := by
  obtain ⟨⟨h₁, -, -, -⟩, ⟨-, h₂, -, -⟩⟩ := h
  unfold columns
  omega

theorem rows_le (h : b.LiesIn b') : b.rows ≤ b'.rows := by
  obtain ⟨⟨-, -, h₁, -⟩, ⟨-, -, -, h₂⟩⟩ := h
  unfold rows
  omega

end Box.LiesIn

theorem Box.liesIn_span_position {b : Box} {i j i' j' : Nat} (hi : i < b.columns) (hj : j < b.rows)
    (hi' : i' < b.columns) (hj' : j' < b.rows) :
    (Box.span (b.position i j) (b.position i' j')).LiesIn b := by
  have hX := b.high_x
  have hY := b.high_y
  constructor <;> refine ⟨?_, ?_, ?_, ?_⟩ <;> dsimp only [span, position] <;> omega

namespace Grid

theorem liesIn_usedBox (g : Grid) : g.usedBox.LiesIn g.box := by
  unfold usedBox
  split
  · rename_i left top right bottom hleft htop hright hbottom
    exact Box.liesIn_span_position (firstBelow?_eq_some_iff.mp hleft).1
      (firstBelow?_eq_some_iff.mp htop).1 (lt_of_lastBelow?_eq_some hright)
      (lt_of_lastBelow?_eq_some hbottom)
  · have hcolumn : g.width / 2 < g.box.columns := Nat.div_lt_self g.box.columns_pos (by decide)
    have hrow : g.height / 2 < g.box.rows := Nat.div_lt_self g.box.rows_pos (by decide)
    exact Box.liesIn_span_position hcolumn hrow hcolumn hrow

theorem liesIn_box_erase (g : Grid) (p : Vec) : (g.set p blank).box.LiesIn g.box := by
  rw [set, if_pos rfl]
  split
  · split
    · rw [box_shrink]
      exact liesIn_usedBox _
    · exact .refl _
  · exact .refl _

theorem box_set {g : Grid} {p : Vec} {cell : Int} (hcell : cell ≠ blank)
    (hsize : (g.sizeCovering? p).isSome = true) : (g.set p cell).box = g.box.hull p := by
  rw [set, if_neg hcell, if_pos hsize]
  split
  · rename_i hin
    exact (Box.hull_of_contains hin).symm
  · rfl

theorem eq_of_sizeCovering? {g : Grid} {p : Vec} {columns rows : Nat}
    (h : g.sizeCovering? p = some (columns, rows)) :
    columns = (g.box.hull p).columns ∧ rows = (g.box.hull p).rows := by
  unfold sizeCovering? at h
  dsimp only at h
  split at h
  · cases h
    exact ⟨rfl, rfl⟩
  · cases h

def size (g : Grid) : Nat := g.width * g.height

theorem size_erase_le (g : Grid) (p : Vec) : (g.set p blank).size ≤ g.size :=
  Nat.mul_le_mul (liesIn_box_erase g p).columns_le (liesIn_box_erase g p).rows_le

theorem size_set_le {g : Grid} {p : Vec} {cell : Int} (h : HasRoom g p cell) :
    (g.set p cell).size ≤ max g.size maxCells := by
  by_cases hcell : cell = blank
  · subst hcell
    exact (size_erase_le g p).trans (Nat.le_max_left _ _)
  · rcases h.resolve_left hcell with hin | ⟨columns, rows, hsize, hle⟩
    · have hbox : (g.set p cell).box = g.box := by
        rw [box_set hcell, Box.hull_of_contains hin]
        rw [sizeCovering?, if_pos (.inl hin)]
        rfl
      have hsame : (g.set p cell).size = g.size := by
        unfold size width height
        rw [hbox]
      rw [hsame]
      exact Nat.le_max_left _ _
    · have hbox : (g.set p cell).box = g.box.hull p := box_set hcell (by rw [hsize]; rfl)
      obtain ⟨hcolumns, hrows⟩ := eq_of_sizeCovering? hsize
      have hgrown : (g.set p cell).size = columns * rows := by
        unfold size width height
        rw [hbox, hcolumns, hrows]
      rw [hgrown]
      exact hle.trans (Nat.le_max_right _ _)

theorem length_rows (g : Grid) : g.rows.length = g.height := by
  simp [rows, height]

theorem length_of_mem_rows {g : Grid} {row : List Int} (h : row ∈ g.rows) :
    row.length = g.width := by
  obtain ⟨cells, -, rfl⟩ := List.mem_map.mp h
  exact cells.length_toList

end Grid

theorem Effect.size_le {mode : Mode} {m m' : Machine} (h : Effect mode m m') :
    m'.grid.size ≤ max m.grid.size maxCells := by
  cases h with
  | write p cell hroom => exact Grid.size_set_le hroom
  | stack | tape | returns | queue | literal | stop | arguments | input | output | dice | wait
  | jump | move | turn | face => exact Nat.le_max_left _ _

theorem Effects.size_le {mode : Mode} {m m' : Machine} (h : Effects mode m m') :
    m'.grid.size ≤ max m.grid.size maxCells := by
  induction h with
  | refl => exact Nat.le_max_left _ _
  | tail _ hlast ih =>
    have hle := hlast.size_le
    omega

theorem Reachable.size_le {start m : Machine} (h : Reachable start m) :
    m.grid.size ≤ max start.grid.size maxCells := by
  induction h with
  | start => exact Nat.le_max_left _ _
  | push _ v ih => exact ih
  | enqueue _ r ih => exact ih
  | outside _ input output dice clock waiting ih => exact ih
  | step _ ih =>
    refine step_preserves (I := (·.grid.size ≤ max start.grid.size maxCells)) (fun m hm => ?_)
      (fun m hm => ?_) (fun m n hm => hm) ih
    · rw [last_seekCommand]
      exact hm
    · have hle := (effects_executeCell m).size_le
      omega

/-- In a run the grid is always a rectangle with at least one cell, and it never has more cells than
the larger of the size at the start and 2 ^ 24. -/
theorem grid_size_bounded {start m : Machine} (h : Reachable start m) :
    (m.grid.rows ≠ [] ∧ m.grid.rows.length = m.grid.height) ∧
    (0 < m.grid.width ∧ ∀ row ∈ m.grid.rows, row.length = m.grid.width) ∧
    m.grid.width * m.grid.height ≤ max (start.grid.width * start.grid.height) 0x1000000 := by
  have hheight : m.grid.rows.length = m.grid.height := m.grid.length_rows
  refine ⟨⟨?_, hheight⟩, ⟨m.grid.box.columns_pos, fun row => Grid.length_of_mem_rows⟩, h.size_le⟩
  intro hnil
  rw [hnil] at hheight
  exact Nat.ne_of_lt m.grid.box.rows_pos hheight

/-- A row of two writing commands. The first one makes the grid grow to 6 columns and 4 rows, and the
second one fails, since it would make one column too many for the limit. -/
theorem grid_size_bounded_after_failure :
    let start : Machine := .load (.ofSource "pp") [] (.ofBytes []) .empty .first ""
    let ready (x y : Int) (m : Machine) : Machine :=
      (push (.integer 97)).last ((push (.integer y)).last ((push (.integer x)).last m))
    let grown := step.last (ready 5 (-3) start)
    let m := step.last (ready 0x400000 0 grown)
    grown.grid.width = 6 ∧ grown.grid.height = 4 ∧
    (step.fault? (ready 0x400000 0 grown)).isSome = true ∧
    m.grid.width * m.grid.height ≤ 0x1000000 := by
  intro start ready grown m
  have hready {m : Machine} (h : Reachable start m) (x y : Int) : Reachable start (ready x y m) :=
    ((h.push (.integer x)).push (.integer y)).push (.integer 97)
  have hreach : Reachable start m := (hready (hready .start 5 (-3)).step 0x400000 0).step
  have hwidth : grown.grid.width = 6 := by decide +kernel
  have hheight : grown.grid.height = 4 := by decide +kernel
  have hfails : (step.fault? (ready 0x400000 0 grown)).isSome = true := by decide +kernel
  have hstart : start.grid.width * start.grid.height ≤ 0x1000000 := by decide +kernel
  exact ⟨hwidth, hheight, hfails,
    (grid_size_bounded hreach).2.2.trans (Nat.max_le.mpr ⟨hstart, Nat.le_refl _⟩)⟩

end Gridwalk
