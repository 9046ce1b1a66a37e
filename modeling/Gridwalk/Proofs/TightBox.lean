import Gridwalk.Proofs.GridReads
import Gridwalk.Proofs.Loading
import Mathlib.Order.Bounds.Basic

/-! # The box of a grid fits its cells

The box of a grid is the least one around the cells in use, however the grid came about, as long as
there was always a cell in use. So a grid is determined by what it reads, and a write outside the box
is undone by an erasure. Once all cells are erased one blank cell is left, and a box that has grown
from there need not fit.
-/

namespace Gridwalk
set_option autoImplicit false

namespace Grid

def inUse (g : Grid) : Set Vec := {q | g.get q ≠ blank}

theorem mem_inUse_iff {g : Grid} {q : Vec} : q ∈ g.inUse ↔ g.get q ≠ blank := Iff.rfl

structure Tight (g : Grid) : Prop where
  west : IsLeast (Vec.x '' g.inUse) g.box.low.x
  north : IsLeast (Vec.y '' g.inUse) g.box.low.y
  east : IsGreatest (Vec.x '' g.inUse) g.box.high.x
  south : IsGreatest (Vec.y '' g.inUse) g.box.high.y

theorem tight_of_mem {g : Grid} {west north east south : Vec}
    (hwest : west ∈ g.inUse) (hw : west.x = g.box.low.x)
    (hnorth : north ∈ g.inUse) (hn : north.y = g.box.low.y)
    (heast : east ∈ g.inUse) (he : east.x = g.box.high.x)
    (hsouth : south ∈ g.inUse) (hs : south.y = g.box.high.y) : g.Tight := by
  refine ⟨⟨⟨west, hwest, hw⟩, ?_⟩, ⟨⟨north, hnorth, hn⟩, ?_⟩, ⟨⟨east, heast, he⟩, ?_⟩,
    ⟨⟨south, hsouth, hs⟩, ?_⟩⟩
  all_goals
    rintro _ ⟨q, hq, rfl⟩
    obtain ⟨h₁, h₂, h₃, h₄⟩ := contains_of_get_ne_blank hq
    assumption

theorem Tight.of_edge {g g' : Grid} (h : g.Tight) (hbox : g'.box = g.box)
    (hedge : ∀ q, g.box.OnEdge q → q ∈ g.inUse → q ∈ g'.inUse) : g'.Tight := by
  obtain ⟨⟨⟨west, hwest, hw⟩, -⟩, ⟨⟨north, hnorth, hn⟩, -⟩, ⟨⟨east, heast, he⟩, -⟩,
    ⟨⟨south, hsouth, hs⟩, -⟩⟩ := h
  have hkept (q : Vec) (hq : q ∈ g.inUse) (hside : q.x = g.box.low.x ∨ q.y = g.box.low.y ∨
      q.x = g.box.high.x ∨ q.y = g.box.high.y) : q ∈ g'.inUse :=
    hedge q ⟨contains_of_get_ne_blank hq, hside⟩ hq
  exact tight_of_mem (hkept west hwest (.inl hw)) (hbox ▸ hw)
    (hkept north hnorth (.inr (.inl hn))) (hbox ▸ hn)
    (hkept east heast (.inr (.inr (.inl he)))) (hbox ▸ he)
    (hkept south hsouth (.inr (.inr (.inr hs)))) (hbox ▸ hs)

theorem Tight.overwrite {g : Grid} (h : g.Tight) {p : Vec} (hp : g.box.Contains p) {cell : Int}
    (hcell : cell ≠ blank ∨ ¬ g.box.OnEdge p) : (g.overwrite p hp cell).Tight := by
  refine h.of_edge rfl fun q hedge hq => ?_
  rw [mem_inUse_iff, get_overwrite]
  split
  · rename_i hqp
    exact hcell.resolve_right fun hoff => hoff (hqp ▸ hedge)
  · exact hq

theorem Tight.grow {g : Grid} (h : g.Tight) (p : Vec) {cell : Int} (hcell : cell ≠ blank) :
    (g.grow p cell).Tight := by
  obtain ⟨⟨⟨west, hwest, hw⟩, -⟩, ⟨⟨north, hnorth, hn⟩, -⟩, ⟨⟨east, heast, he⟩, -⟩,
    ⟨⟨south, hsouth, hs⟩, -⟩⟩ := h
  have hnew : p ∈ (g.grow p cell).inUse := by
    rw [mem_inUse_iff, get_grow, if_pos rfl]
    exact hcell
  have hold (q : Vec) (hq : q ∈ g.inUse) : q ∈ (g.grow p cell).inUse := by
    rw [mem_inUse_iff, get_grow]
    split
    · exact hcell
    · exact hq
  -- Each side of the grown box is a side of the old box or goes through the new cell.
  have hside (q : Vec) (hq : q ∈ g.inUse) (k : Int) (axis : Vec → Int)
      (h : axis q = k ∨ axis p = k) : ∃ r ∈ (g.grow p cell).inUse, axis r = k :=
    h.elim (fun hk => ⟨q, hold q hq, hk⟩) fun hk => ⟨p, hnew, hk⟩
  obtain ⟨west', hwest', hw'⟩ := hside west hwest (min g.box.low.x p.x) Vec.x (by omega)
  obtain ⟨north', hnorth', hn'⟩ := hside north hnorth (min g.box.low.y p.y) Vec.y (by omega)
  obtain ⟨east', heast', he'⟩ := hside east heast (max g.box.high.x p.x) Vec.x (by omega)
  obtain ⟨south', hsouth', hs'⟩ := hside south hsouth (max g.box.high.y p.y) Vec.y (by omega)
  exact tight_of_mem hwest' hw' hnorth' hn' heast' he' hsouth' hs'

theorem box_shrink (g : Grid) : g.shrink.box = g.usedBox := by
  unfold shrink
  split
  · rename_i h
    exact h.symm
  · rfl

theorem tight_shrink {g : Grid} (h : g.inUse.Nonempty) : g.shrink.Tight := by
  obtain ⟨q, hq⟩ := h
  obtain ⟨left, top, right, bottom, hbox, hcolumns, hrows, ⟨hleft, hright⟩, htop, hbottom⟩ :=
    exists_usedBox_eq hq
  rw [← box_shrink] at hbox
  have hused (i j : Nat) (h : g.get (g.box.position i j) ≠ blank) :
      g.box.position i j ∈ g.shrink.inUse := by
    rw [mem_inUse_iff, get_shrink]
    exact h
  obtain ⟨j₁, -, hwest⟩ := (columnInUse_iff g left).mp hleft
  obtain ⟨i₁, -, hnorth⟩ := (rowInUse_iff g top).mp htop
  obtain ⟨j₂, -, heast⟩ := (columnInUse_iff g right).mp hright
  obtain ⟨i₂, -, hsouth⟩ := (rowInUse_iff g bottom).mp hbottom
  refine tight_of_mem (hused left j₁ hwest) ?_ (hused i₁ top hnorth) ?_ (hused right j₂ heast) ?_
    (hused i₂ bottom hsouth) ?_
  all_goals
    rw [hbox]
    simp only [Box.span, Box.position]
    omega

/-- A write keeps the box tight, unless it erases the last cell in use. -/
theorem Tight.set {g : Grid} (h : g.Tight) (p : Vec) (cell : Int)
    (hused : (g.set p cell).inUse.Nonempty) : (g.set p cell).Tight := by
  revert hused
  rw [Grid.set]
  split
  · rename_i hblank
    split
    · rename_i hp
      split
      · rintro ⟨q, hq⟩
        rw [mem_inUse_iff, get_shrink] at hq
        exact tight_shrink ⟨q, hq⟩
      · rename_i hoff
        exact fun _ => h.overwrite hp (.inr hoff)
    · exact fun _ => h
  · rename_i hcell
    split
    · split
      · rename_i hp
        exact fun _ => h.overwrite hp (.inl hcell)
      · exact fun _ => h.grow p hcell
    · exact fun _ => h

/-- Whether there is a cell in use before, between and after the writes of a list. -/
def StaysInUse (g : Grid) (writes : List (Vec × Int)) : Prop :=
  ∀ earlier, earlier <+: writes → (g.setAll earlier).inUse.Nonempty

theorem Tight.setAll {g : Grid} (h : g.Tight) {writes : List (Vec × Int)}
    (hused : g.StaysInUse writes) : (g.setAll writes).Tight := by
  induction writes generalizing g with
  | nil => exact h
  | cons write rest ih =>
    have hnext : (g.set write.1 write.2).inUse.Nonempty :=
      hused [write] (List.prefix_append [write] rest)
    refine ih (h.set write.1 write.2 hnext) fun earlier hearlier => ?_
    exact hused (write :: earlier) ((List.prefix_cons_inj write).mpr hearlier)

theorem mem_inUse_ofLines {lines : List (List Char)} {q : Vec}
    (h : (ofLines lines).box.Contains q) : q ∈ (ofLines lines).inUse := by
  rw [mem_inUse_iff, get_ofLines, if_pos ((contains_box_iff (low_ofLines lines) q).mp h)]
  exact code_ne_blank _

theorem tight_ofSource (source : String) : (ofSource source).Tight := by
  have hlow : (ofSource source).box.low ∈ (ofSource source).inUse :=
    mem_inUse_ofLines ⟨Int.le_refl _, Box.x_le _, Int.le_refl _, Box.y_le _⟩
  have hhigh : (ofSource source).box.high ∈ (ofSource source).inUse :=
    mem_inUse_ofLines ⟨Box.x_le _, Int.le_refl _, Box.y_le _, Int.le_refl _⟩
  exact tight_of_mem hlow rfl hlow rfl hhigh rfl hhigh rfl

theorem contains_position {b : Box} {i j : Nat} (hi : i < b.columns) (hj : j < b.rows) :
    b.Contains (b.position i j) := by
  have hx := b.high_x
  have hy := b.high_y
  refine ⟨?_, ?_, ?_, ?_⟩ <;> simp only [Box.position] <;> omega

theorem get_position (g : Grid) {i j : Nat} (hi : i < g.box.columns) (hj : j < g.box.rows) :
    g.get (g.box.position i j) = g.cells[j][i] := by
  obtain ⟨b, cells⟩ := g
  have hi' : ((b.position i j).x - b.low.x).toNat = i := by simp only [Box.position]; omega
  have hj' : ((b.position i j).y - b.low.y).toNat = j := by simp only [Box.position]; omega
  rw [get_mk_of_contains cells (contains_position hi hj)]
  simp only [hi', hj']

theorem eq_of_box_of_get {g g' : Grid} (hbox : g.box = g'.box) (hget : ∀ q, g.get q = g'.get q) :
    g = g' := by
  obtain ⟨b, cells⟩ := g
  obtain ⟨b', cells'⟩ := g'
  dsimp only at hbox
  subst hbox
  congr 1
  apply Vector.ext
  intro j hj
  apply Vector.ext
  intro i hi
  have h := hget (b.position i j)
  rwa [get_position ⟨b, cells⟩ hi hj, get_position ⟨b, cells'⟩ hi hj] at h

theorem Tight.eq_of_get {g g' : Grid} (h : g.Tight) (h' : g'.Tight)
    (hget : ∀ q, g.get q = g'.get q) : g = g' := by
  have hused : g.inUse = g'.inUse := by
    ext q
    rw [mem_inUse_iff, mem_inUse_iff, hget]
  refine eq_of_box_of_get ?_ hget
  apply Box.ext <;> apply Vec.ext
  · exact h.west.unique (hused ▸ h'.west)
  · exact h.north.unique (hused ▸ h'.north)
  · exact h.east.unique (hused ▸ h'.east)
  · exact h.south.unique (hused ▸ h'.south)

/-- The box of a loaded and rewritten program is the tight one around the cells in use, if these
were never all erased. So two such grids that read the same are the same, whatever was written to
them and in which order. -/
theorem box_is_canonical {source : String} {writes : List (Vec × Int)}
    (h : (ofSource source).StaysInUse writes) :
    ((ofSource source).setAll writes).Tight ∧
    ∀ (source' : String) (writes' : List (Vec × Int)), (ofSource source').StaysInUse writes' →
      (∀ q, ((ofSource source).setAll writes).get q = ((ofSource source').setAll writes').get q) →
      (ofSource source).setAll writes = (ofSource source').setAll writes' := by
  have htight := (tight_ofSource source).setAll h
  refine ⟨htight, fun source' writes' h' hget => ?_⟩
  exact htight.eq_of_get ((tight_ofSource source').setAll h') hget

theorem staysInUse_of_kept {g : Grid} {q : Vec} (hq : q ∈ g.inUse) {writes : List (Vec × Int)}
    (hkept : ∀ write ∈ writes, write.1 = q → write.2 ≠ blank) : g.StaysInUse writes := by
  intro earlier hearlier
  refine ⟨q, ?_⟩
  induction earlier generalizing g writes with
  | nil => exact hq
  | cons write earlier ih =>
    obtain ⟨rest, rfl⟩ := hearlier
    have hnext : q ∈ (g.set write.1 write.2).inUse := by
      by_cases haccepts : g.Accepts write.1 write.2
      · rw [mem_inUse_iff, get_set_of_accepts haccepts]
        split
        · rename_i hqw
          exact hkept write List.mem_cons_self hqw.symm
        · exact hq
      · rw [set_of_not_accepts haccepts]
        exact hq
    exact ih hnext (fun later hlater => hkept later (List.mem_cons_of_mem write hlater))
      (List.prefix_append earlier rest)

/-- Growing to two corners in either order gives the same grid, also if a third cell, farther away,
is written and erased in between. -/
theorem box_is_canonical_two_histories :
    let plain : List (Vec × Int) := [(⟨-2, -1⟩, 122), (⟨3, 2⟩, 121)]
    let detour : List (Vec × Int) :=
      [(⟨3, 2⟩, 121), (⟨9, 9⟩, 120), (⟨9, 9⟩, blank), (⟨-2, -1⟩, 122)]
    (ofSource "ab").StaysInUse plain ∧ (ofSource "ab").StaysInUse detour ∧
    (ofSource "ab").setAll plain = (ofSource "ab").setAll detour := by
  intro plain detour
  have hcorner : ⟨0, 0⟩ ∈ (ofSource "ab").inUse := mem_inUse_iff.mpr (by decide +kernel)
  have hplain : (ofSource "ab").StaysInUse plain := staysInUse_of_kept hcorner (by decide)
  have hdetour : (ofSource "ab").StaysInUse detour := staysInUse_of_kept hcorner (by decide)
  have hallPlain : (ofSource "ab").effective plain = plain := by decide +kernel
  have hallDetour : (ofSource "ab").effective detour = detour := by decide +kernel
  have hfar : (ofSource "ab").get ⟨9, 9⟩ = blank := by decide +kernel
  refine ⟨hplain, hdetour, (box_is_canonical hplain).2 "ab" detour hdetour fun q => ?_⟩
  rw [get_setAll, get_setAll, hallPlain, hallDetour]
  simp only [plain, detour, List.foldl_cons, List.foldl_nil, Function.update_apply]
  split_ifs <;> simp_all

example :
    let g := (ofSource "a").setAll [(⟨0, 0⟩, blank), (⟨2, 0⟩, 98)]
    g.box = .span ⟨0, 0⟩ ⟨2, 0⟩ ∧ g.get ⟨0, 0⟩ = blank ∧ g.get ⟨1, 0⟩ = blank := by
  decide +kernel

structure SidesInUse (g : Grid) : Prop where
  west : ∃ q ∈ g.inUse, q.x = g.box.low.x
  north : ∃ q ∈ g.inUse, q.y = g.box.low.y
  east : ∃ q ∈ g.inUse, q.x = g.box.high.x
  south : ∃ q ∈ g.inUse, q.y = g.box.high.y

theorem tight_iff_sidesInUse {g : Grid} : g.Tight ↔ g.SidesInUse := by
  constructor
  · intro h
    exact ⟨h.west.1, h.north.1, h.east.1, h.south.1⟩
  · rintro ⟨⟨west, hwest, hw⟩, ⟨north, hnorth, hn⟩, ⟨east, heast, he⟩, ⟨south, hsouth, hs⟩⟩
    exact tight_of_mem hwest hw hnorth hn heast he hsouth hs

theorem get_set_erase {g : Grid} {p : Vec} {cell : Int} (hout : ¬ g.box.Contains p)
    (haccepts : g.Accepts p cell) (q : Vec) : ((g.set p cell).set p blank).get q = g.get q := by
  rw [get_set_of_accepts (.inl rfl), get_set_of_accepts haccepts]
  split
  · rename_i hqp
    rw [hqp, get_of_not_contains hout]
  · rfl

/-- A cell written outside the box is there, and when it is erased again the grid is the one before,
with the same box. The grid needs a cell in use on each side of its box; a loaded and rewritten
program has one, if its cells were never all erased. -/
theorem erase_restores_grid :
    (∀ g : Grid, g.SidesInUse → ∀ (p : Vec) (cell : Int), ¬ g.box.Contains p →
      (g.sizeCovering? p).isSome = true → cell ≠ blank →
      (g.set p cell).get p = cell ∧ (g.set p cell).set p blank = g) ∧
    ∀ (source : String) (writes : List (Vec × Int)), (ofSource source).StaysInUse writes →
      ((ofSource source).setAll writes).SidesInUse := by
  constructor
  · intro g hsides p cell hout hsize hcell
    have haccepts : g.Accepts p cell := .inr hsize
    have hp : (g.set p cell).get p = cell := by rw [get_set_of_accepts haccepts, if_pos rfl]
    refine ⟨hp, ?_⟩
    have htight := tight_iff_sidesInUse.mpr hsides
    have hgrown : (g.set p cell).Tight := htight.set p cell ⟨p, by rwa [mem_inUse_iff, hp]⟩
    have hget := get_set_erase hout haccepts
    obtain ⟨west, hwest, -⟩ := hsides.west
    have hused : ((g.set p cell).set p blank).inUse.Nonempty :=
      ⟨west, by rwa [mem_inUse_iff, hget]⟩
    exact (hgrown.set p blank hused).eq_of_get htight hget
  · intro source writes h
    exact tight_iff_sidesInUse.mp ((tight_ofSource source).setAll h)

/-- A program that has grown to the north-east and lost its first column grows to the south-west and
back. -/
theorem erase_restores_grid_two_sides :
    let writes : List (Vec × Int) := [(⟨5, -3⟩, 120), (⟨0, 0⟩, blank)]
    let g := (ofSource "ab").setAll writes
    ¬ g.box.Contains ⟨-4, 7⟩ ∧ (g.sizeCovering? ⟨-4, 7⟩).isSome = true ∧
    (g.set ⟨-4, 7⟩ 122).set ⟨-4, 7⟩ blank = g := by
  intro writes g
  have hcorner : ⟨1, 0⟩ ∈ (ofSource "ab").inUse := mem_inUse_iff.mpr (by decide +kernel)
  have hsides : g.SidesInUse :=
    erase_restores_grid.2 "ab" writes (staysInUse_of_kept hcorner (by decide))
  have hout : ¬ g.box.Contains ⟨-4, 7⟩ := by decide +kernel
  have hsize : (g.sizeCovering? ⟨-4, 7⟩).isSome = true := by decide +kernel
  exact ⟨hout, hsize, (erase_restores_grid.1 g hsides _ 122 hout hsize (by decide)).2⟩

end Grid

end Gridwalk
