import Gridwalk.Proofs.Trimming
import Mathlib.Algebra.Order.BigOperators.Group.List

/-! # Every write can be addressed

A write to a stored grid does what it does to the grid, and no check fails: before the sheet grows,
the extents of the hull are computed in 128 bits and compared with the range, and a grid that came
from a text by such writes always fits it.
-/

namespace Gridwalk
set_option autoImplicit false

theorem Box.Storable.hull {b : Box} {p : Vec} (hb : b.Storable) (hp : p.Fits)
    (h : (b.hull p).Addressable) : (b.hull p).Storable := by
  obtain ⟨-, ⟨h₁, h₂⟩, h₃, h₄⟩ := hb
  obtain ⟨⟨h₅, h₆⟩, h₇, h₈⟩ := hp
  refine ⟨h, ?_, ?_⟩ <;> unfold Word.Fits <;> dsimp only [Box.hull] <;> omega

/-! ## The writes of a grid -/

namespace Grid

section Writes

variable {g : Grid} {p : Vec} {cell : Int}

theorem tabulate_get (g : Grid) : tabulate g.box g.get = g :=
  eq_of_box_of_get rfl (get_tabulate_of_covers g.covers_box)

theorem shrink_sheet (hb : g.box.Storable) : g.sheet.shrink = .ok g.shrink.sheet := by
  have hget : g.shrink.get = g.get := funext g.get_shrink
  have hshrunk := Sheet.shrink_table hb g.covers_box
  rw [sheet_eq, hshrunk, tabulate_get, sheet_eq, box_shrink, hget]

theorem get?_sheet (hb : g.box.Storable) (p : Vec) : g.sheet.get? p = some (g.get p) := by
  rw [sheet_eq]
  exact Sheet.get?_table hb.addressable g.covers_box

theorem sizeCovering?_eq (hb : g.box.Storable) (p : Vec) : g.sizeCovering? p =
    if (g.box.hull p).Addressable then some ((g.box.hull p).columns, (g.box.hull p).rows)
    else none := by
  have hinside : g.box.Contains p → (g.box.hull p).Addressable := fun hin =>
    (Box.hull_of_contains hin).symm ▸ hb.addressable
  simp only [sizeCovering?, or_iff_right_of_imp hinside]

theorem isSome_sizeCovering?_iff (hb : g.box.Storable) :
    (g.sizeCovering? p).isSome = true ↔ (g.box.hull p).Addressable := by
  rw [sizeCovering?_eq hb]
  split <;> simp [*]

theorem sizeCovering?_eq_some_iff (hb : g.box.Storable) {width height : Nat} :
    g.sizeCovering? p = some (width, height) ↔
      (g.box.hull p).Addressable ∧ width = (g.box.hull p).columns ∧
        height = (g.box.hull p).rows := by
  rw [sizeCovering?_eq hb]
  split <;> simp [*, eq_comm]

theorem sizeCovering?_sheet (hb : g.box.Storable) (hp : p.Fits) : g.sheet.sizeCovering? p =
    .ok ((g.sizeCovering? p).map fun size => ((size.1 : Int), (size.2 : Int))) := by
  rw [sheet_eq, Sheet.sizeCovering?_table hb hp, sizeCovering?_eq hb]
  split <;> rfl

theorem sheet_overwrite (h : g.box.Contains p) (cell : Int) :
    (g.overwrite p h cell).sheet = .table g.box fun q => if q = p then cell else g.get q := by
  rw [sheet_eq, funext (get_overwrite g h cell)]
  rfl

theorem set_sheet_blank (hb : g.box.Storable) :
    g.sheet.set p blank = .ok (g.set p blank).sheet := by
  rw [Sheet.set, if_pos rfl, set, if_pos rfl, sheet_eq g, Sheet.index?_table hb.addressable]
  by_cases hin : g.box.Contains p
  · rw [if_pos hin, dif_pos hin]
    simp only [Sheet.onEdge_table hb, Sheet.write_table hin, ← sheet_overwrite hin, bind,
      Except.bind]
    by_cases hedge : g.box.OnEdge p
    · rw [if_pos hedge, if_pos (decide_eq_true hedge)]
      exact shrink_sheet (g := g.overwrite p hin blank) hb
    · rw [if_neg hedge, if_neg (by simpa using hedge)]
      rfl
  · rw [if_neg hin, dif_neg hin, sheet_eq]
    rfl

theorem sheet_set (hcell : cell ≠ blank) (hsize : (g.sizeCovering? p).isSome = true) :
    (g.set p cell).sheet = .table (g.box.hull p) fun q => if q = p then cell else g.get q := by
  rw [sheet_eq, box_set hcell hsize, funext (get_set_of_accepts (.inr hsize))]

theorem set_sheet_of_ne_blank (hb : g.box.Storable) (hp : p.Fits) (hcell : cell ≠ blank) :
    g.sheet.set p cell = .ok (g.set p cell).sheet := by
  rw [Sheet.set, if_neg hcell, sizeCovering?_sheet hb hp]
  cases hsize : g.sizeCovering? p with
  | none =>
    rw [set, if_neg hcell, hsize]
    rfl
  | some size =>
    have hsome : (g.sizeCovering? p).isSome = true := hsize ▸ rfl
    have haddress := (isSome_sizeCovering?_iff hb).mp hsome
    have hgrown := Sheet.growTo_table g.covers_box haddress
    have hplace : (Sheet.table (g.box.hull p) g.get).index? p =
        some ((p.x - (g.box.hull p).low.x).toNat, (p.y - (g.box.hull p).low.y).toNat) := by
      rw [Sheet.index?_table haddress, if_pos (g.box.contains_hull_self p)]
    rw [sheet_set hcell hsome, ← Sheet.write_table (g.box.contains_hull_self p), sheet_eq]
    simp only [hgrown, hplace, Option.map_some, bind, Except.bind, pure, Except.pure]

theorem set_sheet (hb : g.box.Storable) (hp : p.Fits) (cell : Int) :
    g.sheet.set p cell = .ok (g.set p cell).sheet := by
  by_cases hcell : cell = blank
  · subst hcell
    exact set_sheet_blank hb
  · exact set_sheet_of_ne_blank hb hp hcell

theorem storable_set (hb : g.box.Storable) (hp : p.Fits) (cell : Int) :
    (g.set p cell).box.Storable := by
  by_cases hcell : cell = blank
  · subst hcell
    exact hb.of_liesIn (liesIn_box_erase g p)
  · by_cases hsize : (g.sizeCovering? p).isSome = true
    · rw [box_set hcell hsize]
      exact hb.hull hp ((isSome_sizeCovering?_iff hb).mp hsize)
    · rw [set, if_neg hcell, if_neg hsize]
      exact hb

theorem storable_setAll (hb : g.box.Storable) {writes : List (Vec × Int)}
    (h : ∀ write ∈ writes, write.1.Fits) : (g.setAll writes).box.Storable := by
  induction writes generalizing g with
  | nil => exact hb
  | cons write rest ih =>
    obtain ⟨hfirst, hrest⟩ := List.forall_mem_cons.mp h
    exact ih (storable_set hb hfirst write.2) hrest

theorem setAll_sheet (hb : g.box.Storable) {writes : List (Vec × Int)}
    (h : ∀ write ∈ writes, write.1.Fits) :
    writes.foldlM (fun s write => s.set write.1 write.2) g.sheet = .ok (g.setAll writes).sheet := by
  induction writes generalizing g with
  | nil => rfl
  | cons write rest ih =>
    obtain ⟨hfirst, hrest⟩ := List.forall_mem_cons.mp h
    rw [List.foldlM_cons, set_sheet hb hfirst]
    exact ih (storable_set hb hfirst write.2) hrest

end Writes

/-! ## A text fits -/

/-- Each line takes its characters and a line feed, only the last one has no line feed. -/
theorem sum_lines (s : List Char) : ((Text.lines s).map (·.length + 1)).sum = s.length + 1 := by
  induction s with
  | nil => rfl
  | cons c cs ih =>
    rw [Text.lines]
    split
    · rw [List.map_cons, List.sum_cons, ih, List.length_nil, List.length_cons]
      omega
    · split
      · rename_i hnil
        rw [hnil] at ih
        simp at ih
      · rename_i line rest hlines
        rw [hlines, List.map_cons, List.sum_cons] at ih
        rw [List.map_cons, List.sum_cons, List.length_cons, List.length_cons]
        omega

theorem length_dropReturn_le (line : List Char) : (dropReturn line).length ≤ line.length := by
  unfold dropReturn
  split
  · rw [List.length_dropLast]
    exact Nat.sub_le _ _
  · exact Nat.le_refl _

theorem sum_sourceLines_le (source : List Char) :
    ((sourceLines source).map (·.length + 1)).sum ≤ source.length + 1 := by
  have hkept : (sourceLines source).Sublist ((Text.lines source).map dropReturn) := by
    rw [← List.reverse_sublist, sourceLines, List.reverse_reverse]
    exact List.dropWhile_sublist _
  calc ((sourceLines source).map (·.length + 1)).sum
      ≤ (((Text.lines source).map dropReturn).map (·.length + 1)).sum :=
        (hkept.map _).sum_le_sum fun _ _ => Nat.zero_le _
    _ ≤ ((Text.lines source).map (·.length + 1)).sum := by
        rw [List.map_map]
        exact List.sum_le_sum fun line _ => Nat.succ_le_succ (length_dropReturn_le line)
    _ = source.length + 1 := sum_lines source

theorem length_le_of_mem_sourceLines {source line : List Char} (h : line ∈ sourceLines source) :
    line.length ≤ source.length := by
  have hline := List.single_le_sum (fun _ _ => Nat.zero_le _) _
    (List.mem_map_of_mem (f := (·.length + 1)) h)
  have hsum := sum_sourceLines_le source
  omega

/-- The last line is not empty, so it makes up for the line feed that it lacks. -/
theorem length_sourceLines_le (source : List Char) :
    (sourceLines source).length ≤ source.length := by
  have hsum := sum_sourceLines_le source
  have hlast := List.head?_dropWhile_not List.isEmpty ((Text.lines source).map dropReturn).reverse
  have hlines : ((Text.lines source).map dropReturn).reverse.dropWhile List.isEmpty =
      (sourceLines source).reverse := by
    rw [sourceLines, List.reverse_reverse]
  rw [hlines] at hlast
  rw [← List.sum_reverse, ← List.map_reverse] at hsum
  rw [← List.length_reverse]
  cases hreverse : (sourceLines source).reverse with
  | nil => exact Nat.zero_le _
  | cons last rest =>
    rw [hreverse] at hlast hsum
    have hne : 0 < last.length := by simpa [List.length_pos_iff] using hlast
    have hrest := List.length_le_sum_of_one_le (rest.map (·.length + 1)) (by simp)
    rw [List.length_map] at hrest
    rw [List.map_cons, List.sum_cons] at hsum
    rw [List.length_cons]
    omega

theorem width_ofSource_le (source : String) : (ofSource source).width ≤ max source.length 1 := by
  have hlength : source.toList.length = source.length := String.length_toList
  rw [ofSource, width_ofLines]
  obtain hone | hlongest := (isGreatest_foldr_max ((sourceLines source.toList).map List.length)).1
  · exact hone.trans_le (Nat.le_max_right _ _)
  · obtain ⟨row, hrow, hwidth⟩ := List.mem_map.mp hlongest
    have hle := length_le_of_mem_sourceLines hrow
    omega

theorem height_ofSource_le (source : String) : (ofSource source).height ≤ max source.length 1 := by
  have hlength : source.toList.length = source.length := String.length_toList
  have hle := length_sourceLines_le source.toList
  rw [ofSource, height_ofLines]
  omega

theorem storable_ofSource {source : String} (h : (source.length : Int) ≤ Word.greatest) :
    (ofSource source).box.Storable := by
  have hlow : (ofSource source).box.low = .zero := low_ofLines _
  have hcolumns := width_ofSource_le source
  have hrows := height_ofSource_le source
  have hX := (ofSource source).box.high_x
  have hY := (ofSource source).box.high_y
  rw [hlow] at hX hY
  unfold Word.greatest at h
  unfold width at hcolumns
  unfold height at hrows
  refine ⟨⟨?_, ?_, ?_, ?_⟩, ?_, ?_⟩ <;> unfold Word.Fits Word.least Word.greatest <;>
    simp only [hlow, Vec.zero] at * <;> omega

theorem addressable_hull_iff {b : Box} {p : Vec} (hp : p.Fits) :
    (b.hull p).Addressable ↔ (Word.least < (b.hull p).low.x ∧ Word.least < (b.hull p).low.y) ∧
      Word.Fits (b.hull p).columns ∧ Word.Fits (b.hull p).rows := by
  have hx : (b.hull p).low.x ≤ p.x := Int.min_le_right _ _
  have hy : (b.hull p).low.y ≤ p.y := Int.min_le_right _ _
  obtain ⟨⟨-, hpx⟩, -, hpy⟩ := hp
  have hnegX : Word.Fits (-(b.hull p).low.x) ↔ Word.least < (b.hull p).low.x := by
    unfold Word.Fits Word.least Word.greatest at *
    omega
  have hnegY : Word.Fits (-(b.hull p).low.y) ↔ Word.least < (b.hull p).low.y := by
    unfold Word.Fits Word.least Word.greatest at *
    omega
  rw [Box.Addressable, hnegX, hnegY]
  tauto

/-- Take any text whose length fits 64 bits, rewrite it at 64-bit positions and store it as a sheet.
No operation on the sheet overflows on the way, and none does afterwards; every position reads as in
the grid. The size for covering a position is known exactly if the hull has its low corner above the
least number and extents that fit, and a write there leaves a grid of that size, over the hull. -/
theorem sizeCovering_predicts_growth {source : String} {writes : List (Vec × Int)} {p : Vec}
    (hsource : (source.length : Int) ≤ Word.greatest)
    (hwrites : ∀ write ∈ writes, write.1.Fits) (hp : p.Fits) :
    let g := (ofSource source).setAll writes
    let hull := g.box.hull p
    (writes.foldlM (fun s write => s.set write.1 write.2) (ofSource source).sheet = .ok g.sheet ∧
      (g.sheet.low = .ok g.box.low ∧ g.sheet.high = .ok g.box.high) ∧
      (∀ q, g.sheet.get? q = some (g.get q)) ∧
      g.sheet.sizeCovering? p =
        .ok ((g.sizeCovering? p).map fun size => ((size.1 : Int), (size.2 : Int))) ∧
      ∀ cell, g.sheet.set p cell = .ok (g.set p cell).sheet) ∧
    (∀ width height, g.sizeCovering? p = some (width, height) ↔
      ((Word.least < hull.low.x ∧ Word.least < hull.low.y) ∧
        Word.Fits hull.columns ∧ Word.Fits hull.rows) ∧
      width = hull.columns ∧ height = hull.rows) ∧
    ∀ cell, cell ≠ blank → ∀ width height, g.sizeCovering? p = some (width, height) →
      (g.set p cell).width = width ∧ (g.set p cell).height = height ∧
        (g.set p cell).box = hull := by
  intro g hull
  have hb : g.box.Storable := storable_setAll (storable_ofSource hsource) hwrites
  refine ⟨⟨setAll_sheet (storable_ofSource hsource) hwrites, ?_, get?_sheet hb,
    sizeCovering?_sheet hb hp, set_sheet hb hp⟩, fun width height => ?_,
    fun cell hcell width height hsize => ?_⟩
  · rw [sheet_eq]
    exact Sheet.corners_table hb g.get
  · rw [← addressable_hull_iff hp]
    exact sizeCovering?_eq_some_iff hb
  · have hbox : (g.set p cell).box = hull := box_set hcell (hsize ▸ rfl)
    obtain ⟨hwidth, hheight⟩ := eq_of_sizeCovering? hsize
    refine ⟨?_, ?_, hbox⟩
    · rw [Grid.width, hbox, hwidth]
    · rw [Grid.height, hbox, hheight]

/-- A program that has grown to the north-west and lost its last column can grow to the east until
it has as many columns as 64 bits count, and by no more. -/
theorem sizeCovering_predicts_growth_to_the_limit :
    let writes : List (Vec × Int) := [(⟨-2, -1⟩, 122), (⟨1, 0⟩, blank)]
    let g := (ofSource "ab").setAll writes
    let p : Vec := ⟨0x7FFFFFFFFFFFFFFC, 0⟩
    g.sizeCovering? p = some (0x7FFFFFFFFFFFFFFF, 2) ∧ (g.set p 120).box = .span ⟨-2, -1⟩ p ∧
    g.sheet.set p 120 = .ok (g.set p 120).sheet ∧ g.sheet.get? ⟨-2, -1⟩ = some 122 ∧
    g.sizeCovering? ⟨0x7FFFFFFFFFFFFFFD, 0⟩ = none := by
  intro writes g p
  have hsource : (("ab".length : Nat) : Int) ≤ Word.greatest := by decide +kernel
  have hwrites : ∀ write ∈ writes, write.1.Fits := by
    intro write hwrite
    simp only [writes, List.mem_cons, List.not_mem_nil, or_false] at hwrite
    rcases hwrite with rfl | rfl <;> exact ⟨by decide, by decide⟩
  have hgrowth := sizeCovering_predicts_growth hsource hwrites (p := p) ⟨by decide, by decide⟩
  have hhull : g.box.hull p = .span ⟨-2, -1⟩ p := by decide +kernel
  have hsize : g.sizeCovering? p = some (0x7FFFFFFFFFFFFFFF, 2) := by decide +kernel
  have hbeyond : g.sizeCovering? ⟨0x7FFFFFFFFFFFFFFD, 0⟩ = none := by decide +kernel
  have hread : g.get ⟨-2, -1⟩ = 122 := by decide +kernel
  exact ⟨hsize, ((hgrowth.2.2 120 (by decide) _ _ hsize).2.2).trans hhull, hgrowth.1.2.2.2.2 120,
    hread ▸ hgrowth.1.2.2.1 ⟨-2, -1⟩, hbeyond⟩

end Grid

end Gridwalk
