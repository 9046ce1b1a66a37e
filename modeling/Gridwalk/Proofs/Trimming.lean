import Gridwalk.Proofs.Storage

/-! # Trimming a stored grid

A sheet is trimmed in passes that drop the blank row or column of each side in turn, until a pass
drops nothing. Passes are followed here on the box alone. While a cell is in use they end with a
tight box, of which there is only one; on a blank sheet they close in on the middle cell. Either way
the rest is the sheet over the used box, and no check fails on the way to it.
-/

namespace Gridwalk
set_option autoImplicit false

/-! ## Trimming as an operation on boxes -/

namespace Box

def extent (b : Box) : Side → Nat
  | .north | .south => b.rows
  | .west | .east => b.columns

def OnSide (b : Box) (q : Vec) : Side → Prop
  | .north => q.y = b.low.y
  | .south => q.y = b.high.y
  | .west => q.x = b.low.x
  | .east => q.x = b.high.x

/-- The box without the row or column of a side, unless it is the only one. -/
def inner (b : Box) : Side → Box
  | .north => ⟨⟨b.low.x, min (b.low.y + 1) b.high.y⟩, b.high, b.x_le, by dsimp only; omega⟩
  | .south => ⟨b.low, ⟨b.high.x, max (b.high.y - 1) b.low.y⟩, b.x_le, by dsimp only; omega⟩
  | .west => ⟨⟨min (b.low.x + 1) b.high.x, b.low.y⟩, b.high, by dsimp only; omega, b.y_le⟩
  | .east => ⟨b.low, ⟨max (b.high.x - 1) b.low.x, b.high.y⟩, by dsimp only; omega, b.y_le⟩

def BlankOn (b : Box) (f : Vec → Int) (side : Side) : Prop :=
  ∀ q, b.Contains q → b.OnSide q side → f q = blank

variable {b b' : Box} {f : Vec → Int} {side : Side}

theorem liesIn_inner (b : Box) (side : Side) : (b.inner side).LiesIn b := by
  have hX := b.x_le
  have hY := b.y_le
  cases side <;> constructor <;> refine ⟨?_, ?_, ?_, ?_⟩ <;> dsimp only [inner] <;> omega

theorem inner_eq_self_iff : b.inner side = b ↔ ¬ 1 < b.extent side := by
  have hX := b.x_le
  have hY := b.y_le
  rw [Box.ext_iff, Vec.ext_iff, Vec.ext_iff]
  cases side <;> dsimp only [inner, extent, rows, columns] <;> omega

theorem contains_inner {q : Vec} (hq : b.Contains q) (hside : ¬ b.OnSide q side) :
    (b.inner side).Contains q := by
  obtain ⟨h₁, h₂, h₃, h₄⟩ := hq
  cases side <;> simp only [OnSide] at hside <;> refine ⟨?_, ?_, ?_, ?_⟩ <;> dsimp only [inner] <;>
    omega

theorem onSide_of_contains {q : Vec} (hq : b.Contains q) (h : ¬ 1 < b.extent side) :
    b.OnSide q side := by
  obtain ⟨h₁, h₂, h₃, h₄⟩ := hq
  have hX := b.high_x
  have hY := b.high_y
  cases side <;> simp only [extent] at h <;> simp only [OnSide] <;> omega

/-- The middle cell, where the trimming of a blank grid ends. -/
def middle (b : Box) : Vec := b.position (b.columns / 2) (b.rows / 2)

theorem forall_row_iff {P : Vec → Prop} {y : Int} (hlow : b.low.y ≤ y) (hhigh : y ≤ b.high.y) :
    (∀ x, b.low.x ≤ x → x < b.low.x + b.columns → P ⟨x, y⟩) ↔
      ∀ q, b.Contains q → q.y = y → P q := by
  have hX := b.high_x
  constructor
  · rintro h q ⟨hq, hq', -⟩ rfl
    exact h q.x hq (by omega)
  · intro h x hx hx'
    have hin : x ≤ b.high.x := by omega
    exact h ⟨x, y⟩ ⟨hx, hin, hlow, hhigh⟩ rfl

theorem forall_column_iff {P : Vec → Prop} {x : Int} (hlow : b.low.x ≤ x) (hhigh : x ≤ b.high.x) :
    (∀ y, b.low.y ≤ y → y < b.low.y + b.rows → P ⟨x, y⟩) ↔
      ∀ q, b.Contains q → q.x = x → P q := by
  have hY := b.high_y
  constructor
  · rintro h q ⟨-, -, hq, hq'⟩ rfl
    exact h q.y hq (by omega)
  · intro h y hy hy'
    have hin : y ≤ b.high.y := by omega
    exact h ⟨x, y⟩ ⟨hlow, hhigh, hy, hin⟩ rfl

theorem Storable.of_liesIn (hb : b.Storable) (h : b'.LiesIn b) : b'.Storable := by
  have hcolumns := h.columns_le
  have hrows := h.rows_le
  have hlow := hb.fits_of_contains h.low
  have hhigh := hb.fits_of_contains h.high
  obtain ⟨⟨⟨-, hlowX⟩, ⟨-, hfitsX⟩, ⟨-, hlowY⟩, -, hfitsY⟩, -, -⟩ := hb
  obtain ⟨⟨hx, -, hy, -⟩, -⟩ := h
  refine ⟨⟨?_, ?_, ?_, ?_⟩, hhigh.1, hhigh.2⟩ <;> unfold Word.Fits <;>
    unfold Vec.Fits Word.Fits Word.least Word.greatest at * <;> omega

end Box

namespace Sheet

section Table

variable {b b' : Box} {f : Vec → Int} {side : Side}

theorem extent_table : (table b f).extent side = b.extent side := by
  cases side <;> simp [extent, Box.extent]

theorem isBlank_table : (table b f).isBlank side = true ↔ b.BlankOn f side := by
  have hX := b.high_x
  have hY := b.high_y
  cases side with
  | north =>
    refine Iff.trans ?_ (Box.forall_row_iff (Int.le_refl _) b.y_le)
    simp [isBlank, table, head?_along b.rows_pos, forall_mem_along]
  | south =>
    refine Iff.trans ?_ (Box.forall_row_iff b.y_le (Int.le_refl _))
    simp [isBlank, table, getLast?_along b.rows_pos, forall_mem_along, ← hY]
  | west =>
    refine Iff.trans ?_ (Box.forall_column_iff (Int.le_refl _) b.x_le)
    simp [isBlank, table, head?_along b.columns_pos, forall_mem_along]
  | east =>
    refine Iff.trans ?_ (Box.forall_column_iff b.x_le (Int.le_refl _))
    simp [isBlank, table, getLast?_along b.columns_pos, forall_mem_along, ← hX]

theorem sub_offset {low high : Int} (hlow : Word.Fits (-low)) (hhigh : Word.Fits high)
    (hlt : low < high) : Word.sub (-low) 1 = .ok (-(low + 1)) := by
  unfold Word.Fits Word.least Word.greatest at hlow hhigh
  refine Word.check_eq_ok_iff.mpr ⟨?_, by omega⟩
  unfold Word.Fits Word.least Word.greatest
  omega

theorem drop_table (hb : b.Storable) (hextent : 1 < b.extent side) :
    (table b f).drop side = .ok (table (b.inner side) f) := by
  obtain ⟨⟨hlowX, -, hlowY, -⟩, hhighX, hhighY⟩ := hb
  have hX := b.high_x
  have hY := b.high_y
  cases side with
  | north =>
    have hlt : b.low.y < b.high.y := by simp only [Box.extent] at hextent; omega
    have hlow : b.low.y + 1 = (b.inner .north).low.y := by simp only [Box.inner]; omega
    have hrows : b.rows = (b.inner .north).rows + 1 := by simp only [Box.rows, Box.inner]; omega
    have hdropped : (table b f).rows.tail = (table (b.inner .north) f).rows := by
      simp only [table, hrows, tail_along, hlow]
      rfl
    simp only [drop, offset_table, Vec.neg_x, Vec.neg_y, sub_offset hlowY hhighY hlt, hlow,
      hdropped, bind, Except.bind, pure, Except.pure]
    rfl
  | south =>
    have hrows : b.rows = (b.inner .south).rows + 1 := by
      simp only [Box.extent] at hextent
      simp only [Box.rows, Box.inner]
      omega
    have hdropped : (table b f).rows.dropLast = (table (b.inner .south) f).rows := by
      simp only [table, hrows, dropLast_along]
      rfl
    simp only [drop, hdropped, pure, Except.pure]
    rfl
  | west =>
    have hlt : b.low.x < b.high.x := by simp only [Box.extent] at hextent; omega
    have hlow : b.low.x + 1 = (b.inner .west).low.x := by simp only [Box.inner]; omega
    have hcolumns : b.columns = (b.inner .west).columns + 1 := by
      simp only [Box.columns, Box.inner]
      omega
    have hdropped : (table b f).rows.map List.tail = (table (b.inner .west) f).rows := by
      simp only [table, map_along, hcolumns, tail_along, hlow]
      rfl
    simp only [drop, offset_table, Vec.neg_x, Vec.neg_y, sub_offset hlowX hhighX hlt, hlow,
      hdropped, bind, Except.bind, pure, Except.pure]
    rfl
  | east =>
    have hcolumns : b.columns = (b.inner .east).columns + 1 := by
      simp only [Box.extent] at hextent
      simp only [Box.columns, Box.inner]
      omega
    have hdropped : (table b f).rows.map List.dropLast = (table (b.inner .east) f).rows := by
      simp only [table, map_along, hcolumns, dropLast_along]
      rfl
    simp only [drop, hdropped, pure, Except.pure]
    rfl

def trimmed (b : Box) (f : Vec → Int) (side : Side) : Box :=
  if (table b f).isBlank side = true then b.inner side else b

theorem liesIn_trimmed (b : Box) (f : Vec → Int) (side : Side) : (trimmed b f side).LiesIn b := by
  unfold trimmed
  split
  · exact b.liesIn_inner side
  · exact .refl b

theorem covers_trimmed (hf : b.Covers f) (side : Side) : (trimmed b f side).Covers f := by
  intro q hq
  unfold trimmed
  split
  · rename_i hblank
    refine Box.contains_inner (hf q hq) fun hside => hq ?_
    exact isBlank_table.mp hblank q (hf q hq) hside
  · exact hf q hq

theorem trim_table (hb : b.Storable) (f : Vec → Int) (side : Side) : (table b f).trim side =
    .ok (table (trimmed b f side) f, decide (trimmed b f side ≠ b)) := by
  unfold trim trimmed
  rw [extent_table]
  by_cases hblank : (table b f).isBlank side = true
  · by_cases hextent : 1 < b.extent side
    · have hne : b.inner side ≠ b := fun h => Box.inner_eq_self_iff.mp h hextent
      simp [hblank, hextent, hne, drop_table hb hextent, bind, Except.bind, pure, Except.pure]
    · have hsame : b.inner side = b := Box.inner_eq_self_iff.mpr hextent
      simp [hblank, hextent, hsame, pure, Except.pure]
  · simp [hblank, pure, Except.pure]

def passed (b : Box) (f : Vec → Int) : Box :=
  trimmed (trimmed (trimmed (trimmed b f .north) f .south) f .west) f .east

theorem pass_table (hb : b.Storable) (f : Vec → Int) : ∃ again : Bool,
    (table b f).pass = .ok (table (passed b f) f, again) ∧
      (again = false → passed b f = b ∧ ∀ side, trimmed b f side = b) := by
  have hb₁ := hb.of_liesIn (liesIn_trimmed b f .north)
  have hb₂ := hb₁.of_liesIn (liesIn_trimmed _ f .south)
  have hb₃ := hb₂.of_liesIn (liesIn_trimmed _ f .west)
  simp only [pass, trim_table hb, trim_table hb₁, trim_table hb₂, trim_table hb₃, bind, Except.bind,
    pure, Except.pure]
  refine ⟨_, rfl, fun hkept => ?_⟩
  simp only [Bool.or_eq_false_iff, decide_eq_false_iff_not, not_not] at hkept
  obtain ⟨⟨⟨hnorth, hsouth⟩, hwest⟩, heast⟩ := hkept
  rw [hnorth] at hsouth hwest heast
  rw [hsouth] at hwest heast
  rw [hwest] at heast
  refine ⟨by rw [passed, hnorth, hsouth, hwest, heast], fun side => ?_⟩
  cases side <;> assumption

/-! ## What is left is the used box -/

theorem liesIn_passed (b : Box) (f : Vec → Int) : (passed b f).LiesIn b :=
  (liesIn_trimmed _ f .east).trans <| (liesIn_trimmed _ f .west).trans <|
    (liesIn_trimmed _ f .south).trans (liesIn_trimmed b f .north)

theorem covers_passed (hf : b.Covers f) : (passed b f).Covers f := by
  have hnorth := covers_trimmed hf .north
  have hsouth := covers_trimmed hnorth .south
  have hwest := covers_trimmed hsouth .west
  exact covers_trimmed hwest .east

theorem usedBox_congr {q : Vec} (hq : f q ≠ blank) (hf : b.Covers f) (hf' : b'.Covers f) :
    (Grid.tabulate b f).usedBox = (Grid.tabulate b' f).usedBox := by
  have hget := Grid.get_tabulate_of_covers hf
  have hget' := Grid.get_tabulate_of_covers hf'
  have htight : (Grid.tabulate b f).shrink.Tight :=
    Grid.tight_shrink ⟨q, by rwa [Grid.mem_inUse_iff, hget]⟩
  have htight' : (Grid.tabulate b' f).shrink.Tight :=
    Grid.tight_shrink ⟨q, by rwa [Grid.mem_inUse_iff, hget']⟩
  have hsame := htight.eq_of_get htight' fun r => by
    rw [Grid.get_shrink, Grid.get_shrink, hget, hget']
  rw [← Grid.box_shrink, hsame, Grid.box_shrink]

theorem exists_onSide {q : Vec} (hq : f q ≠ blank) (hf : b.Covers f)
    (h : trimmed b f side = b) : ∃ r, f r ≠ blank ∧ b.OnSide r side := by
  by_cases hblank : (table b f).isBlank side = true
  · rw [trimmed, if_pos hblank, Box.inner_eq_self_iff] at h
    exact ⟨q, hq, Box.onSide_of_contains (hf q hq) h⟩
  · rw [isBlank_table, Box.BlankOn] at hblank
    push Not at hblank
    obtain ⟨r, -, hside, hr⟩ := hblank
    exact ⟨r, hr, hside⟩

theorem usedBox_of_inUse {q : Vec} (hq : f q ≠ blank) (hf : b.Covers f)
    (h : ∀ side, trimmed b f side = b) : (Grid.tabulate b f).usedBox = b := by
  have hget := Grid.get_tabulate_of_covers hf
  have hside (side : Side) : ∃ r ∈ (Grid.tabulate b f).inUse, b.OnSide r side := by
    obtain ⟨r, hr, hside⟩ := exists_onSide hq hf (h side)
    exact ⟨r, by rwa [Grid.mem_inUse_iff, hget], hside⟩
  have htight : (Grid.tabulate b f).Tight := Grid.tight_iff_sidesInUse.mpr
    ⟨hside .west, hside .north, hside .east, hside .south⟩
  have hshrunk : (Grid.tabulate b f).shrink.Tight :=
    Grid.tight_shrink ⟨q, by rwa [Grid.mem_inUse_iff, hget]⟩
  rw [← Grid.box_shrink, hshrunk.eq_of_get htight (Grid.get_shrink _)]
  rfl

section Blank

variable (hblank : ∀ q, f q = blank)
include hblank

theorem usedBox_of_blank : (Grid.tabulate b f).usedBox = .span b.middle b.middle := by
  have hget (q : Vec) : (Grid.tabulate b f).get q = blank := by
    rw [Grid.get_tabulate, hblank, ite_self]
  unfold Grid.usedBox
  split
  · rename_i left _ _ _ hleft _ _ _
    obtain ⟨-, hleft, -⟩ := firstBelow?_eq_some_iff.mp hleft
    obtain ⟨j, -, hused⟩ := (Grid.columnInUse_iff _ _).mp hleft
    exact absurd (hget _) hused
  · rfl

theorem trimmed_of_blank (b : Box) (side : Side) : trimmed b f side = b.inner side := by
  rw [trimmed, if_pos (isBlank_table.mpr fun q _ _ => hblank q)]

theorem middle_passed : (passed b f).middle = b.middle := by
  have hX := b.x_le
  have hY := b.y_le
  simp only [passed, trimmed_of_blank hblank]
  ext <;> dsimp only [Box.middle, Box.position, Box.inner, Box.columns, Box.rows] <;> omega

theorem span_middle_of_trimmed (h : ∀ side, trimmed b f side = b) :
    .span b.middle b.middle = b := by
  have hX := b.x_le
  have hY := b.y_le
  have hrows := h .north
  have hcolumns := h .west
  rw [trimmed_of_blank hblank, Box.inner_eq_self_iff] at hrows hcolumns
  dsimp only [Box.extent, Box.columns, Box.rows] at hrows hcolumns
  ext <;> dsimp only [Box.span, Box.middle, Box.position, Box.columns, Box.rows] <;> omega

end Blank

theorem usedBox_passed (hf : b.Covers f) :
    (Grid.tabulate (passed b f) f).usedBox = (Grid.tabulate b f).usedBox := by
  by_cases hblank : ∀ q, f q = blank
  · rw [usedBox_of_blank hblank, usedBox_of_blank hblank, middle_passed hblank]
  · obtain ⟨q, hq⟩ := not_forall.mp hblank
    exact usedBox_congr hq (covers_passed hf) hf

theorem usedBox_of_trimmed (hf : b.Covers f) (h : ∀ side, trimmed b f side = b) :
    (Grid.tabulate b f).usedBox = b := by
  by_cases hblank : ∀ q, f q = blank
  · rw [usedBox_of_blank hblank, span_middle_of_trimmed hblank h]
  · obtain ⟨q, hq⟩ := not_forall.mp hblank
    exact usedBox_of_inUse hq hf h

/-- No check fails on the way, and what is left is the used box, also if all cells are blank. -/
theorem shrink_table (hb : b.Storable) (hf : b.Covers f) :
    (table b f).shrink = .ok (table (Grid.tabulate b f).usedBox f) := by
  induction harea : (table b f).area using Nat.strong_induction_on generalizing b with
  | h n ih =>
    subst harea
    obtain ⟨again, hpass, hkept⟩ := pass_table hb f
    cases again with
    | true =>
      have hb' := hb.of_liesIn (liesIn_passed b f)
      have hrest := ih _ (area_pass hpass) hb' (covers_passed hf) rfl
      rw [shrink_of_trimmed hpass, hrest, usedBox_passed hf]
    | false =>
      obtain ⟨hsame, hsides⟩ := hkept rfl
      rw [shrink_of_kept hpass, hsame, usedBox_of_trimmed hf hsides]

end Table

end Sheet

end Gridwalk
