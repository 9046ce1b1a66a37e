import Gridwalk.Grid.Basic
import Mathlib.Data.Nat.Find
import Mathlib.Logic.Function.Basic

/-! # A grid as a map from positions to cells

However the box grows and shrinks, a write changes what the grid reads at one position and nowhere
else. The exact box after a write is a different matter and is not determined here: for reading it
is enough that the box left by an erasure still holds every cell in use.
-/

namespace Gridwalk
set_option autoImplicit false

section Search

variable {p : Nat → Bool} {n i : Nat}

theorem firstFrom?_eq_some_iff {k : Nat} :
    firstFrom? p k n = some i ↔
      k ≤ i ∧ i < k + n ∧ p i = true ∧ ∀ j, k ≤ j → j < i → p j = false := by
  induction n generalizing k with
  | zero =>
    simp only [firstFrom?, Nat.add_zero, reduceCtorEq, false_iff]
    rintro ⟨hki, hik, -⟩
    omega
  | succ n ih =>
    rw [firstFrom?]
    split
    · rename_i hk
      constructor
      · intro h
        cases h
        exact ⟨Nat.le_refl _, by omega, hk, fun j hkj hjk => by omega⟩
      · rintro ⟨hki, -, -, hbefore⟩
        have hne : ¬ k < i := fun h =>
          Bool.false_ne_true ((hbefore k (Nat.le_refl k) h).symm.trans hk)
        exact congrArg some (by omega)
    · rename_i hk
      rw [ih]
      constructor
      · rintro ⟨hki, hin, hi, hbefore⟩
        refine ⟨by omega, by omega, hi, fun j hkj hji => ?_⟩
        rcases Nat.eq_or_lt_of_le hkj with rfl | hlt
        · exact Bool.eq_false_iff.mpr hk
        · exact hbefore j hlt hji
      · rintro ⟨hki, hin, hi, hbefore⟩
        have hne : k ≠ i := fun h => hk (h ▸ hi)
        exact ⟨by omega, by omega, hi, fun j hkj hji => hbefore j (by omega) hji⟩

theorem firstBelow?_eq_some_iff :
    firstBelow? p n = some i ↔ i < n ∧ p i = true ∧ ∀ j < i, p j = false := by
  simp [firstBelow?, firstFrom?_eq_some_iff]

theorem exists_firstBelow?_le (hi : i < n) (h : p i = true) :
    ∃ k ≤ i, firstBelow? p n = some k := by
  classical
  have hex : ∃ j, p j = true := ⟨i, h⟩
  have hle : Nat.find hex ≤ i := Nat.find_le h
  refine ⟨Nat.find hex, hle, firstBelow?_eq_some_iff.mpr ⟨by omega, Nat.find_spec hex, ?_⟩⟩
  intro j hj
  exact Bool.eq_false_iff.mpr (Nat.find_min hex hj)

theorem exists_le_lastBelow? (hi : i < n) (h : p i = true) : ∃ k ≥ i, lastBelow? p n = some k := by
  induction n with
  | zero => omega
  | succ n ih =>
    rw [lastBelow?]
    split
    · exact ⟨n, by omega, rfl⟩
    · rename_i hn
      have hne : i ≠ n := fun he => hn (he ▸ h)
      exact ih (by omega)

theorem of_lastBelow?_eq_some (h : lastBelow? p n = some i) : p i = true := by
  induction n with
  | zero => cases h
  | succ n ih =>
    rw [lastBelow?] at h
    split at h
    · rename_i hn
      cases h
      exact hn
    · exact ih h

theorem lt_of_lastBelow?_eq_some (h : lastBelow? p n = some i) : i < n := by
  induction n with
  | zero => cases h
  | succ n ih =>
    rw [lastBelow?] at h
    split at h
    · cases h
      exact Nat.lt_succ_self i
    · exact Nat.lt_succ_of_lt (ih h)

theorem existsBelow_iff : existsBelow p n = true ↔ ∃ i < n, p i = true := by
  rw [existsBelow, Option.isSome_iff_exists]
  constructor
  · rintro ⟨i, hi⟩
    obtain ⟨hin, h, -⟩ := firstBelow?_eq_some_iff.mp hi
    exact ⟨i, hin, h⟩
  · rintro ⟨i, hin, h⟩
    obtain ⟨k, -, hk⟩ := exists_firstBelow?_le hin h
    exact ⟨k, hk⟩

end Search

namespace Grid

theorem code_ne_blank (c : Char) : Text.code c ≠ blank := by
  have hnonneg : 0 ≤ Text.code c := Int.natCast_nonneg _
  intro h
  rw [h] at hnonneg
  exact absurd hnonneg (by decide)

theorem contains_of_get_ne_blank {g : Grid} {q : Vec} (h : g.get q ≠ blank) : g.box.Contains q := by
  by_contra hq
  exact h (get_of_not_contains hq)

theorem rowInUse_iff (g : Grid) (j : Nat) :
    g.rowInUse j = true ↔ ∃ i < g.width, g.get (g.box.position i j) ≠ blank := by
  simp [rowInUse, existsBelow_iff]

theorem columnInUse_iff (g : Grid) (i : Nat) :
    g.columnInUse i = true ↔ ∃ j < g.height, g.get (g.box.position i j) ≠ blank := by
  simp [columnInUse, existsBelow_iff]

theorem exists_usedBox_eq {g : Grid} {q : Vec} (h : g.get q ≠ blank) :
    ∃ left top right bottom : Nat,
      g.usedBox = Box.span (g.box.position left top) (g.box.position right bottom) ∧
      (left ≤ (q.x - g.box.low.x).toNat ∧ (q.x - g.box.low.x).toNat ≤ right) ∧
      (top ≤ (q.y - g.box.low.y).toNat ∧ (q.y - g.box.low.y).toNat ≤ bottom) ∧
      (g.columnInUse left = true ∧ g.columnInUse right = true) ∧
      g.rowInUse top = true ∧ g.rowInUse bottom = true := by
  have hq := contains_of_get_ne_blank h
  have hget := h
  rw [← Box.position_toNat hq] at hget
  have hcolumn := (columnInUse_iff g _).mpr ⟨_, row_lt hq, hget⟩
  have hrow := (rowInUse_iff g _).mpr ⟨_, column_lt hq, hget⟩
  obtain ⟨left, hleft, hfirstColumn⟩ := exists_firstBelow?_le (column_lt hq) hcolumn
  obtain ⟨right, hright, hlastColumn⟩ := exists_le_lastBelow? (column_lt hq) hcolumn
  obtain ⟨top, htop, hfirstRow⟩ := exists_firstBelow?_le (row_lt hq) hrow
  obtain ⟨bottom, hbottom, hlastRow⟩ := exists_le_lastBelow? (row_lt hq) hrow
  refine ⟨left, top, right, bottom, ?_, ⟨hleft, hright⟩, ⟨htop, hbottom⟩,
    ⟨(firstBelow?_eq_some_iff.mp hfirstColumn).2.1, of_lastBelow?_eq_some hlastColumn⟩,
    (firstBelow?_eq_some_iff.mp hfirstRow).2.1, of_lastBelow?_eq_some hlastRow⟩
  simp only [usedBox, width, height, hfirstColumn, hfirstRow, hlastColumn, hlastRow]

theorem contains_usedBox {g : Grid} {q : Vec} (h : g.get q ≠ blank) : g.usedBox.Contains q := by
  obtain ⟨h₁, -, h₂, -⟩ := contains_of_get_ne_blank h
  obtain ⟨left, top, right, bottom, hbox, hcolumns, hrows, -⟩ := exists_usedBox_eq h
  rw [hbox]
  refine ⟨?_, ?_, ?_, ?_⟩ <;> dsimp only [Box.span, Box.position] <;> omega

theorem get_tabulate_of_covers {b : Box} {f : Vec → Int} (h : ∀ q, f q ≠ blank → b.Contains q)
    (p : Vec) : (tabulate b f).get p = f p := by
  rw [get_tabulate]
  split
  · rfl
  · rename_i hout
    by_contra hne
    exact hout (h p (Ne.symm hne))

@[simp] theorem get_shrink (g : Grid) (q : Vec) : g.shrink.get q = g.get q := by
  unfold shrink
  split
  · rfl
  · exact get_tabulate_of_covers (fun _ => contains_usedBox) q

theorem get_grow (g : Grid) (p : Vec) (cell : Int) (q : Vec) :
    (g.grow p cell).get q = if q = p then cell else g.get q := by
  refine get_tabulate_of_covers (fun r hr => ?_) q
  by_cases hrp : r = p
  · rw [hrp]
    exact g.box.contains_hull_self p
  · rw [if_neg hrp] at hr
    exact Box.contains_hull_of_contains (contains_of_get_ne_blank hr) p

/-- Whether a write takes effect. An erasure always does, any other write if the grown box can be
addressed. -/
def Accepts (g : Grid) (p : Vec) (cell : Int) : Prop :=
  cell = blank ∨ (g.sizeCovering? p).isSome = true

instance (g : Grid) (p : Vec) (cell : Int) : Decidable (g.Accepts p cell) :=
  inferInstanceAs (Decidable (_ ∨ _))

theorem get_set_of_accepts {g : Grid} {p : Vec} {cell : Int} (h : g.Accepts p cell) (q : Vec) :
    (g.set p cell).get q = if q = p then cell else g.get q := by
  rw [set]
  split
  · rename_i hblank
    split
    · rename_i hp
      split
      · rw [get_shrink, get_overwrite]
      · rw [get_overwrite]
    · rename_i hp
      split
      · rename_i hqp
        rw [hqp, get_of_not_contains hp, hblank]
      · rfl
  · rename_i hcell
    rw [if_pos (h.resolve_left hcell)]
    split
    · rw [get_overwrite]
    · rw [get_grow]

theorem set_of_not_accepts {g : Grid} {p : Vec} {cell : Int} (h : ¬ g.Accepts p cell) :
    g.set p cell = g := by
  obtain ⟨hcell, hsize⟩ := not_or.mp h
  rw [set, if_neg hcell, if_neg hsize]

def setAll (g : Grid) (writes : List (Vec × Int)) : Grid :=
  writes.foldl (fun g write => g.set write.1 write.2) g

def effective (g : Grid) : List (Vec × Int) → List (Vec × Int)
  | [] => []
  | write :: rest =>
    let later := effective (g.set write.1 write.2) rest
    if g.Accepts write.1 write.2 then write :: later else later

theorem get_setAll (g : Grid) (writes : List (Vec × Int)) :
    (g.setAll writes).get =
      (g.effective writes).foldl (fun f write => Function.update f write.1 write.2) g.get := by
  induction writes generalizing g with
  | nil => rfl
  | cons write rest ih =>
    have hrest := ih (g.set write.1 write.2)
    rw [effective]
    by_cases h : g.Accepts write.1 write.2
    · have hupdate : (g.set write.1 write.2).get = Function.update g.get write.1 write.2 := by
        funext q
        rw [get_set_of_accepts h, Function.update_apply]
      rw [if_pos h, List.foldl_cons, ← hupdate]
      exact hrest
    · have hsame : (g.set write.1 write.2).get = g.get := by rw [set_of_not_accepts h]
      rw [if_neg h, ← hsame]
      exact hrest

/-- A write that takes effect changes the cell at its position and no other; any other write changes
nothing, not even the box. So whatever the history of a grid, it reads like a map. -/
theorem set_implements_update (g : Grid) :
    (∀ p cell, cell = blank ∨ (g.sizeCovering? p).isSome = true →
      ∀ q, (g.set p cell).get q = if q = p then cell else g.get q) ∧
    (∀ p cell, cell ≠ blank → g.sizeCovering? p = none → g.set p cell = g) ∧
    ∀ writes, (g.setAll writes).get =
      (g.effective writes).foldl (fun f write => Function.update f write.1 write.2) g.get := by
  refine ⟨fun p cell h q => get_set_of_accepts h q, fun p cell hcell hsize => ?_, get_setAll g⟩
  apply set_of_not_accepts
  rintro (h | h)
  · exact hcell h
  · rw [hsize] at h
    cases h

/-- Growing to the north-west leaves the cell in the opposite corner where it was. -/
theorem set_implements_update_north_west :
    let g := tabulate (Box.span ⟨0, 0⟩ ⟨1, 1⟩) fun p => 97 + p.x
    (g.sizeCovering? ⟨-2, -1⟩).isSome = true ∧ (g.set ⟨-2, -1⟩ 122).get ⟨1, 1⟩ = 98 := by
  intro g
  have hsize : (g.sizeCovering? ⟨-2, -1⟩).isSome = true := by decide
  exact ⟨hsize, (set_implements_update g).1 _ _ (.inr hsize) ⟨1, 1⟩⟩

end Grid

end Gridwalk
