import Gridwalk.Text.Character
import Mathlib.Data.Char
import Mathlib.Data.List.Chain
import Mathlib.Data.List.Destutter
import Mathlib.Order.Cover

/-! # Ranges as walks of unit steps

A walk up goes from each character to the one that covers it, since the code points left out are no
characters. A walk down is a walk up read backwards. So a text is expanded to a chain of neighbours,
and such a chain has nothing to fill in.
-/

namespace Gridwalk.Text
set_option autoImplicit false

def Neighbours (c d : Char) : Prop := c ⋖ d ∨ d ⋖ c

theorem Neighbours.symm {c d : Char} (h : Neighbours c d) : Neighbours d c := Or.symm h

theorem covBy_across_gap : Char.ofNat 0xD7FF ⋖ Char.ofNat 0xE000 := by
  refine ⟨by decide, fun c hlow hhigh => ?_⟩
  have hlow : 0xD7FF < c.toNat := hlow
  have hhigh : c.toNat < 0xE000 := hhigh
  have hvalid : c.toNat.isValidChar := c.valid
  unfold Nat.isValidChar at hvalid
  omega

theorem scalars_cons_of_none {n : Nat} (h : scalar? n = none) (points : List Nat) :
    scalars (n :: points) = scalars points :=
  List.filterMap_cons_none h

theorem scalars_cons_toNat (c : Char) (points : List Nat) :
    scalars (c.toNat :: points) = c :: scalars points :=
  List.filterMap_cons_some (scalar?_code c)

theorem scalars_reverse (points : List Nat) : scalars points.reverse = (scalars points).reverse :=
  List.filterMap_reverse

/-- The characters among consecutive code points follow each other directly, and the first one
follows `c` if no character is between `c` and the first code point. -/
theorem isChain_covBy_scalars (count : Nat) {c : Char} {n : Nat} (hc : c.toNat < n)
    (hgap : ∀ e : Char, c < e → n ≤ e.toNat) :
    (c :: scalars (List.range' n count)).IsChain (· ⋖ ·) := by
  induction count generalizing c n with
  | zero => exact .singleton c
  | succ count ih =>
    rw [List.range'_succ]
    cases hn : scalar? n with
    | none =>
      rw [scalars_cons_of_none hn]
      refine ih (Nat.lt_succ_of_lt hc) fun e he => Nat.lt_of_le_of_ne (hgap e he) ?_
      rintro rfl
      exact absurd (scalar?_code e) (by simp [code, hn])
    | some d =>
      obtain rfl : n = d.toNat := Int.ofNat.inj (scalar?_eq_some_iff.mp hn)
      rw [scalars_cons_toNat]
      refine .cons_cons ⟨hc, fun e he => Nat.not_lt.mpr (hgap e he)⟩ ?_
      exact ih (Nat.lt_succ_self _) fun e he => he

theorem isChain_covBy_walk {c d : Char} (h : c ≤ d) : (c :: walk c d).IsChain (· ⋖ ·) := by
  have hle : c.toNat ≤ d.toNat := h
  rw [walk, pointsTo, if_pos hle]
  exact isChain_covBy_scalars _ (Nat.lt_succ_self _) fun e he => he

theorem reverse_pointsTo (m n : Nat) : (n :: pointsTo n m).reverse = m :: pointsTo m n := by
  have hup : ∀ m n, m < n → (n :: pointsTo n m).reverse = m :: pointsTo m n := by
    intro m n hmn
    rw [pointsTo, pointsTo, if_neg (Nat.not_le.mpr hmn), if_pos hmn.le]
    calc
      (n :: (List.range' m (n - m)).reverse).reverse
        = List.range' m (n - m) ++ [m + (n - m)] := by simp [hmn.le]
      _ = List.range' m (n - m + 1) := List.range'_1_concat.symm
      _ = m :: List.range' (m + 1) (n - m) := List.range'_succ
  obtain hmn | rfl | hnm := Nat.lt_trichotomy m n
  · exact hup m n hmn
  · simp [pointsTo]
  · rw [← hup n m hnm, List.reverse_reverse]

theorem reverse_walk (c d : Char) : (d :: walk d c).reverse = c :: walk c d := by
  rw [walk, walk, ← scalars_cons_toNat, ← scalars_cons_toNat, ← scalars_reverse,
    reverse_pointsTo]

theorem isChain_walk (c d : Char) : (c :: walk c d).IsChain Neighbours := by
  have hup : ∀ c d : Char, c ≤ d → (c :: walk c d).IsChain Neighbours :=
    fun c d h => (isChain_covBy_walk h).imp fun _ _ => Or.inl
  obtain h | h := le_total c d
  · exact hup c d h
  · rw [← reverse_walk, List.isChain_reverse]
    exact (hup d c h).imp fun _ _ => Neighbours.symm

theorem getLast?_walk (c d : Char) : (c :: walk c d).getLast? = some d := by
  rw [← reverse_walk, List.getLast?_reverse, List.head?_cons]

theorem walk_self (c : Char) : walk c c = [] := by simp [walk, pointsTo, scalars]

theorem exists_walk_eq_append {c d : Char} (h : c ≠ d) : ∃ before, walk c d = before ++ [d] := by
  have hlast := getLast?_walk c d
  cases hwalk : walk c d using List.reverseRecOn with
  | nil => simp [hwalk, h] at hlast
  | append_singleton before e _ =>
    rw [hwalk, ← List.cons_append, List.getLast?_concat] at hlast
    exact ⟨before, by rw [Option.some.inj hlast]⟩

theorem walk_of_covBy {c d : Char} (h : c ⋖ d) : walk c d = [d] := by
  obtain ⟨before, hwalk⟩ := exists_walk_eq_append h.ne
  cases before with
  | nil => exact hwalk
  | cons e before =>
    have hascends : (c :: walk c d).Pairwise (· < ·) :=
      ((isChain_covBy_walk h.le).imp fun _ _ => CovBy.lt).pairwise
    rw [hwalk, List.cons_append, List.pairwise_cons, List.pairwise_cons] at hascends
    exact absurd (hascends.2.1 d (by simp)) (h.2 (hascends.1 e (by simp)))

theorem walk_of_neighbours {c d : Char} (h : Neighbours c d) : walk c d = [d] := by
  obtain h | h := h
  · exact walk_of_covBy h
  · have hback := reverse_walk c d
    rw [walk_of_covBy h] at hback
    simpa using hback.symm

theorem isChain_walkThrough (c : Char) (rest : List Char) :
    (c :: walkThrough c rest).IsChain Neighbours := by
  induction rest generalizing c with
  | nil => exact .singleton c
  | cons d rest ih =>
    obtain ⟨hjoin, hrest⟩ := List.isChain_cons.mp (ih d)
    rw [walkThrough, ← List.cons_append, List.isChain_append, getLast?_walk]
    refine ⟨isChain_walk c d, hrest, fun e he => ?_⟩
    cases he
    exact hjoin

theorem getLast?_walkThrough (c : Char) (rest : List Char) :
    (c :: walkThrough c rest).getLast? = (c :: rest).getLast? := by
  induction rest generalizing c with
  | nil => rfl
  | cons d rest ih =>
    rw [walkThrough, ← List.cons_append, List.getLast?_append, getLast?_walk,
      List.getLast?_cons_cons, ← ih d, List.getLast?_cons]
    cases (walkThrough d rest).getLast? <;> rfl

theorem destutter'_sublist_walkThrough (c : Char) (rest : List Char) :
    (rest.destutter' (· ≠ ·) c).Sublist (c :: walkThrough c rest) := by
  induction rest generalizing c with
  | nil => exact .refl _
  | cons d rest ih =>
    rw [walkThrough]
    by_cases h : c = d
    · subst h
      rw [List.destutter'_cons_neg _ (by simp), walk_self]
      exact ih c
    · obtain ⟨before, hwalk⟩ := exists_walk_eq_append h
      rw [List.destutter'_cons_pos _ h, hwalk, List.append_assoc]
      exact ((ih d).trans (List.sublist_append_right before _)).cons_cons c

theorem walkThrough_of_isChain {c : Char} {rest : List Char}
    (h : (c :: rest).IsChain Neighbours) : walkThrough c rest = rest := by
  induction rest generalizing c with
  | nil => rfl
  | cons d rest ih =>
    obtain ⟨hstep, hrest⟩ := List.isChain_cons_cons.mp h
    rw [walkThrough, walk_of_neighbours hstep, ih hrest]
    rfl

/-- The expanded text starts and ends as the text does, goes from each character to a neighbour, has
the text without repetitions as a subsequence, and is not expanded further. The characters around
the code points that are no characters are neighbours. -/
theorem expandRanges_walks_by_neighbours (a : List Char) :
    (expandRanges a).head? = a.head? ∧ (expandRanges a = [] ↔ a = []) ∧
    (expandRanges a).getLast? = a.getLast? ∧
    (expandRanges a).IsChain Neighbours ∧ Neighbours (Char.ofNat 0xD7FF) (Char.ofNat 0xE000) ∧
    (a.destutter (· ≠ ·)).Sublist (expandRanges a) ∧
    expandRanges (expandRanges a) = expandRanges a := by
  cases a with
  | nil => exact ⟨rfl, by simp [expandRanges], rfl, .nil, .inl covBy_across_gap, .slnil, rfl⟩
  | cons c rest =>
    have hchain := isChain_walkThrough c rest
    refine ⟨rfl, by simp [expandRanges], getLast?_walkThrough c rest, hchain,
      .inl covBy_across_gap, destutter'_sublist_walkThrough c rest, ?_⟩
    rw [expandRanges, expandRanges, walkThrough_of_isChain hchain]

end Gridwalk.Text
