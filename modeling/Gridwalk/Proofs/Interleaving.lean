import Gridwalk.Text.Arrangement
import Mathlib.Data.List.Induction

/-! # Interleaving and dealing

Two characters at a time, one goes to each half and comes back from it. The halves of a text differ
in length by at most one, and the even half is not the shorter one, so that only such pairs can come
back from a text.
-/

namespace Gridwalk.Text
set_option autoImplicit false

@[simp] theorem interleave_nil_left (b : List Char) : interleave [] b = b := by
  induction b with
  | nil => rw [interleave]
  | cons d ds ih => rw [interleave, ih]

@[simp] theorem interleave_nil_right (a : List Char) : interleave a [] = a := by
  induction a with
  | nil => rw [interleave]
  | cons c cs ih => rw [interleave, ih]

theorem length_interleave (a b : List Char) :
    (interleave a b).length = a.length + b.length := by
  fun_induction interleave a b <;> simp only [List.length_cons, List.length_nil] at * <;> omega

theorem dealFrom_add_two (i : Nat) (s : List Char) : dealFrom (i + 2) s = dealFrom i s := by
  induction s generalizing i with
  | nil => rfl
  | cons c cs ih => rw [dealFrom, dealFrom, ih (i + 1), Nat.add_mod_right]

@[simp] theorem deal_nil : deal [] = ([], []) := rfl

@[simp] theorem deal_singleton (c : Char) : deal [c] = ([c], []) := rfl

@[simp] theorem deal_cons_cons (c d : Char) (s : List Char) :
    deal (c :: d :: s) = (c :: (deal s).1, d :: (deal s).2) := by
  simp [deal, dealFrom, dealFrom_add_two 0 s]

theorem getElem?_deal (s : List Char) (i : Nat) :
    (deal s).1[i]? = s[2 * i]? ∧ (deal s).2[i]? = s[2 * i + 1]? := by
  induction s using List.twoStepInduction generalizing i with
  | nil => simp
  | singleton c => cases i <;> simp [Nat.mul_add]
  | cons_cons c d s ih _ =>
    rw [deal_cons_cons]
    cases i with
    | zero => simp
    | succ i => simpa [Nat.mul_add] using ih i

theorem length_deal (s : List Char) :
    (deal s).1.length = (s.length + 1) / 2 ∧ (deal s).2.length = s.length / 2 := by
  induction s using List.twoStepInduction with
  | nil => simp
  | singleton c => simp
  | cons_cons c d s ih _ =>
    rw [deal_cons_cons]
    simp only [List.length_cons]
    omega

theorem interleave_deal (s : List Char) : interleave (deal s).1 (deal s).2 = s := by
  induction s using List.twoStepInduction with
  | nil => simp
  | singleton c => simp
  | cons_cons c d s ih _ => rw [deal_cons_cons, interleave, ih]

theorem deal_interleave {a b : List Char} (hb : b.length ≤ a.length)
    (ha : a.length ≤ b.length + 1) : deal (interleave a b) = (a, b) := by
  fun_induction interleave a b with
  | case1 => rfl
  | case2 c cs ih =>
    obtain rfl : cs = [] := List.eq_nil_of_length_eq_zero (by simpa using ha)
    simp
  | case3 d ds ih => simp at hb
  | case4 c cs d ds ih =>
    rw [deal_cons_cons, ih (Nat.le_of_succ_le_succ hb) (Nat.le_of_succ_le_succ ha)]

/-- Dealing a text gives the characters at even and at odd places, and interleaving them gives it
back. Dealing undoes interleaving exactly if the first text is as long as the second or has one
character more. -/
theorem interleave_deal_inverse :
    (∀ s i, (deal s).1[i]? = s[2 * i]? ∧ (deal s).2[i]? = s[2 * i + 1]?) ∧
    (∀ s, interleave (deal s).1 (deal s).2 = s) ∧
    ∀ a b, deal (interleave a b) = (a, b) ↔
      b.length ≤ a.length ∧ a.length ≤ b.length + 1 := by
  refine ⟨getElem?_deal, interleave_deal, fun a b => ⟨fun h => ?_, fun h => ?_⟩⟩
  · obtain ⟨heven, hodd⟩ := length_deal (interleave a b)
    rw [h, length_interleave] at heven hodd
    dsimp only at heven hodd
    omega
  · exact deal_interleave h.1 h.2

end Gridwalk.Text
