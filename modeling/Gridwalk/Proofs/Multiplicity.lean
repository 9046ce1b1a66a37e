import Gridwalk.Number.Factor
import Mathlib.Algebra.GroupWithZero.Divisibility
import Mathlib.Algebra.Order.Ring.Abs
import Mathlib.Algebra.Order.Ring.Int
import Mathlib.Tactic.Ring

/-! # Replaced factors are counted exactly

The loop takes one factor `b` from the rest and puts one factor `c` into a product of its own, so
that the rest never sees what was put in. It ends at a rest that `b` does not divide.
-/

namespace Gridwalk.Number
set_option autoImplicit false

theorem replaceFrom_eq (b c rest acc : Int) (hb : 1 < b.natAbs) (hrest : rest ≠ 0) :
    ∃ (k : Nat) (cofactor : Int), rest = b ^ k * cofactor ∧ ¬ b ∣ cofactor ∧
      replaceFrom b c rest acc hb hrest = cofactor * (acc * c ^ k) := by
  fun_induction replaceFrom b c rest acc hb hrest with
  | case1 rest acc hrest h ih =>
    obtain ⟨k, cofactor, hquotient, hndvd, heq⟩ := ih
    refine ⟨k + 1, cofactor, ?_, hndvd, ?_⟩
    · calc rest = b * rest.tdiv b := (Int.mul_tdiv_cancel' (Int.dvd_of_emod_eq_zero h)).symm
        _ = b ^ (k + 1) * cofactor := by rw [hquotient]; ring
    · rw [heq]
      ring
  | case2 rest acc hrest h =>
    refine ⟨0, rest, by simp, ?_, by simp⟩
    intro hdvd
    exact h (Int.emod_eq_zero_of_dvd hdvd)

theorem pow_dvd_and_not_pow_succ_dvd_iff {b cofactor : Int} (hb : b ≠ 0) (hndvd : ¬ b ∣ cofactor)
    (k j : Nat) :
    (b ^ j ∣ b ^ k * cofactor ∧ ¬ b ^ (j + 1) ∣ b ^ k * cofactor) ↔ j = k := by
  constructor
  · rintro ⟨hdvd, hmore⟩
    apply Nat.le_antisymm
    · by_contra hlt
      obtain ⟨d, rfl⟩ := Nat.exists_eq_add_of_lt (Nat.lt_of_not_le hlt)
      have hpow : b ^ k * b ∣ b ^ k * cofactor := by
        rw [← pow_succ]
        exact (pow_dvd_pow b (by omega)).trans hdvd
      exact hndvd ((mul_dvd_mul_iff_left (pow_ne_zero k hb)).mp hpow)
    · by_contra hlt
      exact hmore ((pow_dvd_pow b (by omega)).trans (Dvd.intro cofactor rfl))
  · rintro rfl
    refine ⟨Dvd.intro cofactor rfl, ?_⟩
    rw [pow_succ, mul_dvd_mul_iff_left (pow_ne_zero j hb)]
    exact hndvd

/-- A divisor beyond the units has one multiplicity in a number other than zero, and exactly so many
factors are replaced. -/
theorem replaceFactor_uses_multiplicity (a b c : Int) :
    (a ≠ 0 → 2 ≤ |b| → ∃ k : Nat,
      (∀ j : Nat, (b ^ j ∣ a ∧ ¬ b ^ (j + 1) ∣ a) ↔ j = k) ∧
      replaceFactor a b c = a / b ^ k * c ^ k) ∧
    (a = 0 ∨ |b| ≤ 1 → replaceFactor a b c = a) := by
  rw [Int.abs_eq_natAbs]
  constructor
  · intro ha hb
    have hproper : ¬(a = 0 ∨ b.natAbs ≤ 1) := by omega
    have hb0 : b ≠ 0 := by omega
    rw [replaceFactor, dif_neg hproper]
    obtain ⟨k, cofactor, rfl, hndvd, heq⟩ := replaceFrom_eq b c a 1 (by omega) ha
    refine ⟨k, pow_dvd_and_not_pow_succ_dvd_iff hb0 hndvd k, ?_⟩
    rw [heq, Int.mul_ediv_cancel_left cofactor (pow_ne_zero k hb0), one_mul]
  · intro h
    rw [replaceFactor, dif_pos (by omega)]

theorem replaceFactor_uses_multiplicity_put_back :
    (48 : Int) ≠ 0 ∧ 2 ≤ |(-2 : Int)| ∧ replaceFactor 48 (-2) 6 = 3 * 6 ^ 4 ∧
    |(-1 : Int)| ≤ 1 ∧ replaceFactor 48 (-1) 6 = 48 := by
  obtain ⟨k, hk, heq⟩ := (replaceFactor_uses_multiplicity 48 (-2) 6).1 (by decide) (by decide)
  obtain rfl : 4 = k := (hk 4).mp (by decide)
  refine ⟨by decide, by decide, ?_, by decide, ?_⟩
  · rw [heq]
    decide
  · exact (replaceFactor_uses_multiplicity 48 (-1) 6).2 (.inr (by decide))

end Gridwalk.Number
