import Gridwalk.Number.Arithmetic
import Mathlib.RingTheory.Binomial
import Mathlib.Tactic.Ring

/-! # Binomial coefficients without remainders

After each turn the product is the binomial coefficient itself, also for a negative upper number.
That makes every division exact and lets the shorter of the two symmetric products stand for both.
-/

namespace Gridwalk.Number
set_option autoImplicit false

theorem choose_mul_factorial (n : Int) (k : Nat) :
    Ring.choose n k * k.factorial = ∏ i ∈ Finset.range k, (n - i) := by
  rw [mul_comm, ← nsmul_eq_mul, ← Ring.descPochhammer_eq_factorial_smul_choose,
    ← Polynomial.eval_eq_smeval, descPochhammer_eval_eq_prod_range]

theorem choose_succ_mul (n : Int) (k : Nat) :
    Ring.choose n (k + 1) * (k + 1) = Ring.choose n k * (n - k) := by
  have hpos : (k.factorial : Int) ≠ 0 := Int.natCast_ne_zero.mpr k.factorial_ne_zero
  apply mul_right_cancel₀ hpos
  calc
    Ring.choose n (k + 1) * (k + 1) * k.factorial
        = Ring.choose n (k + 1) * (k + 1).factorial := by
      rw [Nat.factorial_succ]
      push_cast
      ring
    _ = (∏ i ∈ Finset.range k, (n - i)) * (n - k) := by
      rw [choose_mul_factorial, Finset.prod_range_succ]
    _ = Ring.choose n k * (n - k) * k.factorial := by
      rw [← choose_mul_factorial]
      ring

theorem risingQuotient_eq_choose (n : Int) (k : Nat) : risingQuotient n k = Ring.choose n k := by
  induction k with
  | zero => rw [risingQuotient_zero, Ring.choose_zero_right]
  | succ k ih =>
    have hdivisor : (k + 1 : Int) ≠ 0 := by omega
    rw [risingQuotient_succ, ih, ← choose_succ_mul, Int.mul_tdiv_cancel _ hdivisor]

theorem risingQuotient_natCast (n k : Nat) : risingQuotient n k = n.choose k := by
  rw [risingQuotient_eq_choose, Ring.choose_natCast]

theorem binomial_eq (n : Int) (k : Nat) : binomial n k = risingQuotient n k := by
  unfold binomial
  split
  · omega
  split
  · rfl
  obtain ⟨m, rfl⟩ := Int.eq_ofNat_of_zero_le (Int.not_lt.mp ‹¬n < 0›)
  split
  · rename_i hlt
    rw [risingQuotient_natCast, Nat.choose_eq_zero_of_lt (by omega), Nat.cast_zero]
  · rename_i hle
    have hkm : k ≤ m := by omega
    have hmin : (min (k : Int) (m - k)).toNat = min k (m - k) := by omega
    rw [hmin, risingQuotient_natCast, risingQuotient_natCast]
    obtain hmin | hmin := Nat.le_total k (m - k)
    · rw [Nat.min_eq_left hmin]
    · rw [Nat.min_eq_right hmin, Nat.choose_symm hkm]

/-- The coefficient times `k!` is the falling product of `k` numbers from `n` on. No division on the
way has a remainder, and the shorter product gives what the full one does. -/
theorem binomial_never_rounds (n : Int) :
    (∀ k : Nat, binomial n k * k.factorial = ∏ i ∈ Finset.range k, (n - i)) ∧
    (∀ i : Nat, (i + 1 : Int) ∣ risingQuotient n i * (n - i)) ∧
    (∀ k : Nat, binomial n k = risingQuotient n k) ∧
    (∀ k : Int, k < 0 → binomial n k = 0) := by
  refine ⟨?_, ?_, binomial_eq n, ?_⟩
  · intro k
    rw [binomial_eq, risingQuotient_eq_choose, choose_mul_factorial]
  · intro i
    rw [risingQuotient_eq_choose, ← choose_succ_mul]
    exact Int.dvd_mul_left _ _
  · intro k hk
    rw [binomial, if_pos hk]

theorem binomial_never_rounds_below_zero :
    binomial (-2) 3 * 6 = -2 * -3 * -4 ∧
    (3 : Int) ∣ risingQuotient (-2) 2 * (-2 - 2) ∧
    (-1 : Int) < 0 ∧ binomial (-2) (-1) = 0 := by
  obtain ⟨hproduct, hexact, -, hnegative⟩ := binomial_never_rounds (-2)
  exact ⟨hproduct 3, hexact 2, by decide, hnegative (-1) (by decide)⟩

end Gridwalk.Number
