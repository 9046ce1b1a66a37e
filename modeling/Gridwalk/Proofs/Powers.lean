import Gridwalk.Number.Arithmetic
import Mathlib.Data.Rat.Floor
import Mathlib.Algebra.Order.Field.Power
import Mathlib.Algebra.Ring.Int.Parity

/-! # Powers are rounded down

The sign of the base and the parity of the exponent decide a negative power without computing it,
because its value lies strictly between -1 and 1 for every base beyond the units.
-/

namespace Gridwalk.Number
set_option autoImplicit false

theorem minusOnePower_eq_zpow (b : Int) : (minusOnePower b : ℚ) = (-1) ^ b := by
  rw [neg_one_zpow_eq_ite, minusOnePower]
  simp only [Int.even_iff]
  split <;> simp

theorem floor_of_abs_lt_one {x : ℚ} (h : |x| < 1) : ⌊x⌋ = if x < 0 then -1 else 0 := by
  obtain ⟨hlow, hhigh⟩ := abs_lt.mp h
  split
  · rename_i hneg
    rw [Int.floor_eq_iff]
    push_cast
    constructor <;> linarith
  · rename_i hnonneg
    rw [Int.floor_eq_zero_iff]
    exact ⟨not_lt.mp hnonneg, hhigh⟩

theorem zpow_neg_iff {a : ℚ} {b : Int} : a ^ b < 0 ↔ a < 0 ∧ b % 2 ≠ 0 := by
  by_cases hb : b % 2 = 0
  · have hnonneg : 0 ≤ a ^ b := (Int.even_iff.mpr hb).zpow_nonneg a
    simp [hb, hnonneg]
  · have hodd : Odd b := Int.odd_iff.mpr (by omega)
    rw [hodd.zpow_neg_iff]
    simp [hb]

theorem floor_zpow_of_neg {a b : Int} (ha : 2 ≤ |a|) (hb : b < 0) :
    ⌊(a : ℚ) ^ b⌋ = if a < 0 ∧ b % 2 ≠ 0 then -1 else 0 := by
  have hbase : (1 : ℚ) < |(a : ℚ)| := by exact_mod_cast ha
  have hsmall : |(a : ℚ) ^ b| < 1 := by
    rw [abs_zpow]
    exact zpow_lt_one_of_neg₀ hbase hb
  rw [floor_of_abs_lt_one hsmall]
  simp only [zpow_neg_iff, Int.cast_lt_zero]

theorem floor_zpow_of_nonneg {a b : Int} (hb : 0 ≤ b) : ⌊(a : ℚ) ^ b⌋ = a ^ b.toNat := by
  obtain ⟨m, rfl⟩ := Int.eq_ofNat_of_zero_le hb
  rw [zpow_natCast, ← Int.cast_pow, Int.floor_intCast, Int.toNat_natCast]

theorem floor_minusOne (b : Int) : ⌊((-1 : Int) : ℚ) ^ b⌋ = minusOnePower b := by
  rw [Int.cast_neg, Int.cast_one, ← minusOnePower_eq_zpow, Int.floor_intCast]

theorem two_le_abs_iff {a : Int} : 2 ≤ |a| ↔ a ≠ 0 ∧ a ≠ 1 ∧ a ≠ -1 := by
  rw [le_abs]
  omega

theorem power_of_zero_of_neg {b : Int} (hb : b < 0) : power 0 b = .error .divisionByZero := by
  rw [power, if_pos hb, if_pos rfl]

theorem power_of_large {a b : Int} (ha : 2 ≤ |a|) (hb : 0x100000000 ≤ b) :
    power a b = .error .tooLarge := by
  obtain ⟨hzero, hone, hminus⟩ := two_le_abs_iff.mp ha
  rw [power, if_neg (by omega), if_neg (by omega), if_neg (by simp [hzero, hone]), if_neg hminus]

theorem power_of_neg {a b : Int} (ha : a ≠ 0) (hb : b < 0) : power a b = .ok ⌊(a : ℚ) ^ b⌋ := by
  rw [power, if_pos hb, if_neg ha]
  by_cases hone : a = 1
  · subst hone
    simp
  by_cases hminus : a = -1
  · subst hminus
    rw [if_neg hone, if_pos rfl, floor_minusOne]
  · rw [if_neg hone, if_neg hminus, floor_zpow_of_neg (two_le_abs_iff.mpr ⟨ha, hone, hminus⟩) hb]
    split <;> rfl

theorem power_of_nonneg {a b : Int} (hb : 0 ≤ b) (hsmall : ¬(0x100000000 ≤ b ∧ 2 ≤ |a|)) :
    power a b = .ok ⌊(a : ℚ) ^ b⌋ := by
  rw [power, if_neg (by omega)]
  by_cases hfits : b < 0x100000000
  · rw [if_pos hfits, floor_zpow_of_nonneg hb]
    rfl
  · have hunit : a = 0 ∨ a = 1 ∨ a = -1 := by
      by_contra hother
      exact hsmall ⟨by omega, two_le_abs_iff.mpr (by omega)⟩
    rw [if_neg hfits]
    obtain rfl | rfl | rfl := hunit
    · rw [if_pos (.inl rfl), Int.cast_zero, zero_zpow b (by omega), Int.floor_zero]
    · rw [if_pos (.inr rfl), Int.cast_one, one_zpow, Int.floor_one]
    · rw [if_neg (by decide), if_pos rfl, floor_minusOne]

theorem power_eq_floor {a b : Int} (hzero : ¬(a = 0 ∧ b < 0))
    (hlarge : ¬(0x100000000 ≤ b ∧ 2 ≤ |a|)) : power a b = .ok ⌊(a : ℚ) ^ b⌋ := by
  obtain hneg | hnonneg := Int.lt_or_le b 0
  · exact power_of_neg (fun ha => hzero ⟨ha, hneg⟩) hneg
  · exact power_of_nonneg hnonneg hlarge

/-- Only a reciprocal of zero and a huge exponent of a base beyond -1, 0 and 1 are refused; every
other power is the exact rational one, rounded down. -/
theorem power_is_floor (a b : Int) :
    (power a b = .error .divisionByZero ↔ a = 0 ∧ b < 0) ∧
    (power a b = .error .tooLarge ↔ 0x100000000 ≤ b ∧ 2 ≤ |a|) ∧
    (∀ c : Int, power a b = .ok c ↔
      ¬(a = 0 ∧ b < 0) ∧ ¬(0x100000000 ≤ b ∧ 2 ≤ |a|) ∧ c = ⌊(a : ℚ) ^ b⌋) ∧
    power 0 0 = .ok 1 := by
  have hempty : power 0 0 = .ok 1 := rfl
  by_cases hzero : a = 0 ∧ b < 0
  · obtain ⟨rfl, hb⟩ := hzero
    rw [power_of_zero_of_neg hb]
    simp [hb, hempty]
  by_cases hlarge : 0x100000000 ≤ b ∧ 2 ≤ |a|
  · rw [power_of_large hlarge.2 hlarge.1]
    simp [hlarge, hzero, hempty]
  · rw [power_eq_floor hzero hlarge]
    simp [hlarge, hzero, hempty, eq_comm]

end Gridwalk.Number
