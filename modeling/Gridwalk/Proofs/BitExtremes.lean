import Gridwalk.Number.Bits
import Mathlib.Data.Int.Bitwise

/-! # The most significant bit

A negative number is the complement of a natural number, so that its leading bits are set and its
clear bits are the set bits of that number. What is said of set bits from zero on holds of clear
bits below zero.
-/

namespace Gridwalk.Number
set_option autoImplicit false

def IsTop (s : Bool) (n : Int) (i : Nat) : Prop := n.testBit i = s ∧ ∀ j, i < j → n.testBit j = !s

@[simp] theorem testBit_complement (n : Int) (i : Nat) :
    (complement n).testBit i = !n.testBit i := by
  cases n with
  | ofNat m => rfl
  | negSucc m => simp [complement, Int.testBit]

@[simp] theorem fillBits_complement (n : Int) :
    fillBits (complement n) = complement (fillBits n) := by
  cases n <;> rfl

@[simp] theorem highestBit_complement (n : Int) :
    highestBit (complement n) = complement (highestBit n) := by
  cases n <;> rfl

theorem isTop_complement {s : Bool} {n : Int} {i : Nat} :
    IsTop s (complement n) i ↔ IsTop (!s) n i := by
  simp [IsTop]

theorem le_log2_of_testBit {n i : Nat} (h : n.testBit i = true) : i ≤ n.log2 := by
  have hpow : 2 ^ i ≤ n := Nat.ge_two_pow_of_testBit h
  have hne : n ≠ 0 := by
    rintro rfl
    simp at h
  exact (Nat.le_log2 hne).mpr hpow

theorem testBit_of_log2_lt {n i : Nat} (h : n.log2 < i) : n.testBit i = false := by
  by_contra hset
  have hle : i ≤ n.log2 := le_log2_of_testBit (by simpa using hset)
  omega

theorem testBit_filled_iff {n i : Nat} :
    (filled n).testBit i = true ↔ ∃ j, i ≤ j ∧ n.testBit j = true := by
  by_cases hn : n = 0
  · simp [filled, hn]
  · rw [filled, if_neg hn, Nat.one_shiftLeft, Nat.testBit_two_pow_sub_one, decide_eq_true_iff]
    constructor
    · intro hi
      exact ⟨n.log2, Nat.le_of_lt_succ hi, Nat.testBit_log2 hn⟩
    · rintro ⟨j, hij, hj⟩
      exact Nat.lt_succ_of_le (hij.trans (le_log2_of_testBit hj))

theorem testBit_topBit_iff {n i : Nat} :
    (topBit n).testBit i = true ↔ n.testBit i = true ∧ ∀ j, i < j → n.testBit j = false := by
  by_cases hn : n = 0
  · simp [topBit, hn]
  · rw [topBit, if_neg hn, Nat.one_shiftLeft, Nat.testBit_two_pow, decide_eq_true_iff]
    constructor
    · rintro rfl
      exact ⟨Nat.testBit_log2 hn, fun j hj => testBit_of_log2_lt hj⟩
    · rintro ⟨hi, hclear⟩
      apply Nat.le_antisymm _ (le_log2_of_testBit hi)
      by_contra hlt
      have htop : n.testBit n.log2 = false := hclear _ (Nat.lt_of_not_le hlt)
      rw [Nat.testBit_log2 hn] at htop
      cases htop

/-- Every bit of both results is told by the bits of the operand: by the set bits of a number from
zero on, by the clear bits of a negative one. -/
theorem bit_extremes_exact (n : Int) (i : Nat) :
    (0 ≤ n →
      ((fillBits n).testBit i = true ↔ ∃ j, i ≤ j ∧ n.testBit j = true) ∧
      ((highestBit n).testBit i = true ↔ IsTop true n i)) ∧
    (n < 0 →
      ((fillBits n).testBit i = false ↔ ∃ j, i ≤ j ∧ n.testBit j = false) ∧
      ((highestBit n).testBit i = false ↔ IsTop false n i)) := by
  have hnat : ∀ m : Nat,
      ((fillBits m).testBit i = true ↔ ∃ j, i ≤ j ∧ (m : Int).testBit j = true) ∧
      ((highestBit m).testBit i = true ↔ IsTop true m i) := by
    intro m
    exact ⟨testBit_filled_iff, testBit_topBit_iff⟩
  constructor
  · intro hn
    obtain ⟨m, rfl⟩ := Int.eq_ofNat_of_zero_le hn
    exact hnat m
  · intro hn
    obtain ⟨m, rfl⟩ := Int.eq_negSucc_of_lt_zero hn
    have hm : Int.negSucc m = complement m := rfl
    simpa [hm, isTop_complement] using hnat m

theorem bit_extremes_exact_minus_six :
    (0 : Int) ≤ 44 ∧ (fillBits 44).testBit 4 = true ∧ IsTop true 44 5 ∧
    (-6 : Int) < 0 ∧ (fillBits (-6)).testBit 1 = false ∧ IsTop false (-6) 2 := by
  have hpos := fun i => (bit_extremes_exact 44 i).1 (by decide)
  have hneg := fun i => (bit_extremes_exact (-6) i).2 (by decide)
  refine ⟨by decide, ?_, ?_, by decide, ?_, ?_⟩
  · exact (hpos 4).1.mpr ⟨5, by decide, by decide⟩
  · exact (hpos 5).2.mp (by decide)
  · exact (hneg 1).1.mpr ⟨2, by decide, by decide⟩
  · exact (hneg 2).2.mp (by decide)

end Gridwalk.Number
