import Gridwalk.Number.Factor
import Mathlib.Algebra.Order.Ring.Abs
import Mathlib.Algebra.Order.Ring.Int

/-! # All divisors in order

Divisors come in pairs with the number as product. The search takes the smaller of a pair in
ascending order and puts the larger one behind all that follow, so that the list closes around the
square root.
-/

namespace Gridwalk.Number
set_option autoImplicit false

/-- `x` divides `n`, and neither `x` nor its cofactor is below `d`. -/
def DividesFrom (d n x : Nat) : Prop := ∃ y, x * y = n ∧ d ≤ x ∧ d ≤ y

namespace DividesFrom

variable {d n x c : Nat}

theorem one_iff : DividesFrom 1 n x ↔ n ≠ 0 ∧ x ∣ n := by
  constructor
  · rintro ⟨y, rfl, hx, hy⟩
    exact ⟨Nat.mul_ne_zero (by omega) (by omega), Nat.dvd_mul_right x y⟩
  · rintro ⟨hn, y, rfl⟩
    obtain ⟨hx, hy⟩ := Nat.mul_ne_zero_iff.mp hn
    exact ⟨y, rfl, Nat.one_le_iff_ne_zero.mpr hx, Nat.one_le_iff_ne_zero.mpr hy⟩

theorem sq_le (h : DividesFrom d n x) : d * d ≤ n := by
  obtain ⟨y, rfl, hx, hy⟩ := h
  exact Nat.mul_le_mul hx hy

theorem iff_of_dvd (hd : 0 < d) (hle : d ≤ c) :
    DividesFrom d (d * c) x ↔ x = d ∨ DividesFrom (d + 1) (d * c) x ∨ x = c := by
  constructor
  · rintro ⟨y, hxy, hx, hy⟩
    by_cases hxd : x = d
    · exact .inl hxd
    by_cases hyd : y = d
    · subst hyd
      exact .inr (.inr (Nat.eq_of_mul_eq_mul_right hd (hxy.trans (Nat.mul_comm y c))))
    · exact .inr (.inl ⟨y, hxy, by omega, by omega⟩)
  · rintro (rfl | ⟨y, hxy, hx, hy⟩ | rfl)
    · exact ⟨c, rfl, Nat.le_refl x, hle⟩
    · exact ⟨y, hxy, by omega, by omega⟩
    · exact ⟨d, Nat.mul_comm x d, hle, Nat.le_refl d⟩

theorem iff_of_not_dvd (hndvd : ¬ d ∣ n) : DividesFrom d n x ↔ DividesFrom (d + 1) n x := by
  constructor
  · rintro ⟨y, rfl, hx, hy⟩
    have hxd : d ≠ x := fun h => hndvd (h ▸ Nat.dvd_mul_right x y)
    have hyd : d ≠ y := fun h => hndvd (h ▸ Nat.dvd_mul_left y x)
    exact ⟨y, rfl, by omega, by omega⟩
  · rintro ⟨y, hxy, hx, hy⟩
    exact ⟨y, hxy, by omega, by omega⟩

theorem between (h : DividesFrom (d + 1) (d * c) x) : d < x ∧ x < c := by
  obtain ⟨y, hxy, hx, hy⟩ := h
  refine ⟨hx, ?_⟩
  -- The cofactor of `x` is above `d`, so that `x` is below the cofactor of `d`.
  by_contra hcx
  have hlt : d * x < x * y := by
    rw [Nat.mul_comm d x]
    exact Nat.mul_lt_mul_of_pos_left hy (by omega)
  have hle : d * c ≤ d * x := Nat.mul_le_mul_left d (Nat.le_of_not_lt hcx)
  omega

end DividesFrom

theorem mem_divisorsFrom_iff {n d x : Nat} (hd : 0 < d) :
    x ∈ divisorsFrom n d hd ↔ DividesFrom d n x := by
  fun_induction divisorsFrom n d hd with
  | case1 d hd h hmod hsq =>
    subst hsq
    have hnone : ¬ DividesFrom (d + 1) (d * d) x := by
      intro hpair
      have hbetween := hpair.between
      omega
    rw [DividesFrom.iff_of_dvd hd (Nat.le_refl d), List.mem_singleton]
    simp [hnone]
  | case2 d hd h hmod hsq ih =>
    obtain ⟨c, rfl⟩ := Nat.dvd_of_mod_eq_zero hmod
    rw [DividesFrom.iff_of_dvd hd (Nat.le_of_mul_le_mul_left h hd), Nat.mul_div_cancel_left c hd,
      List.mem_cons, List.mem_append, ih, List.mem_singleton]
  | case3 d hd h hmod ih =>
    rw [ih, DividesFrom.iff_of_not_dvd fun hdvd => hmod (Nat.mod_eq_zero_of_dvd hdvd)]
  | case4 d hd h =>
    rw [List.mem_nil_iff, false_iff]
    exact fun hpair => h hpair.sq_le

theorem pairwise_divisorsFrom {n d : Nat} (hd : 0 < d) :
    (divisorsFrom n d hd).Pairwise (· < ·) := by
  fun_induction divisorsFrom n d hd with
  | case1 d hd h hmod hsq => exact List.pairwise_singleton _ d
  | case2 d hd h hmod hsq ih =>
    obtain ⟨c, rfl⟩ := Nat.dvd_of_mod_eq_zero hmod
    rw [Nat.mul_div_cancel_left c hd]
    have hdc : d < c := by
      apply Nat.lt_of_le_of_ne (Nat.le_of_mul_le_mul_left h hd)
      rintro rfl
      exact hsq rfl
    have hbetween : ∀ x ∈ divisorsFrom (d * c) (d + 1) (by omega), d < x ∧ x < c :=
      fun x hx => ((mem_divisorsFrom_iff _).mp hx).between
    rw [List.pairwise_cons, List.pairwise_append]
    refine ⟨?_, ih, List.pairwise_singleton _ c, ?_⟩
    · intro x hx
      rw [List.mem_append, List.mem_singleton] at hx
      obtain hx | rfl := hx
      · exact (hbetween x hx).1
      · exact hdc
    · intro x hx y hy
      obtain rfl := List.mem_singleton.mp hy
      exact (hbetween x hx).2
  | case3 d hd h hmod ih => exact ih
  | case4 d hd h => exact List.Pairwise.nil

theorem mem_divisors_iff {n d : Int} : d ∈ divisors n ↔ n ≠ 0 ∧ 0 < d ∧ d ∣ |n| := by
  simp only [divisors, List.mem_map, mem_divisorsFrom_iff, DividesFrom.one_iff]
  constructor
  · rintro ⟨x, ⟨hn, hdvd⟩, rfl⟩
    have hx : 0 < x := Nat.pos_of_dvd_of_pos hdvd (by omega)
    refine ⟨by omega, by simpa using hx, ?_⟩
    rw [dvd_abs]
    simpa [Int.natCast_dvd] using hdvd
  · rintro ⟨hn, hd, hdvd⟩
    rw [dvd_abs] at hdvd
    exact ⟨d.natAbs, ⟨by omega, Int.natAbs_dvd_natAbs.mpr hdvd⟩, Int.natAbs_of_nonneg hd.le⟩

/-- The divisors of an integer other than zero are listed without a gap, each once and in order. -/
theorem divisors_exact (n : Int) :
    (divisors n).Pairwise (· < ·) ∧
    (∀ d : Int, d ∈ divisors n ↔ n ≠ 0 ∧ 0 < d ∧ d ∣ |n|) ∧
    divisors 0 = [] := by
  refine ⟨?_, fun d => mem_divisors_iff, ?_⟩
  · simpa [divisors, List.pairwise_map] using pairwise_divisorsFrom _
  · rw [List.eq_nil_iff_forall_not_mem]
    intro d hd
    exact (mem_divisors_iff.mp hd).1 rfl

end Gridwalk.Number
