import Gridwalk.Number.Pairing
import Mathlib.Data.Nat.Sqrt
import Mathlib.Tactic.Ring

/-! # Every integer numbers one pair

The diagonals of the quarter plane follow each other without a gap, so that every number lies on one
diagonal and at one place of it. The square root finds this diagonal, also for its first and its
last number.
-/

namespace Gridwalk.Number
set_option autoImplicit false

theorem two_mul_triangle (w : Nat) : 2 * triangle w = w * (w + 1) := by
  unfold triangle
  rw [Nat.mul_div_cancel' (Nat.even_mul_succ_self w).two_dvd]

theorem triangle_succ (w : Nat) : triangle (w + 1) = triangle w + (w + 1) := by
  have h := two_mul_triangle w
  have hsucc := two_mul_triangle (w + 1)
  have hproduct : (w + 1) * (w + 1 + 1) = w * (w + 1) + 2 * (w + 1) := by ring
  omega

theorem odd_square (w : Nat) : (2 * w + 1) * (2 * w + 1) = 8 * triangle w + 1 := by
  have h := two_mul_triangle w
  calc
    (2 * w + 1) * (2 * w + 1) = 4 * (w * (w + 1)) + 1 := by ring
    _ = 8 * triangle w + 1 := by omega

theorem diagonal_eq_iff {m w : Nat} :
    diagonal m = w ↔ triangle w ≤ m ∧ m < triangle (w + 1) := by
  have hlow : 2 * w + 1 ≤ (8 * m + 1).sqrt ↔ triangle w ≤ m := by
    rw [Nat.le_sqrt, odd_square]
    omega
  have hhigh : (8 * m + 1).sqrt < 2 * (w + 1) + 1 ↔ m < triangle (w + 1) := by
    rw [Nat.sqrt_lt, odd_square]
    omega
  have hpos : 0 < (8 * m + 1).sqrt := Nat.sqrt_pos.mpr (by omega)
  rw [← hlow, ← hhigh, diagonal]
  omega

theorem triangle_diagonal_le (m : Nat) : triangle (diagonal m) ≤ m :=
  (diagonal_eq_iff.mp rfl).1

theorem sub_triangle_le_diagonal (m : Nat) : m - triangle (diagonal m) ≤ diagonal m := by
  have hlt := (diagonal_eq_iff.mp (rfl : diagonal m = diagonal m)).2
  rw [triangle_succ] at hlt
  omega

theorem diagonal_triangle_add {w q : Nat} (h : q ≤ w) : diagonal (triangle w + q) = w := by
  apply diagonal_eq_iff.mpr
  rw [triangle_succ]
  constructor <;> omega

theorem unpack_pack (a b : Int) : unpack (pack a b) = (a, b) := by
  have hdiagonal := diagonal_triangle_add (Nat.le_add_left (place b) (place a))
  simp only [unpack, pack, place_atPlace, hdiagonal, Nat.add_sub_cancel_left, Nat.add_sub_cancel,
    atPlace_place]

theorem pack_unpack (n : Int) : pack (unpack n).1 (unpack n).2 = n := by
  have hle := sub_triangle_le_diagonal (place n)
  have hrank := Nat.add_sub_of_le (triangle_diagonal_le (place n))
  simp only [unpack, pack, place_atPlace, Nat.sub_add_cancel hle, hrank, atPlace_place]

/-- Each of the two undoes the other, so that the pairs of integers and the integers correspond one
to one. -/
theorem pairing_is_bijective :
    (∀ a b : Int, unpack (pack a b) = (a, b)) ∧
    (∀ n : Int, pack (unpack n).1 (unpack n).2 = n) ∧
    Function.Bijective (fun pair : Int × Int => pack pair.1 pair.2) ∧
    Function.Bijective unpack := by
  have hleft : Function.LeftInverse unpack fun pair : Int × Int => pack pair.1 pair.2 :=
    fun pair => unpack_pack pair.1 pair.2
  have hright : Function.RightInverse unpack fun pair : Int × Int => pack pair.1 pair.2 :=
    pack_unpack
  refine ⟨unpack_pack, pack_unpack, ⟨hleft.injective, hright.surjective⟩, ?_⟩
  exact ⟨hright.injective, hleft.surjective⟩

end Gridwalk.Number
