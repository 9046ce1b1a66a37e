import Gridwalk.Machine.Cardinal
import Gridwalk.Text.Place
import Mathlib.Data.List.Basic

/-! # Rotation of the stack

A rotation by `n` lifts the value at depth `n` over the `n` values above it, and a rotation by `-n`
sinks the top value below as many. The two undo each other, and neither reaches the values further
down. No rotation loses a value; one that lifts from below the bottom, or finds no value to sink,
adds a 0.
-/

namespace Gridwalk
set_option autoImplicit false

namespace Stack

inductive Lifts (n : Nat) : Stack → Stack → Prop
  | intro (above : List Value) (v : Value) (below : List Value) (h : above.length = n) :
    Lifts n (above ++ v :: below) (v :: (above ++ below))

theorem exists_lifts {s : Stack} {n : Nat} (h : n < s.length) : ∃ t, Lifts n s t := by
  obtain ⟨above, v, below, rfl, habove⟩ := Text.exists_eq_append_cons h
  exact ⟨_, .intro above v below habove⟩

theorem exists_lifts_to {s : Stack} {n : Nat} (h : n < s.length) : ∃ r, Lifts n r s := by
  cases s with
  | nil => exact absurd h (Nat.not_lt_zero n)
  | cons v s =>
    have hle : n ≤ s.length := Nat.le_of_lt_succ h
    have hlifts := Lifts.intro (s.take n) v (s.drop n) (List.length_take_of_le hle)
    rw [List.take_append_drop] at hlifts
    exact ⟨_, hlifts⟩

theorem rotate_of_neg {n : Int} (h : n < 0) (v : Value) (s : Stack) :
    rotate n (v :: s) = s.take n.natAbs ++ v :: s.drop n.natAbs := by
  rw [rotate, if_neg (Int.not_le.mpr h)]
  rfl

theorem rotate_of_length_le {s : Stack} {n : Int} (h : s.length ≤ n) :
    rotate n s = .integer 0 :: s := by
  have hout : s[n.toNat]? = none := List.getElem?_eq_none (by omega)
  rw [rotate, if_pos (by omega), hout]

namespace Lifts

variable {n : Nat} {s t : Stack}

theorem rotate (h : Lifts n s t) : s.rotate n = t := by
  obtain ⟨above, v, below, rfl⟩ := h
  rw [Stack.rotate, if_pos (Int.natCast_nonneg _), Int.toNat_natCast, Text.getElem?_append_cons]
  dsimp only
  rw [List.eraseIdx_append_of_length_le (Nat.le_refl _), Nat.sub_self, List.eraseIdx_cons_zero]

theorem rotate_neg (h : Lifts n s t) : t.rotate (-n) = s := by
  obtain ⟨above, v, below, hlength⟩ := h
  cases n with
  | zero =>
    obtain rfl := List.eq_nil_of_length_eq_zero hlength
    rfl
  | succ n =>
    rw [rotate_of_neg (by omega), Int.natAbs_neg, Int.natAbs_natCast, List.take_left' hlength,
      List.drop_left' hlength]

theorem getElem?_zero (h : Lifts n s t) : t[0]? = s[n]? := by
  obtain ⟨above, v, below, rfl⟩ := h
  rw [Text.getElem?_append_cons]
  rfl

theorem getElem?_of_lt (h : Lifts n s t) {d : Nat} (hd : n < d) : t[d]? = s[d]? := by
  obtain ⟨above, v, below, rfl⟩ := h
  obtain ⟨k, rfl⟩ := Nat.exists_eq_add_of_lt hd
  have hafter : (v :: (above ++ below))[above.length + k + 1]? = below[k]? := by
    rw [List.getElem?_cons_succ, List.getElem?_append_right (Nat.le_add_right _ _),
      Nat.add_sub_cancel_left]
  have hbefore : (above ++ v :: below)[above.length + k + 1]? = below[k]? := by
    rw [Nat.add_assoc, List.getElem?_append_right (Nat.le_add_right _ _), Nat.add_sub_cancel_left,
      List.getElem?_cons_succ]
  exact hafter.trans hbefore.symm

theorem perm (h : Lifts n s t) : t.Perm s := by
  obtain ⟨above, v, below, -⟩ := h
  exact List.perm_middle.symm

end Lifts

theorem perm_rotate {n : Int} {s : Stack} (h : n < s.length) (hne : s ≠ []) :
    (s.rotate n).Perm s := by
  rcases Int.lt_or_le n 0 with hneg | hnonneg
  · cases s with
    | nil => exact absurd rfl hne
    | cons v s =>
      rw [rotate_of_neg hneg]
      have hmiddle : (s.take n.natAbs ++ v :: s.drop n.natAbs).Perm
          (v :: (s.take n.natAbs ++ s.drop n.natAbs)) := List.perm_middle
      rwa [List.take_append_drop] at hmiddle
  · obtain ⟨k, rfl⟩ := Int.eq_ofNat_of_zero_le hnonneg
    obtain ⟨t, hlifts⟩ := exists_lifts (s := s) (n := k) (by omega)
    rw [hlifts.rotate]
    exact hlifts.perm

theorem rotate_eq_cons {n : Int} {s : Stack} (h : s.length ≤ n ∨ s = []) :
    s.rotate n = .integer 0 :: s := by
  rcases h with hdeep | rfl
  · exact rotate_of_length_le hdeep
  · rcases Int.lt_or_le n 0 with hneg | hnonneg
    · rw [Stack.rotate, if_neg (Int.not_le.mpr hneg)]
      simp
    · exact rotate_of_length_le hnonneg

end Stack

def Machine.Rotates (m : Machine) (n : Int) (s t : Stack) : Prop :=
  Cardinal.rotate.perform { m with stack := .integer n :: s } = .ok () { m with stack := t }

theorem Machine.rotates (m : Machine) (n : Int) (s : Stack) : m.Rotates n s (s.rotate n) := rfl

/-- The rotations by `n` and by `-n` undo each other for every depth `n` of the stack. The one brings
the value at depth `n` to the top and the other the top value to depth `n`, and both leave all values
further down in place. Whatever the argument, the values are only permuted, but for a 0 that is added
if the rotation lifts from below the bottom or finds the stack empty. -/
theorem rotations_are_inverse (m : Machine) (s : Stack) :
    (∀ n < s.length, ∃ lifted sunk : Stack,
      m.Rotates n s lifted ∧ m.Rotates (-n) lifted s ∧
      m.Rotates (-n) s sunk ∧ m.Rotates n sunk s ∧
      lifted[0]? = s[n]? ∧ sunk[n]? = s[0]? ∧
      ∀ d > n, lifted[d]? = s[d]? ∧ sunk[d]? = s[d]?) ∧
    ∀ n : Int, ∃ t : Stack, m.Rotates n s t ∧
      (s.length ≤ n ∨ s = [] → t.Perm (.integer 0 :: s)) ∧
      (n < s.length → s ≠ [] → t.Perm s) := by
  constructor
  · intro n hn
    obtain ⟨lifted, hlifted⟩ := Stack.exists_lifts hn
    obtain ⟨sunk, hsunk⟩ := Stack.exists_lifts_to hn
    refine ⟨lifted, sunk, ?_, ?_, ?_, ?_, hlifted.getElem?_zero, hsunk.getElem?_zero.symm,
      fun d hd => ⟨hlifted.getElem?_of_lt hd, (hsunk.getElem?_of_lt hd).symm⟩⟩
    · exact hlifted.rotate ▸ m.rotates n s
    · exact hlifted.rotate_neg ▸ m.rotates (-n) lifted
    · exact hsunk.rotate_neg ▸ m.rotates (-n) s
    · exact hsunk.rotate ▸ m.rotates n sunk
  · intro n
    refine ⟨s.rotate n, m.rotates n s, fun h => ?_, Stack.perm_rotate⟩
    rw [Stack.rotate_eq_cons h]

/-- Three values rotated at their full depth and beyond it. -/
theorem rotations_are_inverse_three_values :
    let m := Machine.load (.ofSource ",") [] (.ofBytes []) .empty .first ""
    let s : Stack := [.text "x", .integer 5, .text "7"]
    2 < s.length ∧
    (∃ lifted sunk : Stack, m.Rotates 2 s lifted ∧ m.Rotates (-2) lifted s ∧
      m.Rotates (-2) s sunk ∧ m.Rotates 2 sunk s ∧
      lifted[0]? = some (.text "7") ∧ sunk[2]? = some (.text "x")) ∧
    (∃ t : Stack, m.Rotates 3 s t ∧ t.Perm (.integer 0 :: s)) ∧
    ∃ t : Stack, m.Rotates (-3) s t ∧ t.Perm s := by
  intro m s
  obtain ⟨hinverse, hany⟩ := rotations_are_inverse m s
  obtain ⟨lifted, sunk, hlift, hback, hsink, hforth, htop, hdeep, -⟩ := hinverse 2 (by decide)
  obtain ⟨t, ht, hadds, -⟩ := hany 3
  obtain ⟨u, hu, -, hkeeps⟩ := hany (-3)
  exact ⟨by decide, ⟨lifted, sunk, hlift, hback, hsink, hforth, htop, hdeep⟩,
    ⟨t, ht, hadds (.inl (by decide))⟩, ⟨u, hu, hkeeps (by decide) (by decide)⟩⟩

end Gridwalk
