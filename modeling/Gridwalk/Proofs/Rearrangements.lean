import Gridwalk.Proofs.Enumeration
import Mathlib.Data.List.Permutation

/-! # All rearrangements in order

A list that falls behind its pivot has no later rearrangement that keeps the pivot. The next one puts
the least larger number in its place and the others behind it in ascending order, which is the least
that can follow.
-/

namespace Gridwalk.Text
set_option autoImplicit false

theorem Falls.pairwise {order : List Nat} (h : Falls order) : order.Pairwise (· ≥ ·) := by
  apply List.IsChain.pairwise
  rw [List.isChain_iff_getElem]
  intro i hi
  have hi' : i < order.length := by omega
  simpa [hi, hi'] using h i hi

theorem eq_or_split_of_perm {R : Nat → Nat → Prop} {order other : List Nat}
    (hsorted : order.Pairwise R) (hperm : other.Perm order) :
    other = order ∨ ∃ before x xs y ys, order = before ++ x :: xs ∧ other = before ++ y :: ys ∧
      R x y ∧ x ≠ y := by
  induction order generalizing other with
  | nil => exact .inl hperm.eq_nil
  | cons x xs ih =>
    obtain ⟨hfirst, hrest⟩ := List.pairwise_cons.mp hsorted
    cases other with
    | nil => simp at hperm
    | cons y ys =>
      by_cases hxy : x = y
      · subst hxy
        obtain rfl | ⟨before, z, zs, w, ws, rfl, rfl, hR, hne⟩ := ih hrest hperm.cons_inv
        · exact .inl rfl
        · exact .inr ⟨x :: before, z, zs, w, ws, rfl, rfl, hR, hne⟩
      · have hy : y ∈ xs := by simpa [Ne.symm hxy] using hperm.mem_iff.mp List.mem_cons_self
        exact .inr ⟨[], x, xs, y, ys, rfl, rfl, hfirst y hy, hxy⟩

theorem le_of_perm_of_ascending {order other : List Nat} (hsorted : order.Pairwise (· ≤ ·))
    (hperm : other.Perm order) : order ≤ other := by
  obtain rfl | ⟨before, x, xs, y, ys, rfl, rfl, hle, hne⟩ := eq_or_split_of_perm hsorted hperm
  · exact le_rfl
  · exact (append_lt_append before xs ys (by omega)).le

theorem le_of_perm_of_descending {order other : List Nat} (hsorted : order.Pairwise (· ≥ ·))
    (hperm : other.Perm order) : other ≤ order := by
  obtain rfl | ⟨before, x, xs, y, ys, rfl, rfl, hge, hne⟩ := eq_or_split_of_perm hsorted hperm
  · exact le_rfl
  · exact (append_lt_append before ys xs (by omega)).le

theorem perm_exchange (x y : Nat) (high low : List Nat) :
    (y :: (high ++ x :: low)).Perm (x :: (high ++ y :: low)) := by
  have hleft : (y :: (high ++ x :: low)).Perm (y :: x :: (high ++ low)) := List.perm_middle.cons y
  have hright : (x :: (high ++ y :: low)).Perm (x :: y :: (high ++ low)) := List.perm_middle.cons x
  exact hleft.trans ((List.Perm.swap x y _).trans hright.symm)

theorem pairwise_exchange {x y : Nat} {high low : List Nat} (hxy : x < y)
    (hfalls : (high ++ y :: low).Pairwise (· ≥ ·)) (hlow : ∀ z ∈ low, z ≤ x) :
    (high ++ x :: low).reverse.Pairwise (· ≤ ·) := by
  rw [List.pairwise_reverse, List.pairwise_append, List.pairwise_cons]
  obtain ⟨hhigh, hbehind, hacross⟩ := List.pairwise_append.mp hfalls
  refine ⟨hhigh, ⟨hlow, hbehind.of_cons⟩, ?_⟩
  intro z hz w hw
  have hyz : y ≤ z := hacross z hz y List.mem_cons_self
  obtain rfl | hw := List.mem_cons.mp hw
  · omega
  · have hwx := hlow w hw
    omega

theorem exchange_le {x y : Nat} {high low rest : List Nat} (hxy : x < y)
    (hfalls : (high ++ y :: low).Pairwise (· ≥ ·)) (hlow : ∀ z ∈ low, z ≤ x)
    (hperm : rest.Perm (x :: (high ++ y :: low))) (hlt : x :: (high ++ y :: low) < rest) :
    y :: (high ++ x :: low).reverse ≤ rest := by
  cases hlt with
  -- With `x` in front again nothing is above a list that falls behind it.
  | cons hlt => exact absurd hlt (not_lt.mpr (le_of_perm_of_descending hfalls hperm.cons_inv))
  | @rel _ _ z zs hxz =>
    have hz : z ∈ high ++ y :: low := by
      have hmem := hperm.mem_iff.mp List.mem_cons_self
      simpa [Nat.ne_of_gt hxz] using hmem
    have hyz : y ≤ z := by
      obtain ⟨-, -, hacross⟩ := List.pairwise_append.mp hfalls
      rw [List.mem_append, List.mem_cons] at hz
      obtain hz | rfl | hz := hz
      · exact hacross z hz y List.mem_cons_self
      · exact le_rfl
      · exact absurd (hlow z hz) (by omega)
    obtain rfl | hyz := hyz.eq_or_lt
    · apply List.cons_le_cons
      apply le_of_perm_of_ascending (pairwise_exchange hxy hfalls hlow)
      have hrest : zs.Perm (high ++ x :: low) :=
        (hperm.trans (perm_exchange x y high low).symm).cons_inv
      exact hrest.trans (List.reverse_perm _).symm
    · exact le_of_lt (.rel hyz)

theorem traverses_orders (numbers : List Nat) : orders.Traverses {order | order.Perm numbers} := by
  intro order hperm
  obtain ⟨hnone, hfalls⟩ | ⟨before, x, high, y, low, rfl, hxy, hfalls, hlow, hsome⟩ :=
    nextOrder?_cases order
  · refine .inl ⟨hnone, ?_⟩
    intro other hother
    exact le_of_perm_of_descending hfalls.pairwise (hother.trans hperm.symm)
  · refine .inr ⟨_, hsome, ⟨?_, append_lt_append _ _ _ hxy⟩, ?_⟩
    · have hreverse : (y :: (high ++ x :: low).reverse).Perm (x :: (high ++ y :: low)) :=
        ((List.reverse_perm _).cons y).trans (perm_exchange x y high low)
      exact (hreverse.append_left before).trans hperm
    · rintro other ⟨hother, hlt⟩
      obtain habove | ⟨rest, rfl, hrest⟩ := append_lt_cases hlt
      · exact (habove _).le
      · have hrestperm : rest.Perm (x :: (high ++ y :: low)) :=
          (List.perm_append_left_iff before).mp (hother.trans hperm.symm)
        exact append_le_append_left before (exchange_le hxy hfalls.pairwise hlow hrestperm hrest)

variable {α : Type}

/-- The rearrangements of `n` elements are `n!` texts, one for each rearrangement of the places, in
the lexicographic order of the places. No place that is looked at on the way is out of range. -/
theorem permutations_in_order (l : List α) :
    ∃ visited : List (List Nat),
      visited.Pairwise (· < ·) ∧
      (∀ order, order ∈ visited ↔ order.Perm (List.range l.length)) ∧
      permutations? l = some (permutations l) ∧
      List.Forall₂ (Spells l) visited (permutations l) ∧
      (permutations l).length = l.length.factorial := by
  have hbelow : ∀ order : List Nat, order.Perm (List.range l.length) →
      ∀ i ∈ order, i < l.length := by
    intro order horder i hi
    exact List.mem_range.mp (horder.mem_iff.mp hi)
  have hleast : IsLeast {order | List.Perm order (List.range l.length)} (List.range l.length) :=
    ⟨.refl _, fun order horder => le_of_perm_of_ascending List.pairwise_le_range horder⟩
  obtain ⟨visited, found, heq, hvisits⟩ :=
    (traverses_orders (List.range l.length)).enumerate?_eq hbelow hleast
  have hfound : permutations l = found := by rw [permutations, permutations?, heq, Option.getD_some]
  refine ⟨visited, hvisits.sorted, hvisits.mem_iff, ?_, ?_, ?_⟩
  · rw [hfound]
    exact heq
  · rw [hfound]
    exact hvisits.spells
  · have hall : visited.Perm (List.range l.length).permutations := by
      rw [List.perm_ext_iff_of_nodup (hvisits.sorted.imp ne_of_lt)
        (List.nodup_permutations _ List.nodup_range)]
      intro order
      rw [hvisits.mem_iff, List.mem_permutations]
      rfl
    rw [hfound, ← hvisits.spells.length_eq, hall.length_eq, List.length_permutations,
      List.length_range]

end Gridwalk.Text
