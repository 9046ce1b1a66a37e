import Gridwalk.Text.Overlap
import Mathlib.Order.Bounds.Basic

/-! # Longest common texts

The table has, for each beginning of one text and each beginning of the other, the length of their
longest common end. A row is computed from the row before it, and the longest entry is kept with the
row it was first met in, so that it ends, and therefore starts, as far left as possible.
-/

namespace Gridwalk.Text
set_option autoImplicit false

variable {a b : List Char} {i j n : Nat}

/-- A text of `n` characters ends behind `i` characters of `a` and behind `j` characters of `b`. -/
def EndsCommon (a b : List Char) (i j n : Nat) : Prop :=
  ∃ t, t.length = n ∧ t <:+ a.take i ∧ t <:+ b.take j

theorem endsCommon_zero (a b : List Char) (i j : Nat) : EndsCommon a b i j 0 :=
  ⟨[], rfl, List.nil_suffix, List.nil_suffix⟩

theorem EndsCommon.eq_zero_left (h : EndsCommon a b 0 j n) : n = 0 := by
  obtain ⟨t, rfl, ha, -⟩ := h
  simpa using ha

theorem EndsCommon.eq_zero_right (h : EndsCommon a b i 0 n) : n = 0 := by
  obtain ⟨t, rfl, -, hb⟩ := h
  simpa using hb

theorem endsCommon_succ_iff {x y : Char} (hx : a[i]? = some x) (hy : b[j]? = some y) :
    EndsCommon a b (i + 1) (j + 1) n ↔ n = 0 ∨ x = y ∧ ∃ m, n = m + 1 ∧ EndsCommon a b i j m := by
  have ha : a.take (i + 1) = a.take i ++ [x] := by simp [List.take_add_one, hx]
  have hb : b.take (j + 1) = b.take j ++ [y] := by simp [List.take_add_one, hy]
  constructor
  · rintro ⟨t, rfl, hta, htb⟩
    rw [ha, List.suffix_concat_iff] at hta
    rw [hb, List.suffix_concat_iff] at htb
    obtain rfl | ⟨u, rfl, hu⟩ := hta
    · exact .inl rfl
    · obtain hnil | ⟨w, heq, hw⟩ := htb
      · simp at hnil
      · obtain ⟨rfl, hxy⟩ := List.append_inj' heq rfl
        exact .inr ⟨by simpa using hxy, u.length, by simp, u, rfl, hu, hw⟩
  · rintro (rfl | ⟨rfl, m, rfl, t, rfl, hta, htb⟩)
    · exact endsCommon_zero a b _ _
    · refine ⟨t ++ [x], by simp, ?_, ?_⟩
      · rw [ha, List.suffix_concat_iff]
        exact .inr ⟨t, rfl, hta⟩
      · rw [hb, List.suffix_concat_iff]
        exact .inr ⟨t, rfl, htb⟩

theorem isGreatest_succ_of_eq {x : Char} (hx : a[i]? = some x) (hy : b[j]? = some x)
    (h : IsGreatest {n | EndsCommon a b i j n} n) :
    IsGreatest {n | EndsCommon a b (i + 1) (j + 1) n} (n + 1) := by
  refine ⟨(endsCommon_succ_iff hx hy).mpr (.inr ⟨rfl, n, rfl, h.1⟩), ?_⟩
  intro m hm
  obtain rfl | ⟨-, k, rfl, hk⟩ := (endsCommon_succ_iff hx hy).mp hm
  · exact Nat.zero_le _
  · exact Nat.succ_le_succ (h.2 hk)

theorem isGreatest_succ_of_ne {x y : Char} (hx : a[i]? = some x) (hy : b[j]? = some y)
    (hne : x ≠ y) : IsGreatest {n | EndsCommon a b (i + 1) (j + 1) n} 0 := by
  refine ⟨endsCommon_zero a b _ _, ?_⟩
  intro m hm
  obtain rfl | ⟨heq, -⟩ := (endsCommon_succ_iff hx hy).mp hm
  · exact le_rfl
  · exact absurd heq hne

/-- Row `i` of the table is filled up to place `j`, and is zero from there on. -/
structure Filled (a b : List Char) (i j : Nat) (row : Array Nat) : Prop where
  size_eq : row.size = b.length + 1
  isGreatest : ∀ q n, q < j → row[q]? = some n → IsGreatest {n | EndsCommon a b i q n} n
  eq_zero : ∀ q n, j ≤ q → row[q]? = some n → n = 0

namespace Filled

variable {row : Array Nat}

theorem eq_zero_of_replicate {size q : Nat} (h : (Array.replicate size 0)[q]? = some n) :
    n = 0 := by
  rw [Array.getElem?_replicate] at h
  split at h
  · exact (Option.some.inj h).symm
  · cases h

theorem firstRow (a b : List Char) : Filled a b 0 (b.length + 1) (.replicate (b.length + 1) 0) where
  size_eq := Array.size_replicate
  isGreatest q n _ hn := by
    rw [eq_zero_of_replicate hn]
    exact ⟨endsCommon_zero a b _ _, fun m hm => hm.eq_zero_left.le⟩
  eq_zero q n _ hn := eq_zero_of_replicate hn

theorem newRow (a b : List Char) (i : Nat) : Filled a b i 1 (.replicate (b.length + 1) 0) where
  size_eq := Array.size_replicate
  isGreatest q n hq hn := by
    obtain rfl : q = 0 := by omega
    rw [eq_zero_of_replicate hn]
    exact ⟨endsCommon_zero a b _ _, fun m hm => hm.eq_zero_right.le⟩
  eq_zero q n _ hn := eq_zero_of_replicate hn

theorem set (h : Filled a b i j row) (hj : j < row.size)
    (hn : IsGreatest {n | EndsCommon a b i j n} n) : Filled a b i (j + 1) (row.set j n) where
  size_eq := by rw [Array.size_set, h.size_eq]
  isGreatest q m hq hm := by
    rw [Array.getElem?_set] at hm
    split at hm
    · subst j
      obtain rfl : n = m := Option.some.inj hm
      exact hn
    · exact h.isGreatest q m (by omega) hm
  eq_zero q m hq hm := by
    rw [Array.getElem?_set_ne hj (by omega)] at hm
    exact h.eq_zero q m (by omega) hm

theorem skip (h : Filled a b i j row) (hn : IsGreatest {n | EndsCommon a b i j n} 0) :
    Filled a b i (j + 1) row where
  size_eq := h.size_eq
  isGreatest q m hq hm := by
    obtain rfl | hlt : q = j ∨ q < j := by omega
    · rw [h.eq_zero q m le_rfl hm]
      exact hn
    · exact h.isGreatest q m hlt hm
  eq_zero q m hq hm := h.eq_zero q m (by omega) hm

end Filled

/-- The best of the entries before place `j` of row `i`: none is longer, and none of its length is
in an earlier row. -/
structure IsBest (a b : List Char) (i j : Nat) (best : Common) : Prop where
  attained : ∃ q, EndsCommon a b best.stop q best.length
  stop_le : best.stop ≤ i
  longest : ∀ p q n, p < i ∨ p = i ∧ q < j → q ≤ b.length → EndsCommon a b p q n → n ≤ best.length
  leftmost : ∀ p q, p < i ∨ p = i ∧ q < j → q ≤ b.length → EndsCommon a b p q best.length →
    best.stop ≤ p

namespace IsBest

variable {best : Common}

theorem firstRow (a b : List Char) : IsBest a b 0 (b.length + 1) ⟨0, 0⟩ where
  attained := ⟨0, endsCommon_zero a b _ _⟩
  stop_le := le_rfl
  longest p q n hseen _ hn := by
    obtain rfl : p = 0 := by omega
    exact hn.eq_zero_left.le
  leftmost p q _ _ _ := Nat.zero_le p

theorem newRow (h : IsBest a b i (b.length + 1) best) : IsBest a b (i + 1) 1 best where
  attained := h.attained
  stop_le := Nat.le_succ_of_le h.stop_le
  longest p q n hseen hq hn := by
    by_cases hp : p ≤ i
    · exact h.longest p q n (by omega) hq hn
    · obtain rfl : q = 0 := by omega
      exact hn.eq_zero_right.le.trans (Nat.zero_le _)
  leftmost p q hseen hq hn := by
    by_cases hp : p ≤ i
    · exact h.leftmost p q (by omega) hq hn
    · exact h.stop_le.trans (Nat.le_of_not_le hp)

theorem improve (h : IsBest a b i j best) (hn : IsGreatest {n | EndsCommon a b i j n} n) :
    IsBest a b i (j + 1) (best.improve n i) := by
  have hcases : ∀ p q, p < i ∨ p = i ∧ q < j + 1 → (p < i ∨ p = i ∧ q < j) ∨ p = i ∧ q = j := by
    omega
  rw [Common.improve]
  split
  · rename_i hlt
    refine ⟨⟨j, hn.1⟩, le_rfl, ?_, ?_⟩
    · intro p q m hseen hq hm
      obtain hseen | ⟨rfl, rfl⟩ := hcases p q hseen
      · exact (h.longest p q m hseen hq hm).trans hlt.le
      · exact hn.2 hm
    · intro p q hseen hq hm
      obtain hseen | ⟨rfl, rfl⟩ := hcases p q hseen
      · exact absurd (h.longest p q n hseen hq hm) (by omega)
      · exact le_rfl
  · rename_i hle
    refine ⟨h.attained, h.stop_le, ?_, ?_⟩
    · intro p q m hseen hq hm
      obtain hseen | ⟨rfl, rfl⟩ := hcases p q hseen
      · exact h.longest p q m hseen hq hm
      · exact (hn.2 hm).trans (by omega)
    · intro p q hseen hq hm
      obtain hseen | ⟨rfl, rfl⟩ := hcases p q hseen
      · exact h.leftmost p q hseen hq hm
      · exact h.stop_le

end IsBest

structure Progress (a b : List Char) (i j : Nat) (state : Array Nat × Common) : Prop where
  filled : Filled a b i j state.1
  isBest : IsBest a b i j state.2

theorem fill?_step {previous : Array Nat} {state : Array Nat × Common} (hi : i < a.length)
    (hj : j < b.length) (hprevious : Filled a b i (b.length + 1) previous)
    (h : Progress a b (i + 1) (j + 1) state) :
    ∃ state', fill? a.toArray b.toArray previous (i + 1) state (j + 1) = some state' ∧
      Progress a b (i + 1) (j + 1 + 1) state' := by
  obtain ⟨row, best⟩ := state
  obtain ⟨hrow, hbest⟩ := h
  have hx : a[i]? = some a[i] := List.getElem?_eq_getElem hi
  have hy : b[j]? = some b[j] := List.getElem?_eq_getElem hj
  by_cases hxy : a[i] = b[j]
  · have hbefore : j < previous.size := by
      rw [hprevious.size_eq]
      omega
    have hplace : j + 1 < row.size := by
      rw [hrow.size_eq]
      omega
    have hn := isGreatest_succ_of_eq hx (hxy ▸ hy)
      (hprevious.isGreatest j previous[j] (by omega) (Array.getElem?_eq_getElem hbefore))
    refine ⟨(row.set (j + 1) (previous[j] + 1), best.improve (previous[j] + 1) (i + 1)), ?_,
      hrow.set hplace hn, hbest.improve hn⟩
    simp [fill?, difference?_succ_one, hx, hy, hxy, hbefore, update?_of_lt _ hplace]
  · have hn := isGreatest_succ_of_ne hx hy hxy
    refine ⟨(row, best), ?_, hrow.skip hn, hbest.improve hn⟩
    simp [fill?, difference?_succ_one, hx, hy, hxy]

theorem fillRow?_step {state : Array Nat × Common} (hi : i < a.length)
    (h : Progress a b i (b.length + 1) state) :
    ∃ state', fillRow? a.toArray b.toArray state (i + 1) = some state' ∧
      Progress a b (i + 1) (b.length + 1) state' := by
  rw [fillRow?, List.size_toArray]
  refine exists_foldlM_range' (fun j => Progress a b (i + 1) (j + 1)) ?_ ?_
  · exact ⟨.newRow a b (i + 1), h.isBest.newRow⟩
  · intro j state' hj hstate'
    exact fill?_step hi hj h.filled hstate'

theorem exists_endsCommon {before t behind : List Char} (ha : a = before ++ t ++ behind)
    (hb : t <:+: b) : ∃ q, q ≤ b.length ∧ EndsCommon a b (before.length + t.length) q t.length := by
  obtain ⟨before', behind', rfl⟩ := hb
  refine ⟨before'.length + t.length, by simp, t, rfl, ⟨before, ?_⟩, ⟨before', ?_⟩⟩
  · rw [ha, List.take_left' (List.length_append ..)]
  · rw [List.take_left' (List.length_append ..)]

theorem IsBest.exists_stretch? {best : Common} (h : IsBest a b a.length (b.length + 1) best) :
    ∃ before t behind, stretch? a (best.stop - best.length) best.stop = some t ∧
      best.length ≤ best.stop ∧ a = before ++ t ++ behind ∧ t <:+: b ∧ t.length = best.length ∧
      before.length + best.length = best.stop := by
  obtain ⟨q, t, hlength, hta, htb⟩ := h.attained
  have htake : (a.take best.stop).length = best.stop := List.length_take_of_le h.stop_le
  have hle : best.length ≤ best.stop := by
    rw [← hlength, ← htake]
    exact hta.length_le
  obtain ⟨before, hbefore⟩ := hta
  have hstop : before.length + best.length = best.stop := by
    rw [← htake, ← hbefore, List.length_append, hlength]
  refine ⟨before, t, a.drop best.stop, ?_, hle, ?_, ?_, hlength, hstop⟩
  · rw [stretch?_of_le (Nat.sub_le _ _) h.stop_le, ← hbefore,
      List.drop_left' (by omega)]
  · rw [hbefore, List.take_append_drop]
  · exact htb.isInfix.trans (List.take_prefix q b).isInfix

theorem exists_longestCommon? (a b : List Char) :
    ∃ before t behind, longestCommon? a b = some t ∧ a = before ++ t ++ behind ∧ t <:+: b ∧
      ∀ before' t' behind', a = before' ++ t' ++ behind' → t' <:+: b →
        t'.length ≤ t.length ∧ (t'.length = t.length → before.length ≤ before'.length) := by
  have hstart : Progress a b 0 (b.length + 1) (.replicate (b.length + 1) 0, ⟨0, 0⟩) :=
    ⟨.firstRow a b, .firstRow a b⟩
  obtain ⟨⟨row, best⟩, heq, -, hbest⟩ :=
    exists_foldlM_range' (fun i => Progress a b i (b.length + 1)) hstart
      fun i state hi hstate => fillRow?_step hi hstate
  obtain ⟨before, t, behind, hstretch, hle, ha, hb, hlength, hstop⟩ := hbest.exists_stretch?
  refine ⟨before, t, behind, ?_, ha, hb, ?_⟩
  · simp [longestCommon?, heq, difference?_of_le hle, hstretch]
  · intro before' t' behind' ha' hb'
    obtain ⟨q, hq, hends⟩ := exists_endsCommon ha' hb'
    have hseen : before'.length + t'.length < a.length ∨
        before'.length + t'.length = a.length ∧ q < b.length + 1 := by
      have htotal := congrArg List.length ha'
      simp only [List.length_append] at htotal
      omega
    refine ⟨hlength ▸ hbest.longest _ _ _ hseen hq hends, ?_⟩
    intro hsame
    rw [hsame, hlength] at hends hseen
    have hleft := hbest.leftmost _ _ hseen hq hends
    omega

/-- The text computed occurs in both texts, no longer one does, and no common text of its length
starts further left in `a`. No place that is looked at on the way is out of range. -/
theorem longestCommon_is_longest_leftmost (a b : List Char) :
    longestCommon? a b = some (longestCommon a b) ∧
    longestCommon a b <:+: a ∧ longestCommon a b <:+: b ∧
    (∀ t, t <:+: a → t <:+: b → t.length ≤ (longestCommon a b).length) ∧
    ∃ before behind, a = before ++ longestCommon a b ++ behind ∧
      ∀ before' t behind', a = before' ++ t ++ behind' → t <:+: b →
        t.length = (longestCommon a b).length → before.length ≤ before'.length := by
  obtain ⟨before, t, behind, heq, ha, hb, hbest⟩ := exists_longestCommon? a b
  rw [longestCommon, heq, Option.getD_some]
  refine ⟨rfl, ⟨before, behind, ha.symm⟩, hb, ?_, before, behind, ha, ?_⟩
  · rintro t' ⟨before', behind', ha'⟩ hb'
    exact (hbest before' t' behind' ha'.symm hb').1
  · intro before' t' behind' ha' hb'
    exact (hbest before' t' behind' ha' hb').2

theorem longestCommon_is_longest_leftmost_tie :
    longestCommon ['a', 'b', 'x', 'c', 'd'] ['c', 'd', 'a', 'b'] = ['a', 'b'] ∧
    ['c', 'd'] <:+: ['c', 'd', 'a', 'b'] ∧
    ∃ before behind, ['a', 'b', 'x', 'c', 'd'] = before ++ ['a', 'b'] ++ behind ∧
      before.length ≤ ['a', 'b', 'x'].length := by
  have heq : longestCommon ['a', 'b', 'x', 'c', 'd'] ['c', 'd', 'a', 'b'] = ['a', 'b'] := by decide
  have hb : ['c', 'd'] <:+: ['c', 'd', 'a', 'b'] := ⟨[], ['a', 'b'], rfl⟩
  obtain ⟨-, -, -, -, before, behind, ha, hleft⟩ :=
    longestCommon_is_longest_leftmost ['a', 'b', 'x', 'c', 'd'] ['c', 'd', 'a', 'b']
  rw [heq] at ha hleft
  exact ⟨heq, hb, before, behind, ha, hleft ['a', 'b', 'x'] ['c', 'd'] [] rfl hb rfl⟩

end Gridwalk.Text
