import Gridwalk.Proofs.Segments
import Gridwalk.Text.Overlap
import Mathlib.Order.Bounds.Basic

/-! # Shortest texts that contain two texts

Where two texts stand in a third one and neither contains the other, the one that starts first also
ends first. If they meet, an end of the first is a beginning of the second, so that the third text
is at least as long as the two with their longest overlap counted once.
-/

namespace Gridwalk.Text
set_option autoImplicit false

variable {a b s t : List Char}

def Overlaps (a b : List Char) (k : Nat) : Prop :=
  ∃ common, common.length = k ∧ common <:+ a ∧ common <+: b

theorem overlaps_zero (a b : List Char) : Overlaps a b 0 :=
  ⟨[], rfl, List.nil_suffix, List.nil_prefix⟩

theorem Overlaps.le_left {k : Nat} (h : Overlaps a b k) : k ≤ a.length := by
  obtain ⟨common, rfl, hsuffix, -⟩ := h
  exact hsuffix.length_le

theorem Overlaps.le_right {k : Nat} (h : Overlaps a b k) : k ≤ b.length := by
  obtain ⟨common, rfl, -, hprefix⟩ := h
  exact hprefix.length_le

theorem overlaps_iff {k : Nat} (ha : k ≤ a.length) (hb : k ≤ b.length) :
    Overlaps a b k ↔ a.drop (a.length - k) = b.take k := by
  constructor
  · rintro ⟨common, rfl, hsuffix, hprefix⟩
    rw [← List.suffix_iff_eq_drop.mp hsuffix, ← List.prefix_iff_eq_take.mp hprefix]
  · intro h
    refine ⟨b.take k, List.length_take_of_le hb, ?_, List.take_prefix k b⟩
    rw [← h]
    exact List.drop_suffix _ a

theorem overlaps?_eq {k : Nat} (ha : k ≤ a.length) (hb : k ≤ b.length) :
    overlaps? a b k = some (decide (a.drop (a.length - k) = b.take k)) := by
  simp [overlaps?, difference?_of_le ha, stretch?_of_le (Nat.sub_le a.length k) le_rfl,
    stretch?_of_le (Nat.zero_le k) hb, beq_eq_decide]

theorem exists_overlap? (a b : List Char) :
    ∃ k, overlap? a b = some k ∧ IsGreatest {k | Overlaps a b k} k := by
  have htest : ∀ k, 0 ≤ k → k < 0 + (min a.length b.length + 1) →
      overlaps? a b k = some (decide (a.drop (a.length - k) = b.take k)) :=
    fun k _ hlt => overlaps?_eq (by omega) (by omega)
  obtain ⟨-, hnone⟩ | ⟨k, heq, -, hlt, hk, hbehind⟩ := lastFrom?_cases htest
  · exact absurd (by simp) (hnone 0 le_rfl (by omega))
  · refine ⟨k, by simp [overlap?, heq], (overlaps_iff (by omega) (by omega)).mpr hk, ?_⟩
    intro j hj
    by_contra hkj
    have ha := hj.le_left
    have hb := hj.le_right
    exact hbehind j (by omega) (by omega) ((overlaps_iff ha hb).mp hj)

/-- A shortest text that starts with `a` and ends with `b`. -/
structure IsMerge (a b s : List Char) : Prop where
  starts : a <+: s
  ends : b <:+ s
  shortest : ∀ t, a <+: t → b <:+ t → s.length ≤ t.length

theorem IsMerge.length_eq (hs : IsMerge a b s) (ht : IsMerge a b t) : s.length = t.length :=
  le_antisymm (hs.shortest t ht.starts ht.ends) (ht.shortest s hs.starts hs.ends)

/-- A text that starts with `a` and has `b` somewhere, but not inside `a`, saves at most an overlap. -/
theorem exists_overlaps_of_append {u v w : List Char} (h : a ++ v = u ++ (b ++ w))
    (hno : ¬ b <:+: a) : ∃ k, Overlaps a b k ∧ a.length + b.length ≤ (a ++ v).length + k := by
  obtain ⟨x, hu, hv⟩ | ⟨x, ha, hbw⟩ := List.append_eq_append_iff.mp h
  · refine ⟨0, overlaps_zero a b, ?_⟩
    simp only [hv, List.length_append]
    omega
  · obtain ⟨y, hx, hw⟩ | ⟨y, hb, hv⟩ := List.append_eq_append_iff.mp hbw
    · exact absurd ⟨u, y, by rw [ha, hx, List.append_assoc]⟩ hno
    · refine ⟨x.length, ⟨x, rfl, ⟨u, ha.symm⟩, ⟨y, hb.symm⟩⟩, ?_⟩
      simp only [hb, hv, List.length_append]
      omega

theorem exists_overlaps_of_infix (ha : a <:+: s) (hb : b <:+: s) (hab : ¬ a <:+: b)
    (hba : ¬ b <:+: a) :
    ∃ k, (Overlaps a b k ∨ Overlaps b a k) ∧ a.length + b.length ≤ s.length + k := by
  obtain ⟨p, v, hpv⟩ := ha
  obtain ⟨u, w, huw⟩ := hb
  rw [List.append_assoc] at hpv huw
  -- Which of the two starts first decides which order is used.
  obtain ⟨x, -, hx⟩ | ⟨x, -, hx⟩ := List.append_eq_append_iff.mp (hpv.trans huw.symm)
  · obtain ⟨k, hk, hle⟩ := exists_overlaps_of_append hx hba
    refine ⟨k, .inl hk, ?_⟩
    rw [← hpv, List.length_append]
    omega
  · obtain ⟨k, hk, hle⟩ := exists_overlaps_of_append hx hab
    refine ⟨k, .inr hk, ?_⟩
    rw [← huw, List.length_append]
    omega

theorem isMerge_append {k : Nat} (hk : IsGreatest {k | Overlaps a b k} k) (hno : ¬ b <:+: a) :
    IsMerge a b (a ++ b.drop k) where
  starts := List.prefix_append a _
  ends := by
    obtain ⟨common, rfl, ⟨u, rfl⟩, ⟨w, rfl⟩⟩ := hk.1
    exact ⟨u, by simp⟩
  shortest := by
    rintro t ⟨v, rfl⟩ ⟨u, hu⟩
    have heq : a ++ v = u ++ (b ++ []) := by rw [List.append_nil, hu]
    obtain ⟨j, hj, hle⟩ := exists_overlaps_of_append heq hno
    have hjk : j ≤ k := hk.2 hj
    have hb := hk.1.le_right
    rw [List.length_append, List.length_drop]
    omega

theorem length_le_of_infix {forth back : Nat} (hforth : IsGreatest {k | Overlaps a b k} forth)
    (hback : IsGreatest {k | Overlaps b a k} back) (hab : ¬ a <:+: b) (hba : ¬ b <:+: a)
    (ha : a <:+: s) (hb : b <:+: s) : a.length + b.length ≤ s.length + max forth back := by
  obtain ⟨k, hk | hk, hle⟩ := exists_overlaps_of_infix ha hb hab hba
  · have hmax : k ≤ forth := hforth.2 hk
    omega
  · have hmax : k ≤ back := hback.2 hk
    omega

theorem shortestCover?_cases (a b : List Char) :
    (b <:+: a ∧ shortestCover? a b = some a) ∨
    (a <:+: b ∧ shortestCover? a b = some b) ∨
    ∃ forth back, ¬ a <:+: b ∧ ¬ b <:+: a ∧
      IsGreatest {k | Overlaps a b k} forth ∧ IsGreatest {k | Overlaps b a k} back ∧
      shortestCover? a b =
        some (if back ≤ forth then a ++ b.drop forth else b ++ a.drop back) := by
  by_cases hba : b <:+: a
  · exact .inl ⟨hba, by simp [shortestCover?, contains_iff.mpr hba]⟩
  have hnot : contains a b = false := by simpa [← contains_iff] using hba
  by_cases hab : a <:+: b
  · exact .inr (.inl ⟨hab, by simp [shortestCover?, hnot, contains_iff.mpr hab]⟩)
  have hnot' : contains b a = false := by simpa [← contains_iff] using hab
  obtain ⟨forth, hforth, hgreatest⟩ := exists_overlap? a b
  obtain ⟨back, hback, hgreatest'⟩ := exists_overlap? b a
  refine .inr (.inr ⟨forth, back, hab, hba, hgreatest, hgreatest', ?_⟩)
  have hb := stretch?_of_le hgreatest.1.le_right le_rfl
  have ha := stretch?_of_le hgreatest'.1.le_right le_rfl
  rw [List.take_length] at ha hb
  by_cases hle : back ≤ forth
  · simp [shortestCover?, hnot, hnot', hforth, hback, hb, hle]
  · simp [shortestCover?, hnot, hnot', hforth, hback, ha, hle]

/-- The text computed contains both texts and no shorter one does. If neither contains the other and
a shortest text with `a` first is as long as one with `b` first, it starts with `a`. -/
theorem shortestCover_is_shortest (a b : List Char) :
    shortestCover? a b = some (shortestCover a b) ∧
    a <:+: shortestCover a b ∧ b <:+: shortestCover a b ∧
    (∀ s, a <:+: s → b <:+: s → (shortestCover a b).length ≤ s.length) ∧
    (¬ a <:+: b → ¬ b <:+: a → ∀ s t, IsMerge a b s → IsMerge b a t → s.length = t.length →
      a <+: shortestCover a b) := by
  obtain ⟨hba, heq⟩ | ⟨hab, heq⟩ | ⟨forth, back, hab, hba, hforth, hback, heq⟩ :=
    shortestCover?_cases a b
  all_goals rw [shortestCover, heq, Option.getD_some]
  · exact ⟨rfl, List.infix_rfl, hba, fun s hs _ => hs.length_le, fun _ hno => absurd hba hno⟩
  · exact ⟨rfl, hab, List.infix_rfl, fun s _ hs => hs.length_le, fun hno _ => absurd hab hno⟩
  have hforthMerge := isMerge_append hforth hba
  have hbackMerge := isMerge_append hback hab
  have hforthLe := hforth.1.le_right
  have hbackLe := hback.1.le_right
  by_cases hle : back ≤ forth
  · rw [if_pos hle]
    refine ⟨rfl, hforthMerge.starts.isInfix, hforthMerge.ends.isInfix, ?_, ?_⟩
    · intro s ha hb
      have hlength := length_le_of_infix hforth hback hab hba ha hb
      rw [List.length_append, List.length_drop]
      omega
    · intro _ _ s t _ _ _
      exact hforthMerge.starts
  · rw [if_neg hle]
    refine ⟨rfl, hbackMerge.ends.isInfix, hbackMerge.starts.isInfix, ?_, ?_⟩
    · intro s ha hb
      have hlength := length_le_of_infix hforth hback hab hba ha hb
      rw [List.length_append, List.length_drop]
      omega
    · intro _ _ s t hs ht hst
      rw [hs.length_eq hforthMerge, ht.length_eq hbackMerge] at hst
      simp only [List.length_append, List.length_drop] at hst
      omega

theorem shortestCover_is_shortest_both_orders :
    ¬ ['a', 'b', 'a'] <:+: ['b', 'a', 'b'] ∧ ¬ ['b', 'a', 'b'] <:+: ['a', 'b', 'a'] ∧
    IsMerge ['a', 'b', 'a'] ['b', 'a', 'b'] ['a', 'b', 'a', 'b'] ∧
    IsMerge ['b', 'a', 'b'] ['a', 'b', 'a'] ['b', 'a', 'b', 'a'] ∧
    ['a', 'b', 'a'] <+: shortestCover ['a', 'b', 'a'] ['b', 'a', 'b'] := by
  have hab : ¬ ['a', 'b', 'a'] <:+: ['b', 'a', 'b'] := by
    rw [← contains_iff]
    decide
  have hba : ¬ ['b', 'a', 'b'] <:+: ['a', 'b', 'a'] := by
    rw [← contains_iff]
    decide
  obtain ⟨forth, hforth, hgreatest⟩ := exists_overlap? ['a', 'b', 'a'] ['b', 'a', 'b']
  obtain ⟨back, hback, hgreatest'⟩ := exists_overlap? ['b', 'a', 'b'] ['a', 'b', 'a']
  obtain rfl : 2 = forth := Option.some.inj hforth
  obtain rfl : 2 = back := Option.some.inj hback
  have hs := isMerge_append hgreatest hba
  have ht := isMerge_append hgreatest' hab
  obtain ⟨-, -, -, -, hstarts⟩ := shortestCover_is_shortest ['a', 'b', 'a'] ['b', 'a', 'b']
  exact ⟨hab, hba, hs, ht, hstarts hab hba _ _ hs ht rfl⟩

end Gridwalk.Text
