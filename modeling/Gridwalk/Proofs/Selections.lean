import Gridwalk.Proofs.Enumeration
import Mathlib.Data.List.Shortlex
import Mathlib.Data.List.Sort
import Mathlib.Data.List.Sublists

/-! # All selections in order

Ascending places below `n` leave room for those behind them. Places that follow each other directly
are the least that can stand behind a given one, and full places the greatest, so that moving the
last place with room leads to the next choice.
-/

namespace Gridwalk.Text
set_option autoImplicit false

@[mk_iff] structure Ascends (n : Nat) (choice : List Nat) : Prop where
  sorted : choice.Pairwise (· < ·)
  below : ∀ i ∈ choice, i < n

def Chosen (n k : Nat) : Set (List Nat) := {choice | choice.length = k ∧ Ascends n choice}

namespace Ascends

variable {n x : Nat} {choice behind : List Nat}

theorem of_cons (h : Ascends n (x :: choice)) : Ascends n choice :=
  ⟨h.sorted.of_cons, fun i hi => h.below i (List.mem_cons_of_mem x hi)⟩

theorem of_append {before : List Nat} (h : Ascends n (before ++ behind)) : Ascends n behind :=
  ⟨(List.pairwise_append.mp h.sorted).2.1, fun i hi => h.below i (List.mem_append_right before hi)⟩

theorem head_add_length_le (h : Ascends n (x :: choice)) : x + (choice.length + 1) ≤ n := by
  induction choice generalizing x with
  | nil => exact h.below x List.mem_cons_self
  | cons y choice ih =>
    have hxy : x < y := List.rel_of_pairwise_cons h.sorted List.mem_cons_self
    have hy := ih h.of_cons
    simp only [List.length_cons]
    omega

theorem length_le (h : Ascends n choice) : choice.length ≤ n := by
  cases choice with
  | nil => exact Nat.zero_le n
  | cons x choice => exact (Nat.le_add_left _ x).trans h.head_add_length_le

theorem iff_sublist_range : Ascends n choice ↔ choice.Sublist (List.range n) := by
  constructor
  · intro h
    have hsubset : choice ⊆ List.range n := fun i hi => List.mem_range.mpr (h.below i hi)
    exact List.sublist_of_subperm_of_pairwise (List.subperm_of_subset h.sorted.nodup hsubset)
      (h.sorted.imp Nat.le_of_lt) List.pairwise_le_range
  · intro h
    exact ⟨List.pairwise_lt_range.sublist h, fun i hi => List.mem_range.mp (h.subset hi)⟩

theorem range'_le (h : choice.Pairwise (· < ·)) (hx : ∀ i ∈ choice, x ≤ i) :
    List.range' x choice.length ≤ choice := by
  induction choice generalizing x with
  | nil => exact le_rfl
  | cons y choice ih =>
    obtain ⟨hfirst, hrest⟩ := List.pairwise_cons.mp h
    rw [List.length_cons, List.range'_succ]
    obtain rfl | hlt := (hx y List.mem_cons_self).eq_or_lt
    · exact List.cons_le_cons x (ih hrest hfirst)
    · exact le_of_lt (.rel hlt)

end Ascends

theorem Full.of_cons {n y : Nat} {full : List Nat} (h : Full n (y :: full))
    (hlength : full.length + 1 ≤ n) : n - (full.length + 1) ≤ y ∧ Full n full := by
  constructor
  · simpa using h 0 (by simp)
  · intro i hi
    have hnext := h (i + 1) (by simpa using hi)
    simp only [List.length_cons, List.getD_cons_succ] at hnext
    omega

theorem Full.ge {n : Nat} {full choice : List Nat} (h : Full n full) (hchoice : Ascends n choice)
    (hlength : choice.length = full.length) : choice ≤ full := by
  induction full generalizing choice with
  | nil => exact (List.length_eq_zero_iff.mp hlength).le
  | cons y full ih =>
    cases choice with
    | nil => simp at hlength
    | cons x choice =>
      have hroom := hchoice.head_add_length_le
      have hlength' : choice.length = full.length := by simpa using hlength
      obtain ⟨hy, hfull⟩ := h.of_cons (by omega)
      obtain rfl | hlt := (show x ≤ y by omega).eq_or_lt
      · exact List.cons_le_cons x (ih hfull hchoice.of_cons hlength')
      · exact le_of_lt (.rel hlt)

theorem ascends_move {n x : Nat} {before behind : List Nat}
    (h : Ascends n (before ++ x :: behind)) (hroom : x + (behind.length + 1) < n) :
    Ascends n (before ++ List.range' (x + 1) (behind.length + 1)) := by
  obtain ⟨hbefore, -, hacross⟩ := List.pairwise_append.mp h.sorted
  constructor
  · refine List.pairwise_append.mpr ⟨hbefore, List.pairwise_lt_range', ?_⟩
    intro i hi j hj
    have hix : i < x := hacross i hi x List.mem_cons_self
    have hxj : x + 1 ≤ j := (List.mem_range'_1.mp hj).1
    omega
  · intro i hi
    obtain hi | hi := List.mem_append.mp hi
    · exact h.below i (List.mem_append_left _ hi)
    · have hend := (List.mem_range'_1.mp hi).2
      omega

theorem move_le {n x : Nat} {behind rest : List Nat} (hfull : Full n behind)
    (hrest : Ascends n rest) (hlength : rest.length = behind.length + 1) (hlt : x :: behind < rest) :
    List.range' (x + 1) (behind.length + 1) ≤ rest := by
  rw [← hlength]
  cases hlt with
  -- With `x` in front again nothing is above places that are full behind it.
  | cons hlt => exact absurd hlt (not_lt.mpr (hfull.ge hrest.of_cons (by simpa using hlength)))
  | @rel _ _ z zs hxz =>
    apply Ascends.range'_le hrest.sorted
    intro i hi
    obtain rfl | hi := List.mem_cons.mp hi
    · exact hxz
    · have hzi : z < i := List.rel_of_pairwise_cons hrest.sorted hi
      omega

theorem traverses_choices {n k : Nat} (hk : k ≤ n) : (choices n).Traverses (Chosen n k) := by
  rintro choice ⟨rfl, hchoice⟩
  obtain ⟨hnone, hfull⟩ | ⟨before, x, behind, rfl, hroom, hfull, hsome⟩ := nextChoice?_cases hk
  · refine .inl ⟨hnone, ?_⟩
    rintro other ⟨hlength, hother⟩
    exact hfull.ge hother hlength
  · refine .inr ⟨_, hsome, ⟨⟨by simp, ascends_move hchoice hroom⟩, ?_⟩, ?_⟩
    · rw [List.range'_succ]
      exact append_lt_append _ _ _ (Nat.lt_add_one x)
    · rintro other ⟨⟨hlength, hother⟩, hlt⟩
      obtain habove | ⟨rest, rfl, hrest⟩ := append_lt_cases hlt
      · exact (habove _).le
      · exact append_le_append_left before
          (move_le hfull hother.of_append (by simpa using hlength) hrest)

theorem isLeast_range {n k : Nat} (hk : k ≤ n) : IsLeast (Chosen n k) (List.range k) := by
  refine ⟨⟨List.length_range, List.pairwise_lt_range, ?_⟩, ?_⟩
  · intro i hi
    exact (List.mem_range.mp hi).trans_le hk
  · rintro choice ⟨rfl, hchoice⟩
    rw [List.range_eq_range']
    exact Ascends.range'_le hchoice.sorted fun i _ => Nat.zero_le i

theorem exists_mem_chosen_iff {n : Nat} {choice : List Nat} :
    (∃ k < n, choice ∈ Chosen n (k + 1)) ↔ choice ≠ [] ∧ Ascends n choice := by
  constructor
  · rintro ⟨k, -, hlength, hchoice⟩
    refine ⟨?_, hchoice⟩
    rintro rfl
    simp at hlength
  · rintro ⟨hne, hchoice⟩
    have hpos : 0 < choice.length := List.length_pos_iff.mpr hne
    have hle := hchoice.length_le
    exact ⟨choice.length - 1, by omega, by omega, hchoice⟩

theorem length_of_mem_iff_ascends {n : Nat} {visited : List (List Nat)} (hnodup : visited.Nodup)
    (hmem : ∀ choice, choice ∈ visited ↔ choice ≠ [] ∧ Ascends n choice) :
    visited.length = 2 ^ n - 1 := by
  have hsublists : (List.range n).sublists.Nodup := List.nodup_sublists.mpr List.nodup_range
  have hall : visited.Perm ((List.range n).sublists.erase []) := by
    rw [List.perm_ext_iff_of_nodup hnodup (hsublists.erase [])]
    intro choice
    rw [hmem, hsublists.mem_erase_iff, List.mem_sublists, Ascends.iff_sublist_range]
  rw [hall.length_eq, List.length_erase_of_mem (by simp), List.length_sublists, List.length_range]

variable {α : Type} {l : List α}

theorem subsequences?_eq {found : Nat → List (List α)}
    (h : ∀ k < l.length,
      (choices l.length).enumerate? l (List.range (k + 1)) = some (found k)) :
    subsequences? l = some ((List.range l.length).flatMap found) := by
  have hblocks : ((List.range l.length).mapM fun k =>
      (choices l.length).enumerate? l (List.range (k + 1))) =
      some ((List.range l.length).map found) := by
    rw [mapM_eq_some_iff, List.map_map]
    apply List.map_congr_left
    intro k hk
    exact h k (List.mem_range.mp hk)
  rw [subsequences?, hblocks, List.flatMap_def]
  rfl

section Blocks

variable {n : Nat} {visited : Nat → List (List Nat)} {found : Nat → List (List α)}
  (h : ∀ k < n, Visits (Chosen n (k + 1)) l (visited k) (found k))
include h

theorem spells_blocks :
    List.Forall₂ (Spells l) ((List.range n).flatMap visited) ((List.range n).flatMap found) := by
  rw [List.flatMap_def, List.flatMap_def]
  apply List.rel_flatten
  rw [List.forall₂_map_left_iff, List.forall₂_map_right_iff, List.forall₂_same]
  intro k hk
  exact (h k (List.mem_range.mp hk)).spells

theorem pairwise_blocks : ((List.range n).flatMap visited).Pairwise (List.Shortlex (· < ·)) := by
  have hlength : ∀ k ∈ List.range n, ∀ choice ∈ visited k, choice.length = k + 1 := by
    intro k hk choice hchoice
    exact (((h k (List.mem_range.mp hk)).mem_iff choice).mp hchoice).1
  rw [List.pairwise_flatMap]
  constructor
  · intro k hk
    apply (h k (List.mem_range.mp hk)).sorted.imp_of_mem
    intro choice other hchoice hother hlt
    exact .of_lex ((hlength k hk choice hchoice).trans (hlength k hk other hother).symm) hlt
  · apply List.pairwise_lt_range.imp_of_mem
    intro j k hj hk hjk choice hchoice other hother
    apply List.Shortlex.of_length_lt
    rw [hlength j hj choice hchoice, hlength k hk other hother]
    exact Nat.add_lt_add_right hjk 1

theorem mem_blocks_iff (choice : List Nat) :
    choice ∈ (List.range n).flatMap visited ↔ choice ≠ [] ∧ Ascends n choice := by
  rw [← exists_mem_chosen_iff]
  simp only [List.mem_flatMap, List.mem_range]
  apply exists_congr
  intro k
  exact and_congr_right fun hk => (h k hk).mem_iff choice

end Blocks

/-- The non-empty selections of `n` elements are `2 ^ n - 1` texts, one for each ascending choice of
places, short choices first and those of one length in lexicographic order. No place or difference
that is computed on the way is out of range. -/
theorem subsequences_in_order (l : List α) :
    ∃ visited : List (List Nat),
      visited.Pairwise (List.Shortlex (· < ·)) ∧
      (∀ choice, choice ∈ visited ↔
        choice ≠ [] ∧ choice.Pairwise (· < ·) ∧ ∀ i ∈ choice, i < l.length) ∧
      subsequences? l = some (subsequences l) ∧
      List.Forall₂ (Spells l) visited (subsequences l) ∧
      (subsequences l).length = 2 ^ l.length - 1 := by
  have hblock : ∀ k < l.length, ∃ visited found,
      (choices l.length).enumerate? l (List.range (k + 1)) = some found ∧
      Visits (Chosen l.length (k + 1)) l visited found := by
    intro k hk
    exact (traverses_choices hk).enumerate?_eq (fun choice hchoice => hchoice.2.below)
      (isLeast_range hk)
  choose! visited found hrun hvisits using hblock
  have heq := subsequences?_eq hrun
  have hfound : subsequences l = (List.range l.length).flatMap found := by
    rw [subsequences, heq, Option.getD_some]
  have hspells := spells_blocks hvisits
  have hsorted := pairwise_blocks hvisits
  have hmem := mem_blocks_iff hvisits
  refine ⟨(List.range l.length).flatMap visited, hsorted, ?_, ?_, ?_, ?_⟩
  · intro choice
    rw [hmem, ascends_iff]
  · rw [hfound]
    exact heq
  · rw [hfound]
    exact hspells
  · rw [hfound, ← hspells.length_eq]
    exact length_of_mem_iff_ascends (hsorted.imp fun h => ne_of_irrefl h) hmem

end Gridwalk.Text
