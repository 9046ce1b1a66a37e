import Gridwalk.Text.Succession
import Mathlib.Data.List.Lex
import Mathlib.Data.List.Forall2
import Mathlib.Order.Bounds.Basic

/-! # Enumeration by steps to the next

A succession traverses a set of lists of places if each step goes to the least later one in the set
and ends at the greatest. Then the enumeration from the least one meets every list of the set once,
in order, and every place it looks at is in range.
-/

namespace Gridwalk.Text
set_option autoImplicit false

variable {α : Type} {l : List α}

def Spells (l : List α) (places : List Nat) (text : List α) : Prop :=
  places.map (l[·]?) = text.map some

theorem pick?_eq_some_iff {places : List Nat} {text : List α} :
    pick? l places = some text ↔ Spells l places text := mapM_eq_some_iff

theorem exists_pick? {places : List Nat} (h : ∀ i ∈ places, i < l.length) :
    ∃ text, pick? l places = some text := by
  simp only [pick?_eq_some_iff]
  induction places with
  | nil => exact ⟨[], rfl⟩
  | cons i places ih =>
    obtain ⟨hi, hrest⟩ := List.forall_mem_cons.mp h
    obtain ⟨text, htext⟩ := ih hrest
    refine ⟨l[i] :: text, ?_⟩
    rw [Spells, List.map_cons, List.map_cons, List.getElem?_eq_getElem hi, htext]

/-- The texts found are those at the places visited, which are the lists of the set in order. -/
structure Visits (S : Set (List Nat)) (l : List α) (visited : List (List Nat))
    (found : List (List α)) : Prop where
  spells : List.Forall₂ (Spells l) visited found
  sorted : visited.Pairwise (· < ·)
  mem_iff : ∀ places, places ∈ visited ↔ places ∈ S

/-- Each step leads to the next list of the set, and there is no step from the last one. -/
def Succession.Traverses (s : Succession) (S : Set (List Nat)) : Prop :=
  ∀ places ∈ S, (s.next? places = some none ∧ ∀ other ∈ S, other ≤ places) ∨
    ∃ later, s.next? places = some (some later) ∧ IsLeast {other ∈ S | places < other} later

namespace Succession.Traverses

variable {s : Succession} {S : Set (List Nat)}

theorem le_of_next?_eq_none (h : s.Traverses S) {places : List Nat} (hplaces : places ∈ S)
    (hnext : s.next? places = some none) : ∀ other ∈ S, other ≤ places := by
  obtain ⟨-, hlast⟩ | ⟨later, heq, -⟩ := h places hplaces
  · exact hlast
  · simp [heq] at hnext

theorem isLeast_of_next?_eq_some (h : s.Traverses S) {places later : List Nat}
    (hplaces : places ∈ S) (hnext : s.next? places = some (some later)) :
    IsLeast {other ∈ S | places < other} later := by
  obtain ⟨heq, -⟩ | ⟨later', heq, hleast⟩ := h places hplaces
  · simp [heq] at hnext
  · obtain rfl : later' = later := by simpa [heq] using hnext
    exact hleast

theorem next?_ne_none (h : s.Traverses S) {places : List Nat} (hplaces : places ∈ S) :
    s.next? places ≠ none := by
  obtain ⟨heq, -⟩ | ⟨later, heq, -⟩ := h places hplaces <;> simp [heq]

theorem enumerateFrom?_eq (h : s.Traverses S) (hbelow : ∀ places ∈ S, ∀ i ∈ places, i < l.length)
    {places : List Nat} (hplaces : places ∈ S) (texts : Array (List α)) :
    ∃ (visited : List (List Nat)) (found : List (List α)),
      s.enumerateFrom? l places texts = some (texts ++ found) ∧
      Visits {other ∈ S | places ≤ other} l visited found := by
  -- Along the run: a list is met from `places` on exactly if it is not below `places`.
  fun_induction Succession.enumerateFrom? s l places texts with
  | case1 places texts hpick =>
    obtain ⟨text, htext⟩ := exists_pick? (hbelow places hplaces)
    simp [htext] at hpick
  | case2 places texts text hpick hnext => exact absurd hnext (h.next?_ne_none hplaces)
  | case3 places texts text hpick hnext =>
    refine ⟨[places], [text], by simp, ?_, List.pairwise_singleton _ _, ?_⟩
    · exact .cons (pick?_eq_some_iff.mp hpick) .nil
    · intro other
      rw [List.mem_singleton]
      constructor
      · rintro rfl
        exact ⟨hplaces, le_rfl⟩
      · rintro ⟨hother, hle⟩
        exact le_antisymm (h.le_of_next?_eq_none hplaces hnext other hother) hle
  | case4 places texts text hpick later hnext ih =>
    obtain ⟨⟨hlater, hlt⟩, hleast⟩ := h.isLeast_of_next?_eq_some hplaces hnext
    obtain ⟨visited, found, heq, hvisits⟩ := ih hlater
    refine ⟨places :: visited, text :: found, by simp [heq], ?_, ?_, ?_⟩
    · exact .cons (pick?_eq_some_iff.mp hpick) hvisits.spells
    · refine List.pairwise_cons.mpr ⟨?_, hvisits.sorted⟩
      intro other hother
      exact hlt.trans_le ((hvisits.mem_iff other).mp hother).2
    · intro other
      rw [List.mem_cons, hvisits.mem_iff]
      constructor
      · rintro (rfl | ⟨hother, hle⟩)
        · exact ⟨hplaces, le_rfl⟩
        · exact ⟨hother, hlt.le.trans hle⟩
      · rintro ⟨hother, hle⟩
        obtain rfl | hlt' := hle.eq_or_lt
        · exact .inl rfl
        · exact .inr ⟨hother, hleast ⟨hother, hlt'⟩⟩

theorem enumerate?_eq (h : s.Traverses S) (hbelow : ∀ places ∈ S, ∀ i ∈ places, i < l.length)
    {start : List Nat} (hstart : IsLeast S start) :
    ∃ visited found, s.enumerate? l start = some found ∧ Visits S l visited found := by
  obtain ⟨visited, found, heq, hvisits⟩ := h.enumerateFrom?_eq hbelow hstart.1 #[]
  refine ⟨visited, found, ?_, hvisits.spells, hvisits.sorted, ?_⟩
  · rw [Succession.enumerate?, heq]
    simp
  · intro places
    rw [hvisits.mem_iff]
    exact and_iff_left_of_imp fun hplaces => hstart.2 hplaces

end Succession.Traverses

theorem append_lt_cases {before behind other : List Nat} (h : before ++ behind < other) :
    (∀ behind', before ++ behind' < other) ∨ ∃ rest, other = before ++ rest ∧ behind < rest := by
  induction before generalizing other with
  | nil => exact .inr ⟨other, rfl, h⟩
  | cons x before ih =>
    cases h with
    | rel hlt => exact .inl fun behind' => .rel hlt
    | cons hlt =>
      obtain habove | ⟨rest, rfl, hrest⟩ := ih hlt
      · exact .inl fun behind' => .cons (habove behind')
      · exact .inr ⟨rest, rfl, hrest⟩

theorem append_le_append_left (before : List Nat) {behind behind' : List Nat}
    (h : behind ≤ behind') : before ++ behind ≤ before ++ behind' := by
  induction before with
  | nil => exact h
  | cons x before ih => exact List.cons_le_cons x ih

end Gridwalk.Text
