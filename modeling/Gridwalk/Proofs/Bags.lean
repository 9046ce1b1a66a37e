import Gridwalk.Text.Bag
import Gridwalk.Proofs.Selections

/-! # The algebra of bags

A scan finds a character in the bag as long as fewer of it stand before its place than the bag had
at the start. So the places found are the first ones of each character, and how many of a character
are kept follows from how many the text and the bag have.
-/

namespace Gridwalk.Text
set_option autoImplicit false

namespace Bag

def number (c : Char) (bag : Bag) : Nat := (bag.lookup c).getD 0

@[simp] theorem number_nil (c : Char) : number c [] = 0 := rfl

theorem number_cons (c d : Char) (n : Nat) (bag : Bag) :
    number c ((d, n) :: bag) = if d = c then n else number c bag := by
  by_cases h : d = c
  · simp [number, h]
  · have hne : (c == d) = false := beq_eq_false_iff_ne.mpr (Ne.symm h)
    simp [number, List.lookup_cons, h, hne]

theorem number_add (c d : Char) (bag : Bag) :
    number d (add c bag) = number d bag + if c = d then 1 else 0 := by
  induction bag with
  | nil => simp [add, number_cons]
  | cons entry bag ih => grind [add, number_cons]

theorem number_foldl_add (c : Char) (s : List Char) (bag : Bag) :
    number c (s.foldl (fun bag d => add d bag) bag) = number c bag + s.count c := by
  induction s generalizing bag with
  | nil => rfl
  | cons d s ih =>
    rw [List.foldl_cons, ih, number_add, List.count_cons]
    simp [Nat.add_assoc, Nat.add_comm]

@[simp] theorem number_ofText (c : Char) (s : List Char) : number c (ofText s) = s.count c := by
  simp [ofText, number_foldl_add]

theorem found_remove (c : Char) (bag : Bag) : (remove c bag).1 = decide (0 < number c bag) := by
  induction bag with
  | nil => rfl
  | cons entry bag ih => grind [remove, number_cons]

theorem number_remove (c d : Char) (bag : Bag) :
    number d (remove c bag).2 = number d bag - if c = d then 1 else 0 := by
  induction bag with
  | nil => simp [remove]
  | cons entry bag ih => grind [remove, number_cons]

end Bag

open Bag

theorem sift_cons (kept : Bool) (bag : Bag) (c : Char) (cs : List Char) :
    sift kept bag (c :: cs) =
      if decide (0 < number c bag) = kept then c :: sift kept (remove c bag).2 cs
      else sift kept (remove c bag).2 cs := by
  rw [← found_remove]
  rfl

theorem count_sift (kept : Bool) (bag : Bag) (a : List Char) (c : Char) :
    (sift kept bag a).count c =
      if kept then min (a.count c) (number c bag) else a.count c - number c bag := by
  induction a generalizing bag with
  | nil => simp [sift]
  | cons d cs ih =>
    have hrest := ih (remove d bag).2
    rw [number_remove] at hrest
    rw [sift_cons]
    grind

/-- Whether fewer of the character at place `i` stand before it than the bag has. -/
def finds (bag : Bag) (a : List Char) (i : Nat) : Bool :=
  a[i]?.any fun c => (a.take i).count c < number c bag

def keptPlaces (kept : Bool) (bag : Bag) (a : List Char) : List Nat :=
  (List.range a.length).filter fun i => finds bag a i == kept

theorem finds_zero (bag : Bag) (c : Char) (cs : List Char) :
    finds bag (c :: cs) 0 = decide (0 < number c bag) := by
  rw [finds, List.getElem?_cons_zero, Option.any_some, List.take_zero, List.count_nil]

theorem finds_succ (bag : Bag) (c : Char) (cs : List Char) (i : Nat) :
    finds bag (c :: cs) (i + 1) = finds (remove c bag).2 cs i := by
  cases h : cs[i]? with
  | none => simp [finds, h]
  | some d =>
    simp only [finds, h, List.getElem?_cons_succ, List.take_succ_cons, Option.any_some,
      List.count_cons, number_remove, decide_eq_decide]
    grind

theorem keptPlaces_cons (kept : Bool) (bag : Bag) (c : Char) (cs : List Char) :
    keptPlaces kept bag (c :: cs) =
      (if decide (0 < number c bag) = kept then [0] else []) ++
        (keptPlaces kept (remove c bag).2 cs).map (· + 1) := by
  rw [keptPlaces, List.length_cons, List.range_succ_eq_map, List.filter_cons, finds_zero,
    List.filter_map]
  simp only [Function.comp_def, Nat.succ_eq_add_one, finds_succ, beq_iff_eq]
  split <;> rfl

theorem spells_sift (kept : Bool) (bag : Bag) (a : List Char) :
    Spells a (keptPlaces kept bag a) (sift kept bag a) := by
  induction a generalizing bag with
  | nil => rfl
  | cons c cs ih =>
    have hrest := ih (remove c bag).2
    rw [Spells] at hrest ⊢
    rw [keptPlaces_cons, sift_cons]
    split <;> simp [← hrest]

theorem ascends_keptPlaces (kept : Bool) (bag : Bag) (a : List Char) :
    Ascends a.length (keptPlaces kept bag a) :=
  Ascends.iff_sublist_range.mpr List.filter_sublist

theorem mem_keptPlaces_iff {kept : Bool} {bag : Bag} {a : List Char} {i : Nat} :
    i ∈ keptPlaces kept bag a ↔ i < a.length ∧ finds bag a i = kept := by
  simp [keptPlaces]

theorem finds_of_le {bag : Bag} {a : List Char} {i j : Nat} (hij : i ≤ j) (heq : a[i]? = a[j]?)
    (hj : finds bag a j = true) : finds bag a i = true := by
  rw [finds, heq]
  cases h : a[j]? with
  | none => simp [finds, h] at hj
  | some c =>
    have hcount : (a.take i).count c ≤ (a.take j).count c :=
      (List.take_sublist_take_left hij).count_le c
    simp only [finds, h, Option.any_some, decide_eq_true_eq] at hj ⊢
    omega

/-- The number of each character in a result is what the algebra of bags says. The intersection and
the difference are read off two complementary sets of places of the first text, and the intersection
has the earliest occurrences of each character. -/
theorem bag_commands_count_and_keep_order (a b : List Char) :
    (∀ c, (intersection a b).count c = min (a.count c) (b.count c) ∧
      (difference a b).count c = a.count c - b.count c ∧
      (union a b).count c = max (a.count c) (b.count c) ∧
      ((symmetricDifference a b).count c : Int) = |(a.count c : Int) - b.count c|) ∧
    ∃ found missed : List Nat,
      Ascends a.length found ∧ Spells a found (intersection a b) ∧
      Ascends a.length missed ∧ Spells a missed (difference a b) ∧
      (∀ i, i < a.length → (i ∈ missed ↔ i ∉ found)) ∧
      ∀ i j, i < j → a[i]? = a[j]? → j ∈ found → i ∈ found := by
  constructor
  · intro c
    have hdifference : ∀ a b : List Char, (difference a b).count c = a.count c - b.count c := by
      simp [difference, count_sift]
    refine ⟨by simp [intersection, count_sift], hdifference a b, ?_, ?_⟩
    · rw [union, List.count_append, hdifference]
      omega
    · rw [symmetricDifference, List.count_append, hdifference, hdifference]
      grind
  · refine ⟨keptPlaces true (ofText b) a, keptPlaces false (ofText b) a,
      ascends_keptPlaces _ _ _, spells_sift _ _ _, ascends_keptPlaces _ _ _, spells_sift _ _ _,
      ?_, ?_⟩
    · intro i hi
      simp [mem_keptPlaces_iff, hi]
    · intro i j hij heq hj
      obtain ⟨hlt, hfound⟩ := mem_keptPlaces_iff.mp hj
      exact mem_keptPlaces_iff.mpr ⟨hij.trans hlt, finds_of_le hij.le heq hfound⟩

theorem bag_commands_count_and_keep_order_first_of_two :
    intersection ['a', 'b', 'a'] ['a'] = ['a'] ∧ difference ['a', 'b', 'a'] ['a'] = ['b', 'a'] ∧
    ∃ found missed : List Nat,
      Spells ['a', 'b', 'a'] found ['a'] ∧ Spells ['a', 'b', 'a'] missed ['b', 'a'] ∧
      0 ∈ found ∧ 2 ∈ missed := by
  have hintersection : intersection ['a', 'b', 'a'] ['a'] = ['a'] := by decide
  have hdifference : difference ['a', 'b', 'a'] ['a'] = ['b', 'a'] := by decide
  obtain ⟨-, found, missed, -, hfound, -, hmissed, hcomplement, hearliest⟩ :=
    bag_commands_count_and_keep_order ['a', 'b', 'a'] ['a']
  rw [hintersection] at hfound
  rw [hdifference] at hmissed
  refine ⟨hintersection, hdifference, found, missed, hfound, hmissed, ?_⟩
  obtain ⟨i, hi, hplace⟩ : ∃ i, found = [i] ∧ ['a', 'b', 'a'][i]? = some 'a' := by
    simpa [Spells, List.map_eq_singleton_iff] using hfound
  have hzero : 0 ∈ found := by
    obtain rfl | rfl | rfl | hlarge : i = 0 ∨ i = 1 ∨ i = 2 ∨ 3 ≤ i := by omega
    · simp [hi]
    · cases hplace
    · exact hearliest 0 2 (by decide) (by decide) (by simp [hi])
    · rw [List.getElem?_eq_none hlarge] at hplace
      cases hplace
  refine ⟨hzero, (hcomplement 2 (by decide)).mpr fun htwo => ?_⟩
  rw [hi, List.mem_singleton] at hzero htwo
  omega

end Gridwalk.Text
