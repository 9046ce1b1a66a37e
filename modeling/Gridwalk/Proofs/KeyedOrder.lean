import Gridwalk.Machine.Ordinal
import Gridwalk.Proofs.Enumeration
import Mathlib.Data.List.Range

/-! # Sorting by a key

The sort is stable, so that it puts the places in the order of their key characters, and equal ones
in their own order. Places behind the end of the key come last and are in order already, so they stay.
-/

namespace Gridwalk.Text
set_option autoImplicit false

theorem ranksBefore_trans (r s t : Option Char) :
    ranksBefore r s = true → ranksBefore s t = true → ranksBefore r t = true := by
  cases r <;> cases s <;> cases t <;> simp [ranksBefore]
  exact Char.le_trans

theorem ranksBefore_total (r s : Option Char) : (ranksBefore r s || ranksBefore s r) = true := by
  cases r <;> cases s <;> simp [ranksBefore]
  exact Char.le_total _ _

def Precedes (key : List Char) (i j : Nat) : Prop :=
  ranksBefore key[i]? key[j]? = true ∧ (ranksBefore key[j]? key[i]? = true → i < j)

namespace Precedes

variable {key : List Char} {i j : Nat}

theorem asymm (h : Precedes key i j) (h' : Precedes key j i) : False :=
  Nat.lt_asymm (h.2 h'.1) (h'.2 h.1)

theorem of_unkeyed (hi : key.length ≤ i) (hij : i < j) : Precedes key i j := by
  rw [Precedes, List.getElem?_eq_none hi, List.getElem?_eq_none (by omega)]
  exact ⟨rfl, fun _ => hij⟩

theorem of_keyed_of_unkeyed (hi : i < key.length) (hj : key.length ≤ j) : Precedes key i j := by
  rw [Precedes, List.getElem?_eq_getElem hi, List.getElem?_eq_none hj]
  exact ⟨rfl, fun h => by cases h⟩

theorem of_keyed (h : Precedes key i j) (hi : i < key.length) (hj : j < key.length) :
    ∃ c d, key[i]? = some c ∧ key[j]? = some d ∧ (c < d ∨ c = d ∧ i < j) := by
  have hc := List.getElem?_eq_getElem hi
  have hd := List.getElem?_eq_getElem hj
  refine ⟨key[i], key[j], hc, hd, ?_⟩
  simp only [Precedes, hc, hd, ranksBefore, decide_eq_true_eq] at h
  by_cases hle : key[j] ≤ key[i]
  · exact .inr ⟨Char.le_antisymm h.1 hle, h.2 hle⟩
  · exact .inl (Char.not_le.mp hle)

end Precedes

variable {α : Type}

theorem rank_of_mem {items : List α} {key : List Char} {entry : (Option Char × α) × Nat}
    (h : entry ∈ (ranked items key).zipIdx) :
    entry.1.1 = key[entry.2]? ∧ items[entry.2]? = some entry.1.2 := by
  have hget := List.mem_zipIdx_iff_getElem?.mp h
  simp only [ranked, List.getElem?_map, List.getElem?_zipIdx, Option.map_map,
    Option.map_eq_some_iff] at hget
  obtain ⟨item, hitem, heq⟩ := hget
  simp [← heq, hitem]

theorem lt_of_zipIdxLE {β : Type} {le : β → β → Bool} {p q : β × Nat}
    (h : List.zipIdxLE le p q = true) (hne : p.2 ≠ q.2) :
    le p.1 q.1 = true ∧ (le q.1 p.1 = true → p.2 < q.2) := by
  rw [List.zipIdxLE] at h
  split at h
  · rename_i hle
    refine ⟨hle, fun hge => ?_⟩
    rw [if_pos hge, decide_eq_true_eq] at h
    omega
  · cases h

theorem exists_order (items : List α) (key : List Char) :
    ∃ order : List Nat, order.Perm (List.range items.length) ∧ order.Pairwise (Precedes key) ∧
      Spells items order (permuteBy items key) := by
  let le := fun p q : Option Char × α => ranksBefore p.1 q.1
  let sorted := (ranked items key).zipIdx.mergeSort (List.zipIdxLE le)
  have hperm : sorted.Perm (ranked items key).zipIdx := List.mergeSort_perm _ _
  have hplaces : (sorted.map Prod.snd).Perm (List.range items.length) := by
    have hrange : (ranked items key).zipIdx.map Prod.snd = List.range items.length := by
      simp [ranked, List.range_eq_range']
    exact hrange ▸ hperm.map Prod.snd
  refine ⟨sorted.map Prod.snd, hplaces, ?_, ?_⟩
  · have hsorted : sorted.Pairwise fun p q => List.zipIdxLE le p q = true :=
      List.pairwise_mergeSort
        (List.zipIdxLE_trans fun p q r => ranksBefore_trans p.1 q.1 r.1)
        (List.zipIdxLE_total fun p q => ranksBefore_total p.1 q.1) _
    have hdistinct : sorted.Pairwise fun p q => p.2 ≠ q.2 :=
      List.pairwise_map.mp (hplaces.nodup_iff.mpr List.nodup_range)
    rw [List.pairwise_map]
    refine (hsorted.and hdistinct).imp_of_mem ?_
    rintro p q hp hq ⟨hle, hne⟩
    rw [Precedes, ← (rank_of_mem (hperm.mem_iff.mp hp)).1, ← (rank_of_mem (hperm.mem_iff.mp hq)).1]
    exact lt_of_zipIdxLE hle hne
  · have hresult : permuteBy items key = sorted.map fun entry => entry.1.2 := by
      rw [permuteBy, ← List.mergeSort_zipIdx, List.map_map]
      rfl
    rw [Spells, hresult, List.map_map, List.map_map]
    exact List.map_congr_left fun entry hentry => (rank_of_mem (hperm.mem_iff.mp hentry)).2

theorem range_eq_append {n k : Nat} (h : k ≤ n) :
    List.range n = List.range k ++ List.range' k (n - k) := by
  calc
    List.range n = List.range' 0 (k + (n - k)) := by
      rw [List.range_eq_range', Nat.add_sub_cancel' h]
    _ = List.range' 0 k ++ List.range' (0 + k) (n - k) := List.range'_append_1.symm
    _ = List.range k ++ List.range' k (n - k) := by rw [Nat.zero_add, List.range_eq_range']

theorem exists_append_range' {key : List Char} {n k : Nat} {order : List Nat}
    (hk : k = min n key.length) (hperm : order.Perm (List.range n))
    (hsorted : order.Pairwise (Precedes key)) :
    ∃ keyed, order = keyed ++ List.range' k (n - k) ∧ keyed.Perm (List.range k) := by
  have hkn : k ≤ n := by omega
  have hunkeyed : ∀ i ∈ List.range' k (n - k), key.length ≤ i := by
    intro i hi
    obtain ⟨hki, hin⟩ := List.mem_range'_1.mp hi
    omega
  have hkeyed : (order.filter (· < k)).Perm (List.range k) := by
    have hfilter : (List.range n).filter (· < k) = List.range k := by
      rw [range_eq_append hkn, List.filter_append, List.filter_eq_self.mpr (by simp),
        List.filter_eq_nil_iff.mpr (by simp; omega), List.append_nil]
    exact hfilter ▸ hperm.filter _
  refine ⟨order.filter (· < k), ?_, hkeyed⟩
  rw [range_eq_append hkn] at hperm
  refine (hperm.trans (hkeyed.symm.append_right _)).eq_of_pairwise
    (fun i j _ _ h h' => (h.asymm h').elim) hsorted ?_
  refine List.pairwise_append.mpr ⟨hsorted.filter _, ?_, ?_⟩
  · refine (List.pairwise_lt_range' 1).imp_of_mem ?_
    intro i j hi _ hij
    exact .of_unkeyed (hunkeyed i hi) hij
  · intro i hi j hj
    have hik : i < k := by simpa using (List.mem_filter.mp hi).2
    exact .of_keyed_of_unkeyed (by omega) (hunkeyed j hj)

theorem map_getElem?_range' (items : List α) (k : Nat) :
    (List.range' k (items.length - k)).map (items[·]?) = (items.drop k).map some := by
  apply List.ext_getElem
  · simp
  · intro i hi _
    have hlt : k + i < items.length := by
      rw [List.length_map, List.length_range'] at hi
      omega
    simp [hlt]

theorem exists_keyed_order (items : List α) (key : List Char) {k : Nat}
    (hk : k = min items.length key.length) :
    ∃ order : List Nat, order.Perm (List.range k) ∧
      (order.Pairwise fun i j =>
        ∃ c d, key[i]? = some c ∧ key[j]? = some d ∧ (c < d ∨ c = d ∧ i < j)) ∧
      Spells items order ((permuteBy items key).take k) ∧
      (permuteBy items key).drop k = items.drop k := by
  obtain ⟨order, hperm, hsorted, hspells⟩ := exists_order items key
  obtain ⟨keyed, rfl, hkeyed⟩ := exists_append_range' hk hperm hsorted
  have hlength : keyed.length = k := by rw [hkeyed.length_eq, List.length_range]
  rw [Spells, List.map_append, map_getElem?_range'] at hspells
  refine ⟨keyed, hkeyed, ?_, ?_, ?_⟩
  · refine (List.pairwise_append.mp hsorted).1.imp_of_mem ?_
    intro i j hi hj h
    have hi := List.mem_range.mp (hkeyed.mem_iff.mp hi)
    have hj := List.mem_range.mp (hkeyed.mem_iff.mp hj)
    exact h.of_keyed (by omega) (by omega)
  · rw [Spells, List.map_take, ← hspells, List.take_left' (by rw [List.length_map, hlength])]
  · apply List.map_injective_iff.mpr (Option.some_injective α)
    rw [List.map_drop, ← hspells, List.drop_left' (by rw [List.length_map, hlength])]

theorem perm_permuteBy (items : List α) (key : List Char) : (permuteBy items key).Perm items := by
  have hitems : (ranked items key).map Prod.snd = items := by simp [ranked, Function.comp_def]
  exact (((ranked items key).mergeSort_perm _).map Prod.snd).trans (.of_eq hitems)

theorem getElem?_permuteBy_of_le (items : List α) {key : List Char} {i : Nat}
    (hi : key.length ≤ i) : (permuteBy items key)[i]? = items[i]? := by
  obtain ⟨-, -, -, -, hdrop⟩ := exists_keyed_order items key rfl
  have hk : min items.length key.length ≤ i := (Nat.min_le_right _ _).trans hi
  have hget := congrArg (·[i - min items.length key.length]?) hdrop
  simpa [hk] using hget

theorem exists_head_permuteBy {items : List α} {key : List Char} (hitems : items ≠ [])
    (hkey : key ≠ []) :
    ∃ i c item, key[i]? = some c ∧ items[i]? = some item ∧
      (permuteBy items key).head? = some item ∧
      ∀ j d, j < items.length → key[j]? = some d → c < d ∨ c = d ∧ i ≤ j := by
  obtain ⟨order, hperm, hsorted, hspells, -⟩ := exists_keyed_order items key rfl
  have hpos : 0 < min items.length key.length := by
    rw [Nat.lt_min]
    exact ⟨List.length_pos_iff.mpr hitems, List.length_pos_iff.mpr hkey⟩
  cases order with
  | nil =>
    have hlength := hperm.length_eq
    rw [List.length_range, List.length_nil] at hlength
    omega
  | cons i order =>
    have hi : i < key.length := by
      have hmem := List.mem_range.mp (hperm.mem_iff.mp List.mem_cons_self)
      omega
    obtain ⟨item, hitem, hhead⟩ :
        ∃ item, items[i]? = some item ∧ (permuteBy items key).head? = some item := by
      have hfirst := congrArg List.head? hspells
      rw [List.map_cons, List.head?_cons, List.head?_map, List.head?_take, if_neg (by omega)]
        at hfirst
      obtain ⟨item, hhead, heq⟩ := Option.map_eq_some_iff.mp hfirst.symm
      exact ⟨item, heq.symm, hhead⟩
    refine ⟨i, key[i], item, List.getElem?_eq_getElem hi, hitem, hhead, ?_⟩
    intro j d hj hd
    have hjk : j < key.length := (List.getElem?_eq_some_iff.mp hd).1
    have hmem : j ∈ i :: order :=
      hperm.mem_iff.mpr (List.mem_range.mpr (Nat.lt_min.mpr ⟨hj, hjk⟩))
    obtain rfl | hmem := List.mem_cons.mp hmem
    · rw [List.getElem?_eq_getElem hi] at hd
      exact .inr ⟨Option.some.inj hd, le_rfl⟩
    · obtain ⟨c, d', hc, hd', hless⟩ := (List.pairwise_cons.mp hsorted).1 j hmem
      rw [List.getElem?_eq_getElem hi] at hc
      rw [hd] at hd'
      cases hc
      cases hd'
      exact hless.imp_right (And.imp_right le_of_lt)

end Gridwalk.Text

namespace Gridwalk

theorem perform_permuteStack {m : Machine} {key : List Char} {rest : Stack}
    (h : m.stack.popText = (key, rest)) :
    Ordinal.permuteStack.perform m = .ok () { m with stack := Text.permuteBy rest key } := by
  have hpop : Act.popText m = .ok key { m with stack := rest } := by
    change EStateM.Result.ok m.stack.popText.1 { m with stack := m.stack.popText.2 } = _
    rw [h]
  rw [Ordinal.perform, Act.bind_of_ok hpop]
  rfl

/-- The items with a key character come first, in the order of their characters and equal ones in
their own order, and the others stay where they are. So the command on the stack leaves every value
that is as deep as its key is long, and brings the one with the least character to the top. -/
theorem permuting_is_stable_sort {α : Type} (items : List α) (key : List Char) {m : Machine}
    {k : List Char} {rest : Stack} (h : m.stack.popText = (k, rest)) :
    (Text.permuteBy items key).Perm items ∧
    (∃ order : List Nat, order.Perm (List.range (min items.length key.length)) ∧
      (order.Pairwise fun i j =>
        ∃ c d, key[i]? = some c ∧ key[j]? = some d ∧ (c < d ∨ c = d ∧ i < j)) ∧
      Text.Spells items order
        ((Text.permuteBy items key).take (min items.length key.length)) ∧
      (Text.permuteBy items key).drop (min items.length key.length) =
        items.drop (min items.length key.length)) ∧
    Command.ofGlyph? ',' .ordinal = some (.ordinal .permuteStack) ∧
    ∃ stack : Stack, Ordinal.permuteStack.perform m = .ok () { m with stack } ∧
      (∀ depth, k.length ≤ depth → stack[depth]? = rest[depth]?) ∧
      (k ≠ [] → rest ≠ [] → ∃ depth c v,
        k[depth]? = some c ∧ rest[depth]? = some v ∧ stack.head? = some v ∧
        ∀ other d, other < rest.length → k[other]? = some d → c < d ∨ c = d ∧ depth ≤ other) := by
  refine ⟨Text.perm_permuteBy items key, Text.exists_keyed_order items key rfl, by decide,
    Text.permuteBy rest k, perform_permuteStack h, ?_, ?_⟩
  · intro depth hdepth
    exact Text.getElem?_permuteBy_of_le rest hdepth
  · intro hk hrest
    exact Text.exists_head_permuteBy hrest hk

/-- The second character of the key is the least, and the same stands third. The items without a key
character stay behind. -/
theorem permuting_is_stable_sort_tie :
    let m : Machine :=
      { Machine.load (.tabulate (.span ⟨0, 0⟩ ⟨0, 0⟩) fun _ => Text.code ',') []
          (.ofBytes []) .empty .first "" with
        stack := [.text "baa", .text "z", .text "y", .integer 7, .text "w"] }
    let rest : Stack := [.text "z", .text "y", .integer 7, .text "w"]
    m.stack.popText = (['b', 'a', 'a'], rest) ∧
    (Text.permuteBy [40, 30, 20, 10, 0] ['b', 'a', 'b']).Perm [40, 30, 20, 10, 0] ∧
    (∃ order : List Nat, order.Perm [0, 1, 2] ∧
      (order.Pairwise fun i j => ∃ c d, ['b', 'a', 'b'][i]? = some c ∧ ['b', 'a', 'b'][j]? = some d ∧
        (c < d ∨ c = d ∧ i < j)) ∧
      Text.Spells [40, 30, 20, 10, 0] order
        ((Text.permuteBy [40, 30, 20, 10, 0] ['b', 'a', 'b']).take 3) ∧
      (Text.permuteBy [40, 30, 20, 10, 0] ['b', 'a', 'b']).drop 3 = [10, 0]) ∧
    ∃ stack : Stack, Ordinal.permuteStack.perform m = .ok () { m with stack } ∧
      stack[3]? = some (.text "w") ∧ stack.head? = some (.text "y") := by
  intro m rest
  have hpop : m.stack.popText = (['b', 'a', 'a'], rest) := by decide +kernel
  obtain ⟨hperm, horder, -, stack, hperform, hdeep, htop⟩ :=
    permuting_is_stable_sort [40, 30, 20, 10, 0] ['b', 'a', 'b'] hpop
  refine ⟨hpop, hperm, horder, stack, hperform, hdeep 3 (by decide), ?_⟩
  obtain ⟨depth, c, v, hc, hv, hhead, hleast⟩ := htop (by decide) (by decide)
  have hsecond := hleast 1 'a' (by decide) rfl
  obtain rfl | rfl | rfl | hdepth : depth = 0 ∨ depth = 1 ∨ depth = 2 ∨ 3 ≤ depth := by omega
  · cases hc
    exact absurd hsecond (by decide)
  · cases hv
    exact hhead
  · cases hc
    exact absurd hsecond (by decide)
  · rw [List.getElem?_eq_none hdepth] at hc
    cases hc

end Gridwalk
