/-! # Lists by place

Computations with places and differences. A place that a list does not have and a difference below
zero have no value, so that such a computation shows whether it stays in range.
-/

namespace Gridwalk.Text
set_option autoImplicit false

variable {α : Type}

def difference? (a b : Nat) : Option Nat := if b ≤ a then some (a - b) else none

def put? (l : List α) (i : Nat) (x : α) : Option (List α) :=
  if i < l.length then some (l.set i x) else none

def swap? (l : List α) (i j : Nat) : Option (List α) := do
  let x ← l[i]?
  let y ← l[j]?
  put? (← put? l i y) j x

def reverseFrom? (l : List α) (i : Nat) : Option (List α) :=
  if i ≤ l.length then some (l.take i ++ (l.drop i).reverse) else none

def stretch? (l : List α) (i j : Nat) : Option (List α) :=
  if i ≤ j ∧ j ≤ l.length then some ((l.take j).drop i) else none

def update? (row : Array α) (i : Nat) (x : α) : Option (Array α) :=
  if h : i < row.size then some (row.set i x) else none

def pick? (l : List α) (places : List Nat) : Option (List α) := places.mapM (l[·]?)

def lastFrom? (test : Nat → Option Bool) (first : Nat) : Nat → Option (Option Nat)
  | 0 => some none
  | count + 1 => do
    if ← test (first + count) then return some (first + count) else lastFrom? test first count

theorem difference?_of_le {a b : Nat} (h : b ≤ a) : difference? a b = some (a - b) := if_pos h

theorem difference?_succ_one (k : Nat) : difference? (k + 1) 1 = some k :=
  difference?_of_le (Nat.le_add_left 1 k)

theorem stretch?_of_le {l : List α} {i j : Nat} (hij : i ≤ j) (hj : j ≤ l.length) :
    stretch? l i j = some ((l.take j).drop i) := if_pos ⟨hij, hj⟩

theorem update?_of_lt {row : Array α} {i : Nat} (x : α) (h : i < row.size) :
    update? row i x = some (row.set i x) := dif_pos h

theorem getElem?_append_cons (before behind : List α) (x : α) :
    (before ++ x :: behind)[before.length]? = some x := by
  simp

theorem put?_append_cons (before behind : List α) (x y : α) :
    put? (before ++ x :: behind) before.length y = some (before ++ y :: behind) := by
  simp [put?]

theorem swap?_append_cons (before between behind : List α) (x y : α) :
    swap? (before ++ x :: (between ++ y :: behind)) before.length
      (before.length + 1 + between.length) = some (before ++ y :: (between ++ x :: behind)) := by
  have hplace : ∀ z : α, before.length + 1 + between.length = (before ++ z :: between).length := by
    intro z
    simp only [List.length_append, List.length_cons]
    omega
  have hright : ∀ z : α,
      before ++ z :: (between ++ y :: behind) = (before ++ z :: between) ++ y :: behind := by
    simp
  have hy : (before ++ x :: (between ++ y :: behind))[before.length + 1 + between.length]? =
      some y := by
    rw [hright, hplace x, getElem?_append_cons]
  have hput :
      put? (before ++ y :: (between ++ y :: behind)) (before.length + 1 + between.length) x =
        some (before ++ y :: (between ++ x :: behind)) := by
    rw [hright, hplace y, put?_append_cons]
    simp
  simp only [swap?, getElem?_append_cons, hy, put?_append_cons, hput, Option.bind_eq_bind,
    Option.bind_some]

theorem reverseFrom?_append (before behind : List α) :
    reverseFrom? (before ++ behind) before.length = some (before ++ behind.reverse) := by
  simp [reverseFrom?]

theorem mapM_eq_some_iff {β : Type} {f : α → Option β} {l : List α} {r : List β} :
    l.mapM f = some r ↔ l.map f = r.map some := by
  induction l generalizing r with
  | nil => cases r <;> simp
  | cons x l ih =>
    cases r with
    | nil => simp [List.mapM_cons, Option.bind_eq_some_iff]
    | cons y r => simp [List.mapM_cons, Option.bind_eq_some_iff, ih]

theorem lt_length_of_pick? {l text : List α} {places : List Nat} (h : pick? l places = some text)
    {i : Nat} (hi : i ∈ places) : i < l.length := by
  have hmem : l[i]? ∈ text.map some := by
    rw [← mapM_eq_some_iff.mp h]
    exact List.mem_map_of_mem hi
  obtain ⟨c, -, hc⟩ := List.mem_map.mp hmem
  exact (List.getElem?_eq_some_iff.mp hc.symm).1

theorem exists_eq_append_cons {l : List α} {i : Nat} (h : i < l.length) :
    ∃ before x behind, l = before ++ x :: behind ∧ before.length = i := by
  refine ⟨l.take i, l[i], l.drop (i + 1), ?_, ?_⟩
  · simp
  · exact List.length_take_of_le (Nat.le_of_lt h)

theorem lastFrom?_cases {test : Nat → Option Bool} {p : Nat → Prop} [DecidablePred p]
    {first count : Nat} (h : ∀ i, first ≤ i → i < first + count → test i = some (decide (p i))) :
    (lastFrom? test first count = some none ∧ ∀ i, first ≤ i → i < first + count → ¬ p i) ∨
    ∃ i, lastFrom? test first count = some (some i) ∧ first ≤ i ∧ i < first + count ∧ p i ∧
      ∀ j, i < j → j < first + count → ¬ p j := by
  induction count with
  | zero => exact .inl ⟨rfl, fun i hi hlt => by omega⟩
  | succ count ih =>
    have htest := h (first + count) (by omega) (by omega)
    by_cases hp : p (first + count)
    · refine .inr ⟨first + count, ?_, by omega, by omega, hp, fun j hj hlt => by omega⟩
      simp [lastFrom?, htest, hp]
    · have hrest : lastFrom? test first (count + 1) = lastFrom? test first count := by
        simp [lastFrom?, htest, hp]
      have hlast : ∀ j, j < first + (count + 1) → j ≠ first + count → j < first + count := by omega
      rw [hrest]
      obtain ⟨heq, hnone⟩ | ⟨i, heq, hi, hlt, hpi, hbehind⟩ :=
        ih fun i hi hlt => h i hi (by omega)
      · refine .inl ⟨heq, fun i hi hlt hpi => ?_⟩
        exact hnone i hi (hlast i hlt fun he => hp (he ▸ hpi)) hpi
      · refine .inr ⟨i, heq, hi, by omega, hpi, fun j hj hlt' hpj => ?_⟩
        exact hbehind j hj (hlast j hlt' fun he => hp (he ▸ hpj)) hpj

/-- A loop from 1 to `count` has a value if each turn has one that keeps the invariant. -/
theorem exists_foldlM_range' {σ : Type} {step : σ → Nat → Option σ} (inv : Nat → σ → Prop)
    {count : Nat} {s : σ} (hs : inv 0 s)
    (hstep : ∀ k s, k < count → inv k s → ∃ s', step s (k + 1) = some s' ∧ inv (k + 1) s') :
    ∃ s', (List.range' 1 count).foldlM step s = some s' ∧ inv count s' := by
  induction count with
  | zero => exact ⟨s, rfl, hs⟩
  | succ count ih =>
    obtain ⟨t, ht, hinv⟩ := ih fun k s hk => hstep k s (Nat.lt_succ_of_lt hk)
    obtain ⟨s', hs', hinv'⟩ := hstep count t (Nat.lt_succ_self count) hinv
    refine ⟨s', ?_, hinv'⟩
    simp [List.range'_1_concat, ht, Nat.add_comm 1 count, hs']

end Gridwalk.Text
