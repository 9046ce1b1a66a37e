import Gridwalk.Text.Place

/-! # Places in lexicographic order

The rearrangements and the selections of a text are enumerated by the places of their characters.
One step goes from a list of places to the next one in lexicographic order, and the enumeration ends
where there is none. A step that looks out of range has no value at all; the step from the last list
has the value `none`.
-/

namespace Gridwalk.Text
set_option autoImplicit false

variable {α : Type}

def rises? (order : List Nat) (i : Nat) : Option Bool := do
  let previous ← order[← difference? i 1]?
  let here ← order[i]?
  return decide (previous < here)

def exceeds? (order : List Nat) (pivot i : Nat) : Option Bool := do
  let here ← order[i]?
  let least ← order[pivot]?
  return decide (least < here)

/-- The next rearrangement of the same numbers: the last number that is below its successor changes
places with the last number above it, and what follows is reversed. -/
def nextOrder? (order : List Nat) : Option (Option (List Nat)) := do
  match ← lastFrom? (rises? order) 1 (order.length - 1) with
  | none => return none
  | some rise =>
    let pivot ← difference? rise 1
    match ← lastFrom? (exceeds? order pivot) (pivot + 1) (order.length - (pivot + 1)) with
    | none => return none
    | some other =>
      let swapped ← swap? order pivot other
      return some (← reverseFrom? swapped (pivot + 1))

/-- Whether the place at index `i` can move on and leave room below `n` for those behind it. -/
def movable? (n : Nat) (choice : List Nat) (i : Nat) : Option Bool := do
  let place ← choice[i]?
  let room ← difference? n choice.length
  return decide (place < room + i)

def follow? (choice : List Nat) (i : Nat) : Nat → Option (List Nat)
  | 0 => some choice
  | count + 1 => do
    let previous ← choice[← difference? i 1]?
    follow? (← put? choice i (previous + 1)) (i + 1) count

/-- The next ascending choice of as many places below `n`: the last place that can move on does so,
and those behind it follow directly. -/
def nextChoice? (n : Nat) (choice : List Nat) : Option (Option (List Nat)) := do
  match ← lastFrom? (movable? n choice) 0 choice.length with
  | none => return none
  | some i =>
    let place ← choice[i]?
    let moved ← put? choice i (place + 1)
    return some (← follow? moved (i + 1) (choice.length - (i + 1)))

def Falls (l : List Nat) : Prop := ∀ i, i + 1 < l.length → l.getD (i + 1) 0 ≤ l.getD i 0

def Full (n : Nat) (l : List Nat) : Prop := ∀ i, i < l.length → n - l.length + i ≤ l.getD i 0

theorem rises?_eq {order : List Nat} {i : Nat} (hi : 1 ≤ i) (h : i < order.length) :
    rises? order i = some (decide (order.getD (i - 1) 0 < order.getD i 0)) := by
  have hprevious : i - 1 < order.length := by omega
  simp [rises?, difference?_of_le hi, hprevious, h]

theorem exceeds?_eq {order : List Nat} {pivot i : Nat} (hpivot : pivot < order.length)
    (h : i < order.length) :
    exceeds? order pivot i = some (decide (order.getD pivot 0 < order.getD i 0)) := by
  simp [exceeds?, hpivot, h]

theorem movable?_eq {n i : Nat} {choice : List Nat} (hlength : choice.length ≤ n)
    (h : i < choice.length) :
    movable? n choice i = some (decide (choice.getD i 0 < n - choice.length + i)) := by
  simp [movable?, difference?_of_le hlength, h]

theorem getD_append_cons (before behind : List Nat) (x i : Nat) :
    (before ++ x :: behind).getD (before.length + 1 + i) 0 = behind.getD i 0 := by
  simp [List.getElem?_append_right, Nat.add_assoc, Nat.add_comm 1 i]

theorem lastRise_cases (order : List Nat) :
    (lastFrom? (rises? order) 1 (order.length - 1) = some none ∧ Falls order) ∨
    ∃ before x next behind, order = before ++ x :: next :: behind ∧ x < next ∧
      Falls (next :: behind) ∧
      lastFrom? (rises? order) 1 (order.length - 1) = some (some (before.length + 1)) := by
  have htest : ∀ i, 1 ≤ i → i < 1 + (order.length - 1) →
      rises? order i = some (decide (order.getD (i - 1) 0 < order.getD i 0)) :=
    fun i hi hlt => rises?_eq hi (by omega)
  obtain ⟨heq, hnone⟩ | ⟨rise, heq, hrise, hlt, hup, hbehind⟩ := lastFrom?_cases htest
  · refine .inl ⟨heq, ?_⟩
    intro i hi
    exact Nat.le_of_not_lt (hnone (i + 1) (by omega) (by omega))
  · obtain ⟨before, x, rest, rfl, hlength⟩ :=
      exists_eq_append_cons (l := order) (i := rise - 1) (by omega)
    obtain rfl : rise = before.length + 1 := by omega
    simp only [List.length_append, List.length_cons] at hlt hbehind
    cases rest with
    | nil =>
      simp only [List.length_nil] at hlt
      omega
    | cons next behind =>
      refine .inr ⟨before, x, next, behind, rfl, by simpa using hup, ?_, heq⟩
      intro i hi
      have hpair := hbehind (before.length + 1 + (i + 1)) (by omega) (by omega)
      rw [show before.length + 1 + (i + 1) - 1 = before.length + 1 + i by omega, getD_append_cons,
        getD_append_cons] at hpair
      exact Nat.le_of_not_lt hpair

theorem lastAbove_cases (before : List Nat) (x next : Nat) (behind : List Nat) (h : x < next) :
    ∃ high y low, next :: behind = high ++ y :: low ∧ x < y ∧ (∀ z ∈ low, z ≤ x) ∧
      lastFrom? (exceeds? (before ++ x :: next :: behind) before.length) (before.length + 1)
        (behind.length + 1) = some (some (before.length + 1 + high.length)) := by
  have htest : ∀ i, before.length + 1 ≤ i → i < before.length + 1 + (behind.length + 1) →
      exceeds? (before ++ x :: next :: behind) before.length i =
        some (decide (x < (next :: behind).getD (i - (before.length + 1)) 0)) := by
    intro i hi hlt
    obtain ⟨k, rfl⟩ := Nat.exists_eq_add_of_le hi
    rw [exceeds?_eq (by simp) (by simp; omega), getD_append_cons]
    simp
  obtain ⟨heq, hnone⟩ | ⟨i, heq, hi, hlt, habove, hbehind⟩ := lastFrom?_cases htest
  · exact absurd h (by simpa using hnone (before.length + 1) (by omega) (by omega))
  · obtain ⟨k, rfl⟩ := Nat.exists_eq_add_of_le hi
    obtain ⟨high, y, low, hsplit, rfl⟩ :=
      exists_eq_append_cons (l := next :: behind) (i := k) (by simp; omega)
    have hlength : behind.length + 1 = high.length + (low.length + 1) := by
      simpa using congrArg List.length hsplit
    rw [hsplit] at habove hbehind
    refine ⟨high, y, low, hsplit, by simpa using habove, ?_, heq⟩
    intro z hz
    obtain ⟨j, hj, rfl⟩ := List.mem_iff_getElem.mp hz
    have hlow := hbehind (before.length + 1 + (high.length + 1 + j)) (by omega) (by omega)
    rw [Nat.add_sub_cancel_left, getD_append_cons] at hlow
    simpa [hj] using hlow

theorem nextOrder?_cases (order : List Nat) :
    (nextOrder? order = some none ∧ Falls order) ∨
    ∃ before x high y low, order = before ++ x :: (high ++ y :: low) ∧ x < y ∧
      Falls (high ++ y :: low) ∧ (∀ z ∈ low, z ≤ x) ∧
      nextOrder? order = some (some (before ++ y :: (high ++ x :: low).reverse)) := by
  obtain ⟨heq, hfalls⟩ | ⟨before, x, next, behind, rfl, hup, hfalls, heq⟩ := lastRise_cases order
  · exact .inl ⟨by simp [nextOrder?, heq], hfalls⟩
  · obtain ⟨high, y, low, hbehind, hxy, hlow, hother⟩ := lastAbove_cases before x next behind hup
    refine .inr ⟨before, x, high, y, low, by rw [hbehind], hxy, hbehind ▸ hfalls, hlow, ?_⟩
    have hcount : (before ++ x :: next :: behind).length - (before.length + 1) =
        behind.length + 1 := by
      simp only [List.length_append, List.length_cons]
      omega
    have hreverse : reverseFrom? (before ++ y :: (high ++ x :: low)) (before.length + 1) =
        some (before ++ y :: (high ++ x :: low).reverse) := by
      simpa using reverseFrom?_append (before ++ [y]) (high ++ x :: low)
    simp only [nextOrder?, heq, difference?_succ_one, hcount, hother, Option.bind_eq_bind,
      Option.bind_some]
    rw [hbehind, swap?_append_cons, Option.bind_some, hreverse]
    rfl

theorem follow?_append (before behind : List Nat) (x : Nat) :
    follow? (before ++ x :: behind) (before.length + 1) behind.length =
      some (before ++ List.range' x (behind.length + 1)) := by
  induction behind generalizing before x with
  | nil => simp [follow?]
  | cons y behind ih =>
    have hput : put? (before ++ x :: y :: behind) (before.length + 1) (x + 1) =
        some (before ++ x :: (x + 1) :: behind) := by
      simpa using put?_append_cons (before ++ [x]) behind y (x + 1)
    have hrest : follow? (before ++ x :: (x + 1) :: behind) (before.length + 1 + 1) behind.length =
        some (before ++ x :: List.range' (x + 1) (behind.length + 1)) := by
      simpa using ih (before ++ [x]) (x + 1)
    simp only [List.length_cons, follow?, difference?_succ_one, getElem?_append_cons, hput,
      Option.bind_eq_bind, Option.bind_some, hrest]
    simp [List.range'_succ]

theorem nextChoice?_cases {n : Nat} {choice : List Nat} (h : choice.length ≤ n) :
    (nextChoice? n choice = some none ∧ Full n choice) ∨
    ∃ before x behind, choice = before ++ x :: behind ∧ x + (behind.length + 1) < n ∧
      Full n behind ∧
      nextChoice? n choice = some (some (before ++ List.range' (x + 1) (behind.length + 1))) := by
  have htest : ∀ i, 0 ≤ i → i < 0 + choice.length →
      movable? n choice i = some (decide (choice.getD i 0 < n - choice.length + i)) :=
    fun i _ hlt => movable?_eq h (by omega)
  obtain ⟨heq, hnone⟩ | ⟨i, heq, -, hlt, hmovable, hbehind⟩ := lastFrom?_cases htest
  · refine .inl ⟨by simp [nextChoice?, heq], ?_⟩
    intro i hi
    exact Nat.le_of_not_lt (hnone i (by omega) (by omega))
  · obtain ⟨before, x, behind, rfl, rfl⟩ := exists_eq_append_cons (l := choice) (i := i) (by omega)
    have hlength : (before ++ x :: behind).length = before.length + 1 + behind.length := by
      simp only [List.length_append, List.length_cons]
      omega
    have hmoved := follow?_append before behind (x + 1)
    refine .inr ⟨before, x, behind, rfl, ?_, ?_, ?_⟩
    · have hx : x < n - (before ++ x :: behind).length + before.length := by simpa using hmovable
      omega
    · intro j hj
      have hstays := hbehind (before.length + 1 + j) (by omega) (by omega)
      rw [getD_append_cons] at hstays
      omega
    · have hcount : (before ++ x :: behind).length - (before.length + 1) = behind.length := by omega
      simp only [nextChoice?, heq, getElem?_append_cons, put?_append_cons, hcount, hmoved,
        Option.bind_eq_bind, Option.bind_some]
      rfl

theorem nextChoice?_of_lt {n : Nat} {choice : List Nat} (h : n < choice.length) :
    nextChoice? n choice = none := by
  obtain ⟨count, hcount⟩ : ∃ count, choice.length = count + 1 := ⟨choice.length - 1, by omega⟩
  have hplace : choice[count]? = some choice[count] := by simp
  have hmovable : movable? n choice count = none := by
    simp [movable?, difference?, hplace, Nat.not_le_of_lt h]
  simp [nextChoice?, lastFrom?, hcount, hmovable]

structure Succession where
  next? : List Nat → Option (Option (List Nat))
  advances : ∀ {places later : List Nat}, next? places = some (some later) →
    places.length = later.length ∧ places < later

theorem append_lt_append (before behind behind' : List Nat) {x y : Nat} (h : x < y) :
    before ++ x :: behind < before ++ y :: behind' := by
  induction before with
  | nil => exact .rel h
  | cons z before ih => exact .cons ih

def orders : Succession where
  next? := nextOrder?
  advances := by
    intro order later h
    obtain ⟨hnone, -⟩ | ⟨before, x, high, y, low, rfl, hxy, -, -, hsome⟩ := nextOrder?_cases order
    · simp [hnone] at h
    · obtain rfl : before ++ y :: (high ++ x :: low).reverse = later := by simpa [hsome] using h
      exact ⟨by simp; omega, append_lt_append _ _ _ hxy⟩

def choices (n : Nat) : Succession where
  next? := nextChoice? n
  advances := by
    intro choice later h
    obtain hlt | hle := Nat.lt_or_ge n choice.length
    · simp [nextChoice?_of_lt hlt] at h
    obtain ⟨hnone, -⟩ | ⟨before, x, behind, rfl, -, -, hsome⟩ := nextChoice?_cases hle
    · simp [hnone] at h
    · obtain rfl : before ++ List.range' (x + 1) (behind.length + 1) = later := by
        simpa [hsome] using h
      rw [List.range'_succ]
      exact ⟨by simp, append_lt_append _ _ _ (Nat.lt_add_one x)⟩

/-- A number that falls when places below `n` move on: their distances from `n`, read as digits
behind `t`. -/
def togo (n t : Nat) : List Nat → Nat
  | [] => t
  | place :: places => togo n (t * (n + 1) + (n - place)) places

theorem togo_lt_togo (n : Nat) {s t : Nat} (h : s < t) {places others : List Nat}
    (hlength : places.length = others.length) : togo n s places < togo n t others := by
  induction places generalizing s t others with
  | nil =>
    obtain rfl := List.length_eq_zero_iff.mp hlength.symm
    exact h
  | cons place places ih =>
    cases others with
    | nil => simp at hlength
    | cons other others =>
      have hdigit : (s + 1) * (n + 1) ≤ t * (n + 1) := Nat.mul_le_mul_right (n + 1) h
      rw [Nat.add_mul] at hdigit
      rw [togo, togo]
      exact ih (by omega) (by simpa using hlength)

theorem togo_lt_of_lt {n t : Nat} {places later : List Nat} (hlt : places < later)
    (hlength : places.length = later.length) (hbelow : ∀ i ∈ places, i < n) :
    togo n t later < togo n t places := by
  induction hlt generalizing t with
  | nil => simp at hlength
  | cons _ ih => exact ih (by simpa using hlength) fun i hi => hbelow i (List.mem_cons_of_mem _ hi)
  | @rel x places y others hxy =>
    have hx : x < n := hbelow x List.mem_cons_self
    rw [togo, togo]
    exact togo_lt_togo n (by omega) (by simpa using hlength.symm)

def Succession.enumerateFrom? (s : Succession) (l : List α) (places : List Nat)
    (texts : Array (List α)) : Option (Array (List α)) :=
  match _ : pick? l places with
  | none => none
  | some text =>
    match _ : s.next? places with
    | none => none
    | some none => some (texts.push text)
    | some (some later) => s.enumerateFrom? l later (texts.push text)
termination_by togo l.length 0 places
decreasing_by
  obtain ⟨hlength, hlt⟩ := s.advances ‹_›
  exact togo_lt_of_lt hlt hlength fun i hi => lt_length_of_pick? ‹_› hi

def Succession.enumerate? (s : Succession) (l : List α) (places : List Nat) :
    Option (List (List α)) := (s.enumerateFrom? l places #[]).map Array.toList

/-! ## Rearrangements, selections and stretches

The lists are complete and come in the order of the places chosen. Equal characters at different
places count as different, so equal texts are repeated.
-/

def permutations? (l : List α) : Option (List (List α)) :=
  orders.enumerate? l (List.range l.length)

/-- All rearrangements of a list, in the lexicographic order of the places. -/
def permutations (l : List α) : List (List α) := (permutations? l).getD []

def subsequences? (l : List α) : Option (List (List α)) := do
  let blocks ← (List.range l.length).mapM fun k =>
    (choices l.length).enumerate? l (List.range (k + 1))
  return blocks.flatten

/-- All non-empty selections of elements in their order, the short ones first and those of one
length in the lexicographic order of the places. -/
def subsequences (l : List α) : List (List α) := (subsequences? l).getD []

def beginnings : List α → List (List α)
  | [] => []
  | x :: xs => [x] :: (beginnings xs).map (x :: ·)

/-- All non-empty stretches, by start and then by length. -/
def stretches : List α → List (List α)
  | [] => []
  | x :: xs => beginnings (x :: xs) ++ stretches xs

end Gridwalk.Text
