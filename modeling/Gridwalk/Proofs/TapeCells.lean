import Gridwalk.Tape
import Mathlib.Data.Set.Basic
import Mathlib.Order.Bounds.Basic

/-! # The cells of a tape

The set cells of a tape are stored in ascending order, at 64-bit addresses, and no stored cell reads
as unset. Every operation keeps this form. A walk over the set cells then stops at the first address
that is not stored, in either direction, and fails only if it would have to leave the 64-bit range.
-/

namespace Gridwalk
set_option autoImplicit false

namespace Tape

structure Canonical (t : Tape) : Prop where
  ascending : t.cells.Pairwise fun a b => a.1 < b.1
  isSet : ∀ cell ∈ t.cells, cell.2 ≠ unset
  fits : ∀ cell ∈ t.cells, Word.Fits cell.1
  memory : Word.Fits t.memory
  register : Word.Fits t.register

inductive Operation where
  | set (address value : Int) (h : Word.Fits address)
  | store (value : Int)
  | moveRight
  | moveLeft
  | seekRight (value : Int)
  | seekLeft (value : Int)
  | writeRegister (text : List Char)
  | nextRegister
  | previousRegister

def Operation.apply : Operation → Tape → Except Overflow Tape
  | set address value _, t => .ok (t.set address value)
  | store value, t => .ok (t.store value)
  | moveRight, t => t.moveRight
  | moveLeft, t => t.moveLeft
  | seekRight value, t => t.seekRight value
  | seekLeft value, t => t.seekLeft value
  | writeRegister text, t => t.writeRegister text
  | nextRegister, t => t.nextRegister
  | previousRegister, t => t.previousRegister

inductive Reached : Tape → Prop where
  | empty : Reached .empty
  | apply {t t' : Tape} (h : Reached t) (operation : Operation) (h' : operation.apply t = .ok t') :
    Reached t'

section Insert

variable {address value : Int} {cells : List (Int × Int)}

theorem mem_insert_iff (h : cells.Pairwise fun a b => a.1 < b.1) {cell : Int × Int} :
    cell ∈ insert address value cells ↔
      cell = (address, value) ∧ value ≠ unset ∨ cell.1 ≠ address ∧ cell ∈ cells := by
  induction cells with
  | nil =>
    rw [insert]
    split <;> simp_all
  | cons first rest ih =>
    obtain ⟨a, n⟩ := first
    obtain ⟨hfirst, hrest⟩ := List.pairwise_cons.mp h
    rw [insert]
    split
    · rename_i hlt
      rw [List.mem_cons, List.mem_cons, ih hrest]
      constructor
      · rintro (rfl | hwritten | ⟨hne, hmem⟩)
        · exact .inr ⟨Int.ne_of_lt hlt, .inl rfl⟩
        · exact .inl hwritten
        · exact .inr ⟨hne, .inr hmem⟩
      · rintro (hwritten | ⟨hne, rfl | hmem⟩)
        · exact .inr (.inl hwritten)
        · exact .inl rfl
        · exact .inr (.inr ⟨hne, hmem⟩)
    · rename_i hle
      have hbehind : cell ∈ (if a = address then rest else (a, n) :: rest) ↔
          cell.1 ≠ address ∧ cell ∈ (a, n) :: rest := by
        have hafter (hmem : cell ∈ rest) : cell.1 ≠ address := by
          have hlt := hfirst cell hmem
          dsimp only at hlt
          omega
        split
        · rename_i he
          subst he
          constructor
          · intro hmem
            exact ⟨hafter hmem, List.mem_cons_of_mem _ hmem⟩
          · rintro ⟨hne, hmem⟩
            rcases List.mem_cons.mp hmem with rfl | hmem
            · exact absurd rfl hne
            · exact hmem
        · rename_i hne
          constructor
          · intro hmem
            refine ⟨?_, hmem⟩
            rcases List.mem_cons.mp hmem with rfl | hmem
            · exact hne
            · exact hafter hmem
          · rintro ⟨-, hmem⟩
            exact hmem
      dsimp only
      split
      · rename_i hvalue
        rw [hbehind]
        exact (or_iff_right fun hwritten => hwritten.2 hvalue).symm
      · rename_i hvalue
        rw [List.mem_cons, hbehind, and_iff_left hvalue]

theorem pairwise_insert (h : cells.Pairwise fun a b => a.1 < b.1) :
    (insert address value cells).Pairwise fun a b => a.1 < b.1 := by
  induction cells with
  | nil =>
    simp only [insert]
    split
    · exact .nil
    · exact List.pairwise_singleton _ _
  | cons first rest ih =>
    obtain ⟨a, n⟩ := first
    obtain ⟨hfirst, hrest⟩ := List.pairwise_cons.mp h
    simp only [insert]
    split
    · rename_i hlt
      refine List.pairwise_cons.mpr ⟨fun cell hcell => ?_, ih hrest⟩
      rcases (mem_insert_iff hrest).mp hcell with ⟨rfl, -⟩ | ⟨-, hmem⟩
      · exact hlt
      · exact hfirst cell hmem
    · rename_i hle
      have hbehind : (if a = address then rest else (a, n) :: rest).Pairwise
          fun a b => a.1 < b.1 := by
        split
        · exact hrest
        · exact h
      have hbefore : ∀ cell ∈ if a = address then rest else (a, n) :: rest, address < cell.1 := by
        intro cell hcell
        split at hcell
        · rename_i he
          exact he ▸ hfirst cell hcell
        · rcases List.mem_cons.mp hcell with rfl | hmem
          · dsimp only
            omega
          · have hlt := hfirst cell hmem
            dsimp only at hlt
            omega
      split
      · exact hbehind
      · exact List.pairwise_cons.mpr ⟨hbefore, hbehind⟩

end Insert

section Lookup

variable {address value : Int} {cells : List (Int × Int)}

theorem lookup_of_notMem (h : address ∉ cells.map Prod.fst) : lookup address cells = unset := by
  induction cells with
  | nil => rfl
  | cons first rest ih =>
    obtain ⟨hne, hrest⟩ := not_or.mp (mt List.mem_cons.mpr h)
    rw [lookup, if_neg (Ne.symm hne), ih hrest]

theorem lookup_of_mem (hcells : cells.Pairwise fun a b => a.1 < b.1)
    (h : (address, value) ∈ cells) : lookup address cells = value := by
  induction cells with
  | nil => cases h
  | cons first rest ih =>
    obtain ⟨hfirst, hrest⟩ := List.pairwise_cons.mp hcells
    rcases List.mem_cons.mp h with rfl | hmem
    · rw [lookup, if_pos rfl]
    · rw [lookup, if_neg (Int.ne_of_lt (hfirst _ hmem)), ih hrest hmem]

theorem lookup_congr {cells' : List (Int × Int)} (h : cells.Pairwise fun a b => a.1 < b.1)
    (h' : cells'.Pairwise fun a b => a.1 < b.1)
    (hcells : ∀ value, (address, value) ∈ cells ↔ (address, value) ∈ cells') :
    lookup address cells = lookup address cells' := by
  by_cases hmem : address ∈ cells.map Prod.fst
  · obtain ⟨⟨a, n⟩, hcell, rfl⟩ := List.mem_map.mp hmem
    rw [lookup_of_mem h hcell, lookup_of_mem h' ((hcells n).mp hcell)]
  · have hmem' : address ∉ cells'.map Prod.fst := by
      intro hmem'
      obtain ⟨⟨a, n⟩, hcell, rfl⟩ := List.mem_map.mp hmem'
      exact hmem (List.mem_map_of_mem ((hcells n).mpr hcell))
    rw [lookup_of_notMem hmem, lookup_of_notMem hmem']

end Lookup

theorem Canonical.insert {t : Tape} (h : t.Canonical) {address value : Int}
    (hfits : Word.Fits address) :
    { t with cells := Tape.insert address value t.cells }.Canonical := by
  refine ⟨pairwise_insert h.ascending, fun cell hcell => ?_, fun cell hcell => ?_, h.memory,
    h.register⟩
  · rcases (mem_insert_iff h.ascending).mp hcell with ⟨rfl, hvalue⟩ | ⟨-, hmem⟩
    · exact hvalue
    · exact h.isSet cell hmem
  · rcases (mem_insert_iff h.ascending).mp hcell with ⟨rfl, -⟩ | ⟨-, hmem⟩
    · exact hfits
    · exact h.fits cell hmem

theorem mem_addresses_iff {t : Tape} (h : t.Canonical) {address : Int} :
    address ∈ t.addresses ↔ t.get address ≠ unset := by
  constructor
  · intro hmem
    obtain ⟨⟨a, n⟩, hcell, rfl⟩ := List.mem_map.mp hmem
    rw [get, lookup_of_mem h.ascending hcell]
    exact h.isSet _ hcell
  · intro hset
    by_contra hfree
    exact hset (lookup_of_notMem hfree)

theorem mem_cells_iff {t : Tape} (h : t.Canonical) {address value : Int} :
    (address, value) ∈ t.cells ↔ t.get address = value ∧ value ≠ unset := by
  constructor
  · intro hmem
    exact ⟨lookup_of_mem h.ascending hmem, h.isSet _ hmem⟩
  · rintro ⟨rfl, hset⟩
    obtain ⟨⟨a, n⟩, hmem, rfl⟩ := List.mem_map.mp ((mem_addresses_iff h).mpr hset)
    rwa [get, lookup_of_mem h.ascending hmem]

/-- `s` is the first address from `r` on, in steps of `d`, that is not in the list. -/
def FirstFree (l : List Int) (d r s : Int) : Prop :=
  ∃ n : Nat, s = r + d * n ∧ s ∉ l ∧ ∀ k < n, r + d * k ∈ l

section Walk

variable {l : List Int} {d r s : Int}

theorem firstFree_of_notMem (h : r ∉ l) : FirstFree l d r s ↔ s = r := by
  constructor
  · rintro ⟨n, rfl, -, hrun⟩
    cases n with
    | zero => simp
    | succ n => exact absurd (by simpa using hrun 0 (Nat.succ_pos n)) h
  · rintro rfl
    exact ⟨0, by simp, h, fun k hk => absurd hk (Nat.not_lt_zero k)⟩

theorem firstFree_of_mem (h : r ∈ l) : FirstFree l d r s ↔ FirstFree l d (r + d) s := by
  have hshift (k : Nat) : r + d * (k + 1 : Nat) = r + d + d * k := by
    rw [Int.natCast_succ, Int.mul_add, Int.mul_one]
    omega
  constructor
  · rintro ⟨n, rfl, hs, hrun⟩
    cases n with
    | zero => exact absurd h (by simpa using hs)
    | succ n =>
      refine ⟨n, hshift n, hs, fun k hk => ?_⟩
      rw [← hshift]
      exact hrun (k + 1) (Nat.succ_lt_succ hk)
  · rintro ⟨n, rfl, hs, hrun⟩
    refine ⟨n + 1, (hshift n).symm, hs, fun k hk => ?_⟩
    cases k with
    | zero => simpa using h
    | succ k =>
      rw [hshift]
      exact hrun k (Nat.lt_of_succ_lt_succ hk)

theorem firstFree_cons_of_lt (hd : d = 1 ∨ d = -1) {a : Int} (h : d * a < d * r) :
    FirstFree (a :: l) d r s ↔ FirstFree l d r s := by
  have hmem (k : Nat) : r + d * k ∈ a :: l ↔ r + d * k ∈ l := by
    have hne : r + d * k ≠ a := by
      rcases hd with rfl | rfl <;> omega
    rw [List.mem_cons]
    exact or_iff_right hne
  constructor
  · rintro ⟨n, rfl, hs, hrun⟩
    exact ⟨n, rfl, mt (hmem n).mpr hs, fun k hk => (hmem k).mp (hrun k hk)⟩
  · rintro ⟨n, rfl, hs, hrun⟩
    exact ⟨n, rfl, mt (hmem n).mp hs, fun k hk => (hmem k).mpr (hrun k hk)⟩

theorem firstFree_iff (hd : d = 1 ∨ d = -1) :
    FirstFree l d r s ↔
      (d * r ≤ d * s ∧ s ∉ l) ∧ ∀ a, d * r ≤ d * a → a ∉ l → d * s ≤ d * a := by
  constructor
  · rintro ⟨n, rfl, hs, hrun⟩
    refine ⟨⟨by rcases hd with rfl | rfl <;> omega, hs⟩, fun a hra ha => ?_⟩
    by_contra hlt
    have hk : a = r + d * (d * (a - r)).toNat := by
      rcases hd with rfl | rfl <;> omega
    refine ha (hk ▸ hrun _ ?_)
    rcases hd with rfl | rfl <;> omega
  · rintro ⟨⟨hrs, hs⟩, hleast⟩
    refine ⟨(d * (s - r)).toNat, by rcases hd with rfl | rfl <;> omega, hs, fun k hk => ?_⟩
    by_contra hfree
    have hle := hleast _ (by rcases hd with rfl | rfl <;> omega) hfree
    rcases hd with rfl | rfl <;> omega

variable {step : Int → Except Overflow Int} {cause : Overflow}

/-- The walk looks at each stored address once, so they have to come in the order of the steps. -/
theorem skipSet_eq_ok_iff (hstep : ∀ a, step a = Word.check cause (a + d)) (hd : d = 1 ∨ d = -1)
    (hl : l.Pairwise fun a b => d * a < d * b) (hr : Word.Fits r) :
    skipSet step r l = .ok s ↔ FirstFree l d r s ∧ Word.Fits s := by
  induction l generalizing r with
  | nil =>
    rw [skipSet, firstFree_of_notMem List.not_mem_nil, Except.ok.injEq]
    constructor
    · rintro rfl
      exact ⟨rfl, hr⟩
    · rintro ⟨rfl, -⟩
      rfl
  | cons a rest ih =>
    obtain ⟨hfirst, hrest⟩ := List.pairwise_cons.mp hl
    rw [skipSet]
    split
    · rename_i ha
      subst ha
      have hlt : d * a < d * (a + d) := by
        rcases hd with rfl | rfl <;> omega
      rw [firstFree_of_mem List.mem_cons_self, firstFree_cons_of_lt hd hlt, Word.bind_eq_ok_iff]
      simp only [hstep, Word.check_eq_ok_iff]
      constructor
      · rintro ⟨_, ⟨hfits, rfl⟩, h⟩
        exact (ih hrest hfits).mp h
      · rintro ⟨hfree, hs⟩
        have hfits : Word.Fits (a + d) := by
          obtain ⟨n, rfl, -⟩ := hfree
          obtain ⟨h₁, h₂⟩ := hr
          obtain ⟨h₃, h₄⟩ := hs
          rcases hd with rfl | rfl <;> constructor <;> omega
        exact ⟨_, ⟨hfits, rfl⟩, (ih hrest hfits).mpr ⟨hfree, hs⟩⟩
    · rename_i ha
      by_cases hlt : d * a < d * r
      · rw [firstFree_cons_of_lt hd hlt]
        exact ih hrest hr
      · have hgt : d * r < d * a := by
          rcases hd with rfl | rfl <;> omega
        have hfree : r ∉ rest := fun hmem => by
          have hafter := hfirst r hmem
          omega
        rw [ih hrest hr, firstFree_of_notMem hfree, firstFree_of_notMem]
        rw [List.mem_cons]
        rintro (he | hmem)
        · exact ha he.symm
        · exact hfree hmem

end Walk

theorem pairwise_addresses {t : Tape} (h : t.cells.Pairwise fun a b => a.1 < b.1) :
    t.addresses.Pairwise fun a b => 1 * a < 1 * b := by
  unfold addresses
  simpa [List.pairwise_map] using h

theorem pairwise_addresses_reverse {t : Tape} (h : t.cells.Pairwise fun a b => a.1 < b.1) :
    t.addresses.reverse.Pairwise fun a b => -1 * a < -1 * b := by
  unfold addresses
  simpa [List.pairwise_reverse, List.pairwise_map] using h

theorem skipSet_right {t : Tape} (h : t.Canonical) {r s : Int} (hr : Word.Fits r) :
    skipSet stepRight r t.addresses = .ok s ↔
      IsLeast {a | r ≤ a ∧ t.get a = unset} s ∧ Word.Fits s := by
  have hstep (a : Int) : stepRight a = Word.check .add (a + 1) := rfl
  rw [skipSet_eq_ok_iff hstep (.inl rfl) (pairwise_addresses h.ascending) hr,
    firstFree_iff (.inl rfl)]
  simp [IsLeast, mem_lowerBounds, mem_addresses_iff h]

theorem skipSet_left {t : Tape} (h : t.Canonical) {r s : Int} (hr : Word.Fits r) :
    skipSet stepLeft r t.addresses.reverse = .ok s ↔
      IsGreatest {a | a ≤ r ∧ t.get a = unset} s ∧ Word.Fits s := by
  have hstep (a : Int) : stepLeft a = Word.check .subtract (a + -1) := rfl
  rw [skipSet_eq_ok_iff hstep (.inr rfl) (pairwise_addresses_reverse h.ascending) hr,
    firstFree_iff (.inr rfl)]
  simp [IsGreatest, mem_upperBounds, mem_addresses_iff h]

theorem Canonical.writeFrom {t : Tape} (h : t.Canonical) {address : Int} (hfits : Word.Fits address)
    {text : List Char} {cells : List (Int × Int)}
    (hwrite : Tape.writeFrom address text t.cells = .ok cells) : { t with cells }.Canonical := by
  induction text generalizing t address with
  | nil =>
    cases hwrite
    exact h.insert hfits
  | cons c text ih =>
    obtain ⟨next, hnext, hrest⟩ := Word.bind_eq_ok_iff.mp hwrite
    obtain ⟨hfits', rfl⟩ := Word.check_eq_ok_iff.mp hnext
    have hinserted : { t with cells := Tape.insert address (Text.code c) t.cells }.Canonical :=
      h.insert hfits
    have hwritten := ih hinserted hfits' hrest
    exact hwritten

theorem Canonical.apply {t t' : Tape} (h : t.Canonical) (operation : Operation)
    (happly : operation.apply t = .ok t') : t'.Canonical := by
  have hstep {cause : Overflow} {n a : Int} (hcheck : Word.check cause n = .ok a) :
      Word.Fits a := by
    obtain ⟨hfits, rfl⟩ := Word.check_eq_ok_iff.mp hcheck
    exact hfits
  cases operation with
  | set address value hfits =>
    cases happly
    exact h.insert hfits
  | store value =>
    cases happly
    exact h.insert h.memory
  | moveRight =>
    obtain ⟨next, hnext, hmoved⟩ := Word.bind_eq_ok_iff.mp happly
    cases hmoved
    exact { h with memory := hstep hnext }
  | moveLeft =>
    obtain ⟨next, hnext, hmoved⟩ := Word.bind_eq_ok_iff.mp happly
    cases hmoved
    exact { h with memory := hstep hnext }
  | seekRight value =>
    obtain ⟨next, hnext, hsought⟩ := Word.bind_eq_ok_iff.mp happly
    split at hsought
    · obtain ⟨stop, hstop, hmoved⟩ := Word.bind_eq_ok_iff.mp hsought
      cases hmoved
      exact { h with memory := ((skipSet_right h (hstep hnext)).mp hstop).2 }
    · split at hsought
      · rename_i hfound
        cases hsought
        exact { h with memory := h.fits _ (List.mem_of_find?_eq_some hfound) }
      · cases hsought
        exact h
  | seekLeft value =>
    simp only [Operation.apply, seekLeft] at happly
    split at happly
    · obtain ⟨next, hnext, hsought⟩ := Word.bind_eq_ok_iff.mp happly
      obtain ⟨stop, hstop, hmoved⟩ := Word.bind_eq_ok_iff.mp hsought
      cases hmoved
      exact { h with memory := ((skipSet_left h (hstep hnext)).mp hstop).2 }
    · split at happly
      · rename_i hfound
        cases happly
        have hmem := List.mem_of_find?_eq_some hfound
        exact { h with memory := h.fits _ (List.mem_reverse.mp hmem) }
      · cases happly
        exact h
  | writeRegister text =>
    obtain ⟨cells, hwrite, hdone⟩ := Word.bind_eq_ok_iff.mp happly
    cases hdone
    exact h.writeFrom h.register hwrite
  | nextRegister =>
    obtain ⟨stop, -, hsought⟩ := Word.bind_eq_ok_iff.mp happly
    obtain ⟨next, hnext, hmoved⟩ := Word.bind_eq_ok_iff.mp hsought
    cases hmoved
    exact { h with register := hstep hnext }
  | previousRegister =>
    obtain ⟨inside, -, hsought⟩ := Word.bind_eq_ok_iff.mp happly
    obtain ⟨stop, -, hstopped⟩ := Word.bind_eq_ok_iff.mp hsought
    obtain ⟨next, hnext, hmoved⟩ := Word.bind_eq_ok_iff.mp hstopped
    cases hmoved
    exact { h with register := hstep hnext }

theorem Reached.canonical {t : Tape} (h : Reached t) : t.Canonical := by
  induction h with
  | empty => exact ⟨.nil, by simp [Tape.empty], by simp [Tape.empty], by decide, by decide⟩
  | apply _ operation happly ih => exact ih.apply operation happly

end Tape

end Gridwalk
