import Gridwalk.Proofs.TapeCells
import Mathlib.Data.Int.LeastGreatest
import Mathlib.Data.List.Nodup
import Mathlib.Data.List.Perm.Subperm

/-! # Moving between registers

A register starts behind every unset cell, also if it is empty. The next register is the one at the
least start on the right of the pointer, and the previous one is at the greatest start on its left.
So the two moves undo each other between starts, and a move fails only if there is no start on its
side of the pointer. What the cells hold plays no part, and no cell changes.
-/

namespace Gridwalk
set_option autoImplicit false

namespace Tape

/-- Whether a register starts at an address: the cell to the left is on the tape and unset. -/
structure IsStart (t : Tape) (a : Int) : Prop where
  fits : Word.Fits a
  left : Word.Fits (a - 1)
  unset : t.get (a - 1) = Tape.unset

variable {t t' : Tape}

theorem isStart_moved_iff {r a : Int} : { t with register := r }.IsStart a ↔ t.IsStart a :=
  ⟨fun h => ⟨h.fits, h.left, h.unset⟩, fun h => ⟨h.fits, h.left, h.unset⟩⟩

theorem Canonical.moved (h : t.Canonical) {r : Int} (hr : Word.Fits r) :
    { t with register := r }.Canonical :=
  { h with register := hr }

theorem nextRegister_eq_ok_iff (h : t.Canonical) :
    t.nextRegister = .ok t' ↔
      ∃ r, IsLeast {a | t.register < a ∧ t.IsStart a} r ∧ t' = { t with register := r } := by
  simp only [nextRegister, Word.bind_eq_ok_iff, skipSet_right h h.register, stepRight, Word.add,
    Word.check_eq_ok_iff]
  obtain ⟨hlow, -⟩ := h.register
  constructor
  · rintro ⟨stop, ⟨⟨⟨hle, hunset⟩, hleast⟩, hstop⟩, _, ⟨hfits, rfl⟩, hmoved⟩
    cases hmoved
    refine ⟨stop + 1, ⟨⟨by omega, hfits, by simpa using hstop, by simpa using hunset⟩, ?_⟩, rfl⟩
    rintro a ⟨hlt, ha⟩
    have hbehind := hleast ⟨by omega, ha.unset⟩
    omega
  · rintro ⟨r, ⟨⟨hlt, hr⟩, hleast⟩, rfl⟩
    refine ⟨r - 1, ⟨⟨⟨by omega, hr.unset⟩, ?_⟩, hr.left⟩,
      r, ⟨by simpa using hr.fits, by omega⟩, rfl⟩
    rintro a ⟨hle, ha⟩
    by_contra hbefore
    obtain ⟨-, hhigh⟩ := hr.fits
    -- A register would start behind `a`, before the least start.
    have hstart : t.IsStart (a + 1) :=
      ⟨⟨by omega, by omega⟩, ⟨by omega, by omega⟩, by simpa using ha⟩
    have hr' := hleast ⟨by omega, hstart⟩
    omega

theorem previousRegister_eq_ok_iff (h : t.Canonical) :
    t.previousRegister = .ok t' ↔
      ∃ r, IsGreatest {a | a < t.register ∧ t.IsStart a} r ∧ t' = { t with register := r } := by
  obtain ⟨-, hhigh⟩ := h.register
  simp only [previousRegister, Word.bind_eq_ok_iff, Word.sub, stepRight, Word.add,
    Word.check_eq_ok_iff]
  constructor
  · rintro ⟨_, ⟨hinside, rfl⟩, stop, hskip, _, ⟨hfits, rfl⟩, hmoved⟩
    obtain ⟨⟨⟨hle, hunset⟩, hgreatest⟩, hstop⟩ := (skipSet_left h hinside).mp hskip
    cases hmoved
    refine ⟨stop + 1, ⟨⟨by omega, hfits, by simpa using hstop, by simpa using hunset⟩, ?_⟩, rfl⟩
    rintro a ⟨hlt, ha⟩
    have hbefore := hgreatest ⟨by omega, ha.unset⟩
    omega
  · rintro ⟨r, ⟨⟨hlt, hr⟩, hgreatest⟩, rfl⟩
    obtain ⟨hlow, -⟩ := hr.left
    have hinside : Word.Fits (t.register - 2) := ⟨by omega, by omega⟩
    refine ⟨_, ⟨hinside, rfl⟩,
      r - 1, (skipSet_left h hinside).mpr ⟨⟨⟨by omega, hr.unset⟩, ?_⟩, hr.left⟩,
      r, ⟨by simpa using hr.fits, by omega⟩, rfl⟩
    rintro a ⟨hle, ha⟩
    by_contra hbehind
    have hstart : t.IsStart (a + 1) :=
      ⟨⟨by omega, by omega⟩, ⟨by omega, by omega⟩, by simpa using ha⟩
    have hr' := hgreatest ⟨by omega, hstart⟩
    omega

theorem exists_nextRegister_iff (h : t.Canonical) :
    (∃ t', t.nextRegister = .ok t') ↔ ∃ a, t.register < a ∧ t.IsStart a := by
  constructor
  · rintro ⟨t', hnext⟩
    obtain ⟨r, hr, -⟩ := (nextRegister_eq_ok_iff h).mp hnext
    exact ⟨r, hr.1⟩
  · intro hex
    obtain ⟨r, hr, hleast⟩ :=
      Int.exists_least_of_bdd ⟨t.register, fun a ha => Int.le_of_lt ha.1⟩ hex
    exact ⟨_, (nextRegister_eq_ok_iff h).mpr ⟨r, ⟨hr, fun a ha => hleast a ha⟩, rfl⟩⟩

theorem exists_previousRegister_iff (h : t.Canonical) :
    (∃ t', t.previousRegister = .ok t') ↔ ∃ a, a < t.register ∧ t.IsStart a := by
  constructor
  · rintro ⟨t', hprevious⟩
    obtain ⟨r, hr, -⟩ := (previousRegister_eq_ok_iff h).mp hprevious
    exact ⟨r, hr.1⟩
  · intro hex
    obtain ⟨r, hr, hgreatest⟩ :=
      Int.exists_greatest_of_bdd ⟨t.register, fun a ha => Int.le_of_lt ha.1⟩ hex
    exact ⟨_, (previousRegister_eq_ok_iff h).mpr ⟨r, ⟨hr, fun a ha => hgreatest a ha⟩, rfl⟩⟩

theorem previousRegister_of_nextRegister (h : t.Canonical) (hstart : t.IsStart t.register)
    (hnext : t.nextRegister = .ok t') : t'.previousRegister = .ok t := by
  obtain ⟨r, ⟨⟨hlt, hr⟩, hleast⟩, rfl⟩ := (nextRegister_eq_ok_iff h).mp hnext
  refine (previousRegister_eq_ok_iff (h.moved hr.fits)).mpr
    ⟨t.register, ⟨⟨hlt, isStart_moved_iff.mpr hstart⟩, ?_⟩, rfl⟩
  rintro a ⟨har, ha⟩
  by_contra hbehind
  have hra := hleast ⟨by omega, isStart_moved_iff.mp ha⟩
  dsimp only at har
  omega

theorem nextRegister_of_previousRegister (h : t.Canonical) (hstart : t.IsStart t.register)
    (hprevious : t.previousRegister = .ok t') : t'.nextRegister = .ok t := by
  obtain ⟨r, ⟨⟨hlt, hr⟩, hgreatest⟩, rfl⟩ := (previousRegister_eq_ok_iff h).mp hprevious
  refine (nextRegister_eq_ok_iff (h.moved hr.fits)).mpr
    ⟨t.register, ⟨⟨hlt, isStart_moved_iff.mpr hstart⟩, ?_⟩, rfl⟩
  rintro a ⟨hra, ha⟩
  by_contra hbefore
  have har := hgreatest ⟨by omega, isStart_moved_iff.mp ha⟩
  dsimp only at hra
  omega

theorem exists_unset (h : t.Canonical) (place : Nat → Int) (hplace : place.Injective) :
    ∃ k ≤ t.cells.length, t.get (place k) = unset := by
  by_contra! hset
  have hmem : (List.range (t.cells.length + 1)).map place ⊆ t.addresses := by
    intro a ha
    obtain ⟨k, hk, rfl⟩ := List.mem_map.mp ha
    exact (mem_addresses_iff h).mpr (hset k (Nat.le_of_lt_succ (List.mem_range.mp hk)))
  have hle := (List.subperm_of_subset (List.Nodup.map hplace List.nodup_range) hmem).length_le
  simp only [addresses, List.length_map, List.length_range] at hle
  omega

theorem exists_start_right (h : t.Canonical)
    (hfar : t.register + t.cells.length < Word.greatest) : ∃ a, t.register < a ∧ t.IsStart a := by
  obtain ⟨hlow, -⟩ := h.register
  obtain ⟨k, hk, hunset⟩ := exists_unset h (t.register + ·) fun i j hij => by
    dsimp only at hij
    omega
  refine ⟨t.register + k + 1, by omega, ⟨by omega, by omega⟩, ⟨by omega, by omega⟩, ?_⟩
  rwa [Int.add_sub_cancel]

theorem exists_start_left (h : t.Canonical)
    (hfar : Word.least + t.cells.length < t.register - 1) : ∃ a, a < t.register ∧ t.IsStart a := by
  obtain ⟨-, hhigh⟩ := h.register
  obtain ⟨k, hk, hunset⟩ := exists_unset h (t.register - 2 - ·) fun i j hij => by
    dsimp only at hij
    omega
  refine ⟨t.register - 2 - k + 1, by omega, ⟨by omega, by omega⟩, ⟨by omega, by omega⟩, ?_⟩
  rwa [Int.add_sub_cancel]

/-- However a tape came about, and wherever the pointer is: a move that succeeds changes the
register pointer and nothing else and leaves it on a start, the nearest one on its side; it succeeds
exactly if there is such a start, and so wherever the limit of the tape is farther away than the set
cells could reach. From a start, each of the two moves is undone by the other. -/
theorem register_moves_are_inverse :
    (∀ t : Tape, Reached t → t.Canonical) ∧
    ∀ t : Tape, t.Canonical →
      (((∃ t', t.nextRegister = .ok t') ↔ ∃ a, t.register < a ∧ t.IsStart a) ∧
        (t.register + t.cells.length < Word.greatest → ∃ t', t.nextRegister = .ok t') ∧
        ∀ t', t.nextRegister = .ok t' → t' = { t with register := t'.register } ∧
          t'.IsStart t'.register ∧ IsLeast {a | t.register < a ∧ t.IsStart a} t'.register) ∧
      (((∃ t', t.previousRegister = .ok t') ↔ ∃ a, a < t.register ∧ t.IsStart a) ∧
        (Word.least + t.cells.length < t.register - 1 → ∃ t', t.previousRegister = .ok t') ∧
        ∀ t', t.previousRegister = .ok t' → t' = { t with register := t'.register } ∧
          t'.IsStart t'.register ∧ IsGreatest {a | a < t.register ∧ t.IsStart a} t'.register) ∧
      (t.IsStart t.register →
        (∀ t', t.nextRegister = .ok t' → t'.previousRegister = .ok t) ∧
        ∀ t', t.previousRegister = .ok t' → t'.nextRegister = .ok t) := by
  refine ⟨fun t => Reached.canonical, fun t h => ⟨⟨exists_nextRegister_iff h, fun hfar => ?_, ?_⟩,
    ⟨exists_previousRegister_iff h, fun hfar => ?_, ?_⟩, fun hstart => ⟨?_, ?_⟩⟩⟩
  · exact (exists_nextRegister_iff h).mpr (exists_start_right h hfar)
  · intro t' hnext
    obtain ⟨r, hr, rfl⟩ := (nextRegister_eq_ok_iff h).mp hnext
    exact ⟨rfl, isStart_moved_iff.mpr hr.1.2, hr⟩
  · exact (exists_previousRegister_iff h).mpr (exists_start_left h hfar)
  · intro t' hprevious
    obtain ⟨r, hr, rfl⟩ := (previousRegister_eq_ok_iff h).mp hprevious
    exact ⟨rfl, isStart_moved_iff.mpr hr.1.2, hr⟩
  · exact fun t' => previousRegister_of_nextRegister h hstart
  · exact fun t' => nextRegister_of_previousRegister h hstart

/-- A register with a text, an empty one and one with two numbers that are no characters. From the
empty one the pointer goes on and back, and back and on. -/
theorem register_moves_are_inverse_past_empty :
    let t : Tape := ⟨[(0, 97), (1, 98), (4, -5), (5, 0x110000)], 0, 3⟩
    Reached t ∧ t.IsStart t.register ∧
    t.nextRegister = .ok { t with register := 4 } ∧
    t.previousRegister = .ok { t with register := 0 } ∧
    { t with register := 4 }.previousRegister = .ok t ∧
    { t with register := 0 }.nextRegister = .ok t := by
  intro t
  have hreached : Reached t := by
    have hwritten : Reached ⟨[(0, 97), (1, 98)], 0, 0⟩ :=
      Reached.empty.apply (.writeRegister ['a', 'b']) rfl
    have hmoved : Reached ⟨[(0, 97), (1, 98)], 0, 3⟩ := hwritten.apply .nextRegister rfl
    exact (hmoved.apply (.set 4 (-5) (by decide)) rfl).apply (.set 5 0x110000 (by decide)) rfl
  have hstart : t.IsStart t.register := ⟨by decide, by decide, by decide⟩
  have hnext : t.nextRegister = .ok { t with register := 4 } := rfl
  have hprevious : t.previousRegister = .ok { t with register := 0 } := rfl
  have hmoves := register_moves_are_inverse.2 t (register_moves_are_inverse.1 t hreached)
  obtain ⟨hback, hon⟩ := hmoves.2.2 hstart
  exact ⟨hreached, hstart, hnext, hprevious, hback _ hnext, hon _ hprevious⟩

end Tape

end Gridwalk
