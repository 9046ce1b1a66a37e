import Gridwalk.Proofs.Registers

/-! # Seeking on the tape

A seek looks for an unset cell address by address, and for any other value among the stored cells
only. Both ways it finds the nearest cell on the tape that reads as the value. For an unset cell it
passes no more cells than are stored.
-/

namespace Gridwalk
set_option autoImplicit false

namespace Tape

/-- The addresses on the right of the memory pointer that read as a value. -/
def matchesRight (t : Tape) (value : Int) : Set Int :=
  {a | t.memory < a ∧ Word.Fits a ∧ t.get a = value}

def matchesLeft (t : Tape) (value : Int) : Set Int :=
  {a | a < t.memory ∧ Word.Fits a ∧ t.get a = value}

theorem eq_or_of_find? {l : List (Int × Int)} {R : Int × Int → Int × Int → Prop}
    (hl : l.Pairwise R) {p : Int × Int → Bool} {cell other : Int × Int}
    (hfound : l.find? p = some cell) (hmem : other ∈ l) (hother : p other) :
    other = cell ∨ R cell other := by
  obtain ⟨-, before, behind, rfl, hbefore⟩ := List.find?_eq_some_iff_append.mp hfound
  rcases List.mem_append.mp hmem with hmem | hmem
  · exact absurd hother (by simpa using hbefore other hmem)
  · obtain ⟨-, hbehind, -⟩ := List.pairwise_append.mp hl
    exact (List.mem_cons.mp hmem).imp_right ((List.pairwise_cons.mp hbehind).1 other)

theorem eq_of_skipSet_eq_error {step : Int → Except Overflow Int} {cause c : Overflow} {d r : Int}
    {l : List Int} (hstep : ∀ a, step a = Word.check cause (a + d))
    (herror : skipSet step r l = .error c) : c = cause := by
  induction l generalizing r with
  | nil => cases herror
  | cons a rest ih =>
    rw [skipSet] at herror
    split at herror
    · rw [hstep] at herror
      cases hcheck : Word.check cause (r + d) with
      | error c' =>
        rw [hcheck] at herror
        cases herror
        exact (Word.check_eq_error_iff.mp hcheck).2
      | ok next =>
        rw [hcheck] at herror
        exact ih herror
    · exact ih herror

variable {t : Tape} {value : Int}

theorem reads_of_find? (h : t.Canonical) {l : List (Int × Int)} (hl : l ⊆ t.cells)
    {p : Int × Int → Bool} {a n : Int} (hfound : l.find? p = some (a, n)) :
    Word.Fits a ∧ t.get a = n := by
  have hmem := hl (List.mem_of_find?_eq_some hfound)
  exact ⟨h.fits _ hmem, ((mem_cells_iff h).mp hmem).1⟩

section Right

theorem exists_isLeast_matchesRight (h : (t.matchesRight value).Nonempty) :
    ∃ a, IsLeast (t.matchesRight value) a := by
  obtain ⟨a, ha, hleast⟩ :=
    Int.exists_least_of_bdd ⟨t.memory, fun a ha => Int.le_of_lt ha.1⟩ h
  exact ⟨a, ha, fun b hb => hleast b hb⟩

theorem stepRight_memory (h : t.Canonical) (hroom : t.memory < Word.greatest) :
    stepRight t.memory = .ok (t.memory + 1) := by
  obtain ⟨hlow, -⟩ := h.memory
  exact Word.check_eq_ok_iff.mpr ⟨⟨by omega, by omega⟩, rfl⟩

theorem seekRight_of_isLeast (h : t.Canonical) {a : Int} (ha : IsLeast (t.matchesRight value) a) :
    t.seekRight value = .ok { t with memory := a } := by
  obtain ⟨⟨hlt, hfits, hget⟩, hleast⟩ := ha
  obtain ⟨hlow, -⟩ := h.memory
  have hhigh := hfits.2
  rw [seekRight, stepRight_memory h (by omega)]
  dsimp only [bind, Except.bind]
  split
  · rename_i hvalue
    have hskip : skipSet stepRight (t.memory + 1) t.addresses = .ok a := by
      apply (skipSet_right h ⟨by omega, by omega⟩).mpr
      refine ⟨⟨⟨by omega, hget.trans hvalue⟩, ?_⟩, hfits⟩
      rintro b ⟨hb, hunset⟩
      by_contra hbefore
      exact hbefore (hleast ⟨by omega, ⟨by omega, by omega⟩, hunset.trans hvalue.symm⟩)
    rw [hskip]
    rfl
  · rename_i hvalue
    have hcell : (a, value) ∈ t.cells := (mem_cells_iff h).mpr ⟨hget, hvalue⟩
    have hmatch : (decide (t.memory + 1 ≤ a) && value == value) = true := by
      rw [Bool.and_eq_true, decide_eq_true_iff]
      exact ⟨hlt, beq_self_eq_true value⟩
    split
    · rename_i b n hfound
      obtain ⟨hb, rfl⟩ : t.memory + 1 ≤ b ∧ n = value := by
        simpa using List.find?_some hfound
      have hab := hleast ⟨by omega, reads_of_find? h (List.Subset.refl _) hfound⟩
      rcases eq_or_of_find? h.ascending hfound hcell hmatch with he | hba
      · cases he
        rfl
      · exact absurd hba (Int.not_lt.mpr hab)
    · rename_i hnone
      exact absurd hmatch (List.find?_eq_none.mp hnone _ hcell)

theorem seekRight_of_not_exists (h : t.Canonical) (hnone : t.matchesRight value = ∅)
    (hvalue : value ≠ unset) (hroom : t.memory < Word.greatest) : t.seekRight value = .ok t := by
  rw [seekRight, stepRight_memory h hroom]
  dsimp only [bind, Except.bind]
  rw [if_neg hvalue]
  split
  · rename_i b n hfound
    obtain ⟨hb, rfl⟩ : t.memory + 1 ≤ b ∧ n = value := by
      simpa using List.find?_some hfound
    have hmatch : b ∈ t.matchesRight n :=
      ⟨by omega, reads_of_find? h (List.Subset.refl _) hfound⟩
    rw [hnone] at hmatch
    exact hmatch.elim
  · rfl

theorem seekRight_off_the_tape (h : t.Canonical) (hnone : t.matchesRight value = ∅)
    (hend : value = unset ∨ t.memory = Word.greatest) : t.seekRight value = .error .add := by
  obtain ⟨hlow, hhigh⟩ := h.memory
  by_cases hroom : t.memory < Word.greatest
  · obtain rfl : value = unset := hend.resolve_right (by omega)
    rw [seekRight, stepRight_memory h hroom]
    dsimp only [bind, Except.bind]
    rw [if_pos rfl]
    cases hskip : skipSet stepRight (t.memory + 1) t.addresses with
    | ok a =>
      obtain ⟨⟨⟨hle, hunset⟩, -⟩, hfits⟩ := (skipSet_right h ⟨by omega, by omega⟩).mp hskip
      have hmatch : a ∈ t.matchesRight unset := ⟨by omega, hfits, hunset⟩
      rw [hnone] at hmatch
      exact hmatch.elim
    | error c => rw [eq_of_skipSet_eq_error (fun a => rfl) hskip]
  · have hstep : stepRight t.memory = .error .add := by
      apply Word.check_eq_error_iff.mpr
      refine ⟨?_, rfl⟩
      rintro ⟨-, hfits⟩
      omega
    rw [seekRight, hstep]
    rfl

theorem unset_right_near (h : t.Canonical) {a : Int} (ha : IsLeast (t.matchesRight unset) a) :
    a ≤ t.memory + t.cells.length + 1 := by
  obtain ⟨⟨-, hfits, -⟩, hleast⟩ := ha
  obtain ⟨hlow, -⟩ := h.memory
  obtain ⟨-, hhigh⟩ := hfits
  obtain ⟨k, hk, hunset⟩ := exists_unset h (t.memory + 1 + ·) fun i j hij => by
    dsimp only at hij
    omega
  by_contra hfar
  have hle := hleast ⟨by omega, ⟨by omega, by omega⟩, hunset⟩
  omega

end Right

section Left

theorem exists_isGreatest_matchesLeft (h : (t.matchesLeft value).Nonempty) :
    ∃ a, IsGreatest (t.matchesLeft value) a := by
  obtain ⟨a, ha, hgreatest⟩ :=
    Int.exists_greatest_of_bdd ⟨t.memory, fun a ha => Int.le_of_lt ha.1⟩ h
  exact ⟨a, ha, fun b hb => hgreatest b hb⟩

theorem seekLeft_of_isGreatest (h : t.Canonical) {a : Int}
    (ha : IsGreatest (t.matchesLeft value) a) :
    t.seekLeft value = .ok { t with memory := a } := by
  obtain ⟨⟨hlt, hfits, hget⟩, hgreatest⟩ := ha
  obtain ⟨-, hhigh⟩ := h.memory
  have hlow := hfits.1
  rw [seekLeft]
  split
  · rename_i hvalue
    have hstep : stepLeft t.memory = .ok (t.memory - 1) :=
      Word.check_eq_ok_iff.mpr ⟨⟨by omega, by omega⟩, rfl⟩
    have hskip : skipSet stepLeft (t.memory - 1) t.addresses.reverse = .ok a := by
      apply (skipSet_left h ⟨by omega, by omega⟩).mpr
      refine ⟨⟨⟨by omega, hget.trans hvalue⟩, ?_⟩, hfits⟩
      rintro b ⟨hb, hunset⟩
      by_contra hbehind
      exact hbehind (hgreatest ⟨by omega, ⟨by omega, by omega⟩, hunset.trans hvalue.symm⟩)
    rw [hstep]
    dsimp only [bind, Except.bind]
    rw [hskip]
    rfl
  · rename_i hvalue
    have hcell : (a, value) ∈ t.cells.reverse :=
      List.mem_reverse.mpr ((mem_cells_iff h).mpr ⟨hget, hvalue⟩)
    have hmatch : (decide (a < t.memory) && value == value) = true := by
      rw [Bool.and_eq_true, decide_eq_true_iff]
      exact ⟨hlt, beq_self_eq_true value⟩
    split
    · rename_i b n hfound
      obtain ⟨hb, rfl⟩ : b < t.memory ∧ n = value := by
        simpa using List.find?_some hfound
      have hba := hgreatest ⟨hb, reads_of_find? h (by simp) hfound⟩
      have hdescending := List.pairwise_reverse.mpr h.ascending
      rcases eq_or_of_find? hdescending hfound hcell hmatch with he | hab
      · cases he
        rfl
      · exact absurd hab (Int.not_lt.mpr hba)
    · rename_i hnone
      exact absurd hmatch (List.find?_eq_none.mp hnone _ hcell)

theorem seekLeft_of_not_exists (h : t.Canonical) (hnone : t.matchesLeft value = ∅)
    (hvalue : value ≠ unset) : t.seekLeft value = .ok t := by
  rw [seekLeft, if_neg hvalue]
  split
  · rename_i b n hfound
    obtain ⟨hb, rfl⟩ : b < t.memory ∧ n = value := by
      simpa using List.find?_some hfound
    have hmatch : b ∈ t.matchesLeft n := ⟨hb, reads_of_find? h (by simp) hfound⟩
    rw [hnone] at hmatch
    exact hmatch.elim
  · rfl

theorem seekLeft_off_the_tape (h : t.Canonical) (hnone : t.matchesLeft unset = ∅) :
    t.seekLeft unset = .error .subtract := by
  obtain ⟨hlow, hhigh⟩ := h.memory
  rw [seekLeft, if_pos rfl]
  cases hstep : stepLeft t.memory with
  | error c =>
    obtain ⟨-, rfl⟩ := Word.check_eq_error_iff.mp hstep
    rfl
  | ok next =>
    obtain ⟨hnext, rfl⟩ := Word.check_eq_ok_iff.mp hstep
    dsimp only [bind, Except.bind]
    cases hskip : skipSet stepLeft (t.memory - 1) t.addresses.reverse with
    | ok a =>
      obtain ⟨⟨⟨hle, hunset⟩, -⟩, hfits⟩ := (skipSet_left h hnext).mp hskip
      have hmatch : a ∈ t.matchesLeft unset := ⟨by omega, hfits, hunset⟩
      rw [hnone] at hmatch
      exact hmatch.elim
    | error c => rw [eq_of_skipSet_eq_error (fun a => rfl) hskip]

theorem unset_left_near (h : t.Canonical) {a : Int} (ha : IsGreatest (t.matchesLeft unset) a) :
    t.memory - t.cells.length - 1 ≤ a := by
  obtain ⟨⟨-, hfits, -⟩, hgreatest⟩ := ha
  obtain ⟨-, hhigh⟩ := h.memory
  obtain ⟨hlow, -⟩ := hfits
  obtain ⟨k, hk, hunset⟩ := exists_unset h (t.memory - 1 - ·) fun i j hij => by
    dsimp only at hij
    omega
  by_contra hfar
  have hle := hgreatest ⟨by omega, ⟨by omega, by omega⟩, hunset⟩
  omega

end Left

/-- However a tape came about, a seek for any value, also for an unset cell, takes the memory
pointer to the nearest address on its side that reads as the value and changes nothing else. If
there is none the pointer stays; only a seek that would have to step off the tape fails. The walk to
an unset cell passes at most as many cells as are stored. -/
theorem seeks_find_nearest {t : Tape} (h : Reached t) (value : Int) :
    (((t.matchesRight value).Nonempty →
        ∃ a, IsLeast (t.matchesRight value) a ∧ t.seekRight value = .ok { t with memory := a } ∧
          (value = unset → a ≤ t.memory + t.cells.length + 1)) ∧
      (t.matchesRight value = ∅ → value ≠ unset → t.memory < Word.greatest →
        t.seekRight value = .ok t) ∧
      (t.matchesRight value = ∅ → value = unset ∨ t.memory = Word.greatest →
        t.seekRight value = .error .add)) ∧
    (((t.matchesLeft value).Nonempty →
        ∃ a, IsGreatest (t.matchesLeft value) a ∧ t.seekLeft value = .ok { t with memory := a } ∧
          (value = unset → t.memory - t.cells.length - 1 ≤ a)) ∧
      (t.matchesLeft value = ∅ → value ≠ unset → t.seekLeft value = .ok t) ∧
      (t.matchesLeft value = ∅ → value = unset → t.seekLeft value = .error .subtract)) := by
  have hcanonical := h.canonical
  refine ⟨⟨?_, seekRight_of_not_exists hcanonical, seekRight_off_the_tape hcanonical⟩,
    ?_, seekLeft_of_not_exists hcanonical, ?_⟩
  · intro hex
    obtain ⟨a, ha⟩ := exists_isLeast_matchesRight hex
    refine ⟨a, ha, seekRight_of_isLeast hcanonical ha, ?_⟩
    rintro rfl
    exact unset_right_near hcanonical ha
  · intro hex
    obtain ⟨a, ha⟩ := exists_isGreatest_matchesLeft hex
    refine ⟨a, ha, seekLeft_of_isGreatest hcanonical ha, ?_⟩
    rintro rfl
    exact unset_left_near hcanonical ha
  · rintro hnone rfl
    exact seekLeft_off_the_tape hcanonical hnone

/-- From the cell 0, with the cells 1, 2 and 5 set on its right and -2 and -4 on its left. -/
theorem seeks_find_nearest_among_five :
    let t : Tape := ⟨[(-4, 0), (-2, 0), (1, 4), (2, 8), (5, 4)], 0, 0⟩
    Reached t ∧
    IsLeast (t.matchesRight 4) 1 ∧ t.seekRight 4 = .ok { t with memory := 1 } ∧
    IsLeast (t.matchesRight unset) 3 ∧ t.seekRight unset = .ok { t with memory := 3 } ∧
    IsGreatest (t.matchesLeft 0) (-2) ∧ t.seekLeft 0 = .ok { t with memory := -2 } := by
  intro t
  have hreached : Reached t := by
    have hlow : Reached ⟨[(1, 4), (2, 8)], 0, 0⟩ :=
      (Reached.empty.apply (.set 1 4 (by decide)) rfl).apply (.set 2 8 (by decide)) rfl
    have hhigh : Reached ⟨[(1, 4), (2, 8), (5, 4)], 0, 0⟩ := hlow.apply (.set 5 4 (by decide)) rfl
    exact (hhigh.apply (.set (-2) 0 (by decide)) rfl).apply (.set (-4) 0 (by decide)) rfl
  have hright : t.seekRight 4 = .ok { t with memory := 1 } := rfl
  have hgap : t.seekRight unset = .ok { t with memory := 3 } := rfl
  have hleft : t.seekLeft 0 = .ok { t with memory := -2 } := rfl
  obtain ⟨a, ha, hsought, -⟩ :=
    (seeks_find_nearest hreached 4).1.1 ⟨5, by decide, by decide, by decide⟩
  obtain ⟨b, hb, hsought', -⟩ :=
    (seeks_find_nearest hreached unset).1.1 ⟨6, by decide, by decide, by decide⟩
  obtain ⟨c, hc, hsought'', -⟩ :=
    (seeks_find_nearest hreached 0).2.1 ⟨-4, by decide, by decide, by decide⟩
  obtain rfl : a = 1 := congrArg Tape.memory (Except.ok.inj (hsought.symm.trans hright))
  obtain rfl : b = 3 := congrArg Tape.memory (Except.ok.inj (hsought'.symm.trans hgap))
  obtain rfl : c = -2 := congrArg Tape.memory (Except.ok.inj (hsought''.symm.trans hleft))
  exact ⟨hreached, ha, hright, hb, hgap, hc, hleft⟩

end Tape

end Gridwalk
