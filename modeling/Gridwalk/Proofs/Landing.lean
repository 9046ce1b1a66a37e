import Gridwalk.Proofs.Failures

/-! # Where commands are executed

Every move ends inside the box, wherever it starts, and the search for a command ends on a cell that
has one. So the fault for a cell without a command is never raised. The move is exact here; that
64-bit positions are enough for it, if the sums are taken in 128 bits, is shown beside it.
-/

namespace Gridwalk
set_option autoImplicit false

open Act

/-! ## The move in fixed width -/

def Vec.IsStep (v : Vec) : Prop := (-1 ≤ v.x ∧ v.x ≤ 1) ∧ -1 ≤ v.y ∧ v.y ≤ 1

theorem Heading.isStep_vec (h : Heading) : h.vec.IsStep := by
  cases h <;> exact ⟨by decide, by decide⟩

theorem Pose.isStep_stepWithin (b : Box) (h : Heading) : (stepWithin b h).IsStep := by
  obtain ⟨hx, hy⟩ := h.isStep_vec
  refine ⟨?_, ?_⟩
  · dsimp only [stepWithin]
    split <;> omega
  · dsimp only [stepWithin]
    split <;> omega

theorem Box.Storable.fits_of_contains {b : Box} (h : b.Storable) {p : Vec} (hp : b.Contains p) :
    p.Fits := by
  obtain ⟨⟨⟨h₁, h₂⟩, -, ⟨h₃, h₄⟩, -⟩, ⟨h₅, h₆⟩, h₇, h₈⟩ := h
  obtain ⟨h₉, h₁₀, h₁₁, h₁₂⟩ := hp
  unfold Vec.Fits Word.Fits
  unfold Word.least Word.greatest at *
  omega

theorem Box.Storable.fits_low {b : Box} (h : b.Storable) : b.low.Fits :=
  h.fits_of_contains ⟨Int.le_refl _, b.x_le, Int.le_refl _, b.y_le⟩

namespace Wide

theorem corners_of_storable {b : Box} (h : b.Storable) : corners b = .ok (b.low, b.high) := by
  have hlow := h.fits_low
  obtain ⟨⟨-, hcolumns, -, hrows⟩, hhighX, hhighY⟩ := h
  have hX := b.high_x
  have hY := b.high_y
  have hpos := b.columns_pos
  have hpos' := b.rows_pos
  have hneg : Vec.Checked.neg (-b.low) = .ok b.low := by
    have hx : Word.neg (-b.low).x = .ok b.low.x :=
      Word.check_eq_ok_iff.mpr ⟨by simpa using hlow.1, by simp⟩
    have hy : Word.neg (-b.low).y = .ok b.low.y :=
      Word.check_eq_ok_iff.mpr ⟨by simpa using hlow.2, by simp⟩
    simp only [Vec.Checked.neg, hx, hy, bind, Except.bind, pure, Except.pure]
  have hwidth : Word.sub b.columns 1 = .ok (b.columns - 1) := by
    apply Word.sub_of_fits
    unfold Word.Fits Word.least Word.greatest at *
    omega
  have hheight : Word.sub b.rows 1 = .ok (b.rows - 1) := by
    apply Word.sub_of_fits
    unfold Word.Fits Word.least Word.greatest at *
    omega
  have hhigh : Vec.Checked.sub ⟨b.columns - 1, b.rows - 1⟩ (-b.low) = .ok b.high := by
    have hx' : b.columns - 1 - (-b.low).x = b.high.x := by rw [Vec.neg_x]; omega
    have hy' : b.rows - 1 - (-b.low).y = b.high.y := by rw [Vec.neg_y]; omega
    have hx : Word.sub (b.columns - 1) (-b.low).x = .ok b.high.x :=
      Word.check_eq_ok_iff.mpr ⟨hx'.symm ▸ hhighX, hx'.symm⟩
    have hy : Word.sub (b.rows - 1) (-b.low).y = .ok b.high.y :=
      Word.check_eq_ok_iff.mpr ⟨hy'.symm ▸ hhighY, hy'.symm⟩
    simp only [Vec.Checked.sub, hx, hy, bind, Except.bind, pure, Except.pure]
  simp only [corners, hneg, hwidth, hheight, hhigh, bind, Except.bind, pure, Except.pure]

theorem step_of_fits {p v : Vec} (hp : p.Fits) (hv : v.IsStep) : step p v = .ok (p + v) := by
  obtain ⟨⟨h₁, h₂⟩, h₃, h₄⟩ := hp
  obtain ⟨hx, hy⟩ := hv
  unfold Word.least at h₁ h₃
  unfold Word.greatest at h₂ h₄
  have hX : Fits (p.x + v.x) := by unfold Fits least greatest; omega
  have hY : Fits (p.y + v.y) := by unfold Fits least greatest; omega
  simp only [step, add_of_fits hX, add_of_fits hY, bind, Except.bind, pure, Except.pure]
  rfl

theorem wrapBetween_of_fits {low high n : Int} (hlow : Word.Fits low) (hhigh : Word.Fits high)
    (hle : low ≤ high) (hn : Word.least - 1 ≤ n ∧ n ≤ Word.greatest + 1) :
    wrapBetween low high n = .ok (low + (n - low) % (high - low + 1)) := by
  have hnonneg := Int.emod_nonneg (n - low) (show high - low + 1 ≠ 0 by omega)
  have hlt := Int.emod_lt_of_pos (n - low) (show 0 < high - low + 1 by omega)
  unfold Word.Fits Word.least Word.greatest at *
  have hdistance : Fits (n - low) := by unfold Fits least greatest; omega
  have hlength : Fits (high - low) := by unfold Fits least greatest; omega
  have hextent : Fits (high - low + 1) := by unfold Fits least greatest; omega
  have hwrapped : Fits (low + (n - low) % (high - low + 1)) := by
    unfold Fits least greatest
    omega
  have hnarrow : narrow (low + (n - low) % (high - low + 1)) =
      low + (n - low) % (high - low + 1) := by
    apply narrow_of_fits
    unfold Word.Fits Word.least Word.greatest
    omega
  simp only [wrapBetween, sub_of_fits hdistance, sub_of_fits hlength, add_of_fits hextent,
    add_of_fits hwrapped, hnarrow, bind, Except.bind, pure, Except.pure]

theorem wrap_of_fits {b : Box} (h : b.Storable) {p v : Vec} (hp : p.Fits) (hv : v.IsStep) :
    wrap b.low b.high (p + v) = .ok (b.wrap (p + v)) := by
  have hlow := h.fits_low
  obtain ⟨⟨h₁, h₂⟩, h₃, h₄⟩ := hp
  obtain ⟨hvx, hvy⟩ := hv
  have hX := b.high_x
  have hY := b.high_y
  have hx := wrapBetween_of_fits (n := (p + v).x) hlow.1 h.high_x b.x_le
    (by rw [Vec.add_x]; omega)
  have hy := wrapBetween_of_fits (n := (p + v).y) hlow.2 h.high_y b.y_le
    (by rw [Vec.add_y]; omega)
  have hcolumns : b.high.x - b.low.x + 1 = b.columns := by omega
  have hrows : b.high.y - b.low.y + 1 = b.rows := by omega
  rw [hcolumns] at hx
  rw [hrows] at hy
  simp only [wrap, hx, hy, bind, Except.bind, pure, Except.pure]
  rfl

theorem move_of_fits {b : Box} (h : b.Storable) {pose : Pose} (hp : pose.position.Fits) :
    move b pose = .ok (pose.move b) := by
  have hahead := step_of_fits hp pose.heading.isStep_vec
  have hwrap := wrap_of_fits h hp pose.heading.isStep_vec
  obtain ⟨position, heading, mode⟩ := pose
  cases mode with
  | cardinal =>
    simp only [move, corners_of_storable h, hahead, hwrap, bind, Except.bind, pure, Except.pure]
    rfl
  | ordinal =>
    have hbounce : bounce b b.low b.high (position + heading.vec) heading =
        Pose.bounce b position heading := rfl
    have hstep := Pose.isStep_stepWithin b (Pose.bounce b position heading)
    have hnext := step_of_fits hp hstep
    have hwrap' := wrap_of_fits h hp hstep
    simp only [move, corners_of_storable h, hahead, hbounce, hnext, hwrap', bind, Except.bind, pure,
      Except.pure]
    rfl

end Wide

/-! ## The search ends on a command -/

theorem Pose.executable_seekWithin {g : Grid} {inLiteral : Bool} {n : Nat} {pose : Pose}
    (h : (seekWithin g inLiteral n pose).2 = true) :
    (seekWithin g inLiteral n pose).1.Executable g inLiteral ∧
      g.box.Contains (seekWithin g inLiteral n pose).1.position := by
  induction n generalizing pose with
  | zero => cases h
  | succ n ih =>
    rw [seekWithin_succ] at h ⊢
    split
    · rename_i hfound
      exact ⟨(found_advance_iff g inLiteral pose).mp hfound, contains_advance g inLiteral pose⟩
    · rename_i hfound
      rw [if_neg hfound] at h
      exact ih h

theorem seekCommand_eq_ok {m w : Machine} (h : seekCommand m = .ok () w) :
    w = { m with pose := w.pose } ∧ w.pose.Executable w.grid w.literal.isSome ∧
      w.grid.box.Contains w.position := by
  rw [seekCommand_eq] at h
  dsimp only at h
  split at h
  · rename_i hfound
    cases h
    exact ⟨rfl, Pose.executable_seekWithin hfound⟩
  · cases h

theorem seekCommand_eq_error {m w : Machine} {fault : Fault} (h : seekCommand m = .error fault w) :
    w = { m with pose := w.pose } ∧
      fault = .noReachableCommand w.position (Pose.patience m.grid) := by
  rw [seekCommand_eq] at h
  dsimp only at h
  split at h
  · cases h
  · cases h
    exact ⟨rfl, rfl⟩

theorem step_eq_error {m m' : Machine} {fault : Fault} (h : step m = .error fault m') :
    m.done = false ∧ (seekCommand m = .error fault m' ∨
      ∃ w, seekCommand m = .ok () w ∧ executeCell w = .error fault m') := by
  cases hdone : m.done with
  | true =>
    rw [step, get_bind, hdone] at h
    cases h
  | false =>
    refine ⟨rfl, ?_⟩
    cases hseek : seekCommand m with
    | error fault' w =>
      rw [step_of_seek_error hdone hseek] at h
      cases h
      exact .inl rfl
    | ok _ w =>
      cases hexecute : executeCell w with
      | error fault' w' =>
        rw [step_of_execute_error hdone hseek hexecute] at h
        cases h
        exact .inr ⟨w, rfl, hexecute⟩
      | ok _ w' =>
        rw [step_of_execute hdone hseek hexecute] at h
        cases h

theorem executeCell_eq_error {w m' : Machine} {fault : Fault}
    (hexecutable : w.pose.Executable w.grid w.literal.isSome)
    (h : executeCell w = .error fault m') :
    w.literal = none ∧ ∃ op, Command.ofCell? w.cell w.mode = some op ∧
      repeated op.perform w = .error fault m' := by
  cases hliteral : w.literal with
  | some captured =>
    rw [executeCell_of_literal hliteral] at h
    exact (failsWith_literalCell (P := fun _ => False) captured w.cell w fault m' h).elim
  | none =>
    rw [hliteral] at hexecutable
    obtain ⟨op, hop⟩ := Option.isSome_iff_exists.mp
      (hexecutable.2.resolve_left Bool.false_ne_true)
    refine ⟨rfl, op, hop, ?_⟩
    by_cases hopen : op = .shared .openLiteral
    · subst hopen
      rw [executeCell_of_openLiteral hliteral hop] at h
      cases h
    · rw [executeCell_of_command hliteral hop hopen] at h
      exact h

/-- A move ends inside the box, also in fixed width. So whatever the machine, a search that succeeds
ends inside the box on a cell that is not terrain and, outside a literal, is a command of the mode;
and no tick fails because the cell under the pointer is no command. -/
theorem commands_run_on_their_cells :
    (∀ (b : Box) (pose : Pose), b.Contains (pose.move b).position ∧
      (b.Storable → pose.position.Fits →
        Wide.move b pose = .ok (pose.move b) ∧ (pose.move b).position.Fits)) ∧
    (∀ m w : Machine, seekCommand m = .ok () w →
      w.grid = m.grid ∧ w.grid.box.Contains w.position ∧ Terrain.ofCell? w.cell = none ∧
        (w.literal = none → ∃ op, Command.ofCell? w.cell w.mode = some op)) ∧
    ∀ (m m' : Machine) (fault : Fault), step m = .error fault m' →
      ∀ cell place mode, fault ≠ .unknownCommand cell place mode := by
  refine ⟨fun b pose => ⟨pose.contains_move b, fun hb hp => ?_⟩, fun m w h => ?_,
    fun m m' fault h cell place mode hfault => ?_⟩
  · exact ⟨Wide.move_of_fits hb hp, hb.fits_of_contains (pose.contains_move b)⟩
  · obtain ⟨hw, hexecutable, hin⟩ := seekCommand_eq_ok h
    refine ⟨by rw [hw], hin, hexecutable.1, fun hliteral => ?_⟩
    rw [hliteral] at hexecutable
    exact Option.isSome_iff_exists.mp (hexecutable.2.resolve_left Bool.false_ne_true)
  · subst hfault
    obtain ⟨-, hseek | ⟨w, hseek, hexecute⟩⟩ := step_eq_error h
    · cases (seekCommand_eq_error hseek).2
    · obtain ⟨-, op, -, hperform⟩ := executeCell_eq_error (seekCommand_eq_ok hseek).2.1 hexecute
      rcases failsWith_repeated op.failsWith_perform w _ m' hperform with
        ⟨cause, hcause⟩ | ⟨_, hraised⟩
      · cases hcause
      · exact hraised

/-- From the corner of the space of positions a step to the north-east comes back into a box in the
opposite corner, and a division by zero is reported as such. -/
theorem commands_run_on_their_cells_in_the_corner :
    let b := Box.span ⟨-0x7FFFFFFFFFFFFFFF, 5⟩ ⟨-0x7FFFFFFFFFFFFFFE, 6⟩
    let pose : Pose := ⟨⟨0x7FFFFFFFFFFFFFFF, -0x8000000000000000⟩, .northEast, .ordinal⟩
    let m : Machine := { Machine.load (.tabulate b fun _ => Text.code ':') [] (.ofBytes []) .empty
      .first "" with pose := ⟨pose.position, .east, .cardinal⟩ }
    Wide.move b pose = .ok (pose.move b) ∧ b.Contains (pose.move b).position ∧
    (∃ w, seekCommand m = .ok () w ∧ b.Contains w.position ∧ Terrain.ofCell? w.cell = none) ∧
    ∃ fault m', step m = .error fault m' ∧
      ∀ cell place mode, fault ≠ .unknownCommand cell place mode := by
  intro b pose m
  have hstorable : b.Storable := ⟨by decide, by decide, by decide⟩
  have hmove := commands_run_on_their_cells.1 b pose
  have hseek : seekCommand m = .ok () (seekCommand.last m) :=
    eq_ok_last_of_run' (by decide +kernel)
  obtain ⟨hgrid, hin, hterrain, -⟩ := commands_run_on_their_cells.2.1 m _ hseek
  rw [hgrid] at hin
  have hfails : (step.fault? m).isSome = true := by decide +kernel
  obtain ⟨fault, hfault⟩ := Option.isSome_iff_exists.mp hfails
  have hstep := eq_error_last_of_fault? hfault
  exact ⟨(hmove.2 hstorable ⟨by decide, by decide⟩).1, hmove.1, ⟨_, hseek, hin, hterrain⟩, fault, _,
    hstep, commands_run_on_their_cells.2.2 m _ fault hstep⟩

end Gridwalk
