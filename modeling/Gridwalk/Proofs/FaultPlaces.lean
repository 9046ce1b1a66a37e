import Gridwalk.Proofs.FailedTicks

/-! # The place that a fault tells

A fault of a command tells where the pointer is when the command fails. The failing execution itself
has not moved the pointer, and of the commands whose faults tell a place only the jump and the call
to a position ever move it. So the place is the cell of the command, unless one of these two is
repeated: then it is where the last execution before the failing one has led.
-/

namespace Gridwalk
set_option autoImplicit false

open Act

namespace Fault

def commandPlace? : Fault → Option Vec
  | divisionByZero p | invalidCodePoint _ p | coordinateOutOfRange _ p | positionOutOfRange _ p
  | cellOutOfRange _ p | exponentTooLarge _ p => some p
  | unknownCommand .. | noReachableCommand .. | stream _ | overflow _ => none

theorem IsRaisedAt.eq_of_commandPlace? {fault : Fault} {p q : Vec} (h : fault.IsRaisedAt q)
    (hp : fault.commandPlace? = some p) : p = q := by
  cases fault with
  | divisionByZero | invalidCodePoint | coordinateOutOfRange | positionOutOfRange | cellOutOfRange
  | exponentTooLarge =>
    cases hp
    exact h
  | unknownCommand | noReachableCommand | stream | overflow => cases hp

end Fault

theorem Command.commandPlace?_perform {op : Command} {m m' : Machine} {fault : Fault} {p : Vec}
    (h : op.perform m = .error fault m') (hp : fault.commandPlace? = some p) : p = m.position := by
  by_cases hop : op = .ordinal .writeAfterLabel
  · subst hop
    obtain ⟨-, -, -, -, -, -, -, -, hraised, -⟩ := perform_writeAfterLabel_eq_error h
    exact hraised.eq_of_commandPlace? hp
  · cases op.cleanly_perform hop m fault m' h with
    | stream cause => cases hp
    | operands hraised => exact hraised.eq_of_commandPlace? hp

/-! ## Commands that leave the pointer where it is -/

namespace Act

def Stays {α : Type} (act : Act α) : Prop := ∀ m a m', act m = .ok a m' → m'.position = m.position

section Combinators

variable {α β : Type}

theorem Stays.pure (a : α) : Stays (Pure.pure a) := by
  intro m b m' h
  cases h
  rfl

theorem Stays.modifyGet {f : Machine → α × Machine} (hf : ∀ m, (f m).2.position = m.position) :
    Stays (modifyGet f) := by
  intro m a m' h
  cases h
  exact hf m

theorem Stays.modify {f : Machine → Machine} (hf : ∀ m, (f m).position = m.position) :
    Stays (modify f) := Stays.modifyGet hf

theorem Stays.bind {x : Act α} {f : α → Act β} (hx : Stays x) (hf : ∀ a, Stays (f a)) :
    Stays (x >>= f) := by
  intro m b m' h
  cases hfirst : x m with
  | ok a m₁ =>
    rw [bind_of_ok hfirst] at h
    exact (hf a m₁ b m' h).trans (hx m a m₁ hfirst)
  | error fault m₁ =>
    rw [bind_of_error hfirst] at h
    cases h

theorem Stays.get_bind {f : Machine → Act β} (hf : ∀ m, Stays (f m)) : Stays (get >>= f) :=
  fun m => hf m m

theorem Stays.ite {p : Prop} [Decidable p] {x y : Act α} (hx : Stays x) (hy : Stays y) :
    Stays (if p then x else y) := by
  split
  · exact hx
  · exact hy

theorem Stays.forM {xs : List α} {f : α → Act Unit} (hf : ∀ x, Stays (f x)) :
    Stays (xs.forM f) := by
  induction xs with
  | nil => exact .pure _
  | cons x xs ih => exact (hf x).bind fun _ => ih

theorem Local.stays {reads : Bool} {act : Act α} (h : Local reads act) : Stays act := by
  intro m a m' hok
  rw [h.adopt_of_ok hok]
  rfl

theorem stays_failHere (fault : Vec → Fault) : Stays (failHere fault : Act α) := by
  intro m a m' h
  cases h

theorem stays_writeCell (p : Vec) (cell : Int) : Stays (writeCell p cell) := by
  intro m a m' h
  by_cases hroom : HasRoom m.grid p cell
  · rw [writeCell_of_hasRoom hroom] at h
    cases h
    rfl
  · rw [writeCell_of_not_hasRoom hroom] at h
    cases h

end Combinators

end Act

theorem stays_writeBehind (v p : Vec) (s : List Char) : Stays (writeBehind v p s) := by
  induction s generalizing p with
  | nil => exact .pure _
  | cons c rest ih => exact (stays_writeCell _ _).bind fun _ => ih (p + v)

def Command.jumps : Command → Bool
  | cardinal .call | cardinal .jump => true
  | _ => false

theorem stays_cardinal {op : Cardinal} (h : (Command.cardinal op).jumps = false) :
    Stays op.perform := by
  have hint : Stays popInt := (@local_popInt false).stays
  have hposition : Stays popPosition := (@local_popPosition false).stays
  by_cases hstraight : op.isStraight = true
  · exact (local_cardinal hstraight).stays
  cases op with
  | faceWest | faceEast | faceNorth | faceSouth => exact .modify fun _ => rfl
  | turnLeft | turnRight => exact .get_bind fun _ => .modify fun _ => rfl
  | turnBySign => exact hint.bind fun _ => .get_bind fun _ => .modify fun _ => rfl
  | skipIfZero => exact hint.bind fun _ => .ite (.modify fun _ => rfl) (.pure _)
  | writeCell =>
    exact hint.bind fun _ => hposition.bind fun _ => .ite (stays_writeCell _ _) (stays_failHere _)
  | random =>
    exact hint.bind fun _ => (Stays.modifyGet fun _ => rfl).bind fun _ => .modify fun _ => rfl
  | pause => exact hint.bind fun _ => .modify fun _ => rfl
  | call | jump => cases h
  | _ => exact absurd rfl hstraight

/-- In ordinal mode the commands that move the pointer cannot fail. -/
theorem stays_or_succeeds_ordinal (op : Ordinal) :
    Stays op.perform ∨ FailsWith (fun _ => False) op.perform := by
  have htext : Stays popText := (@local_popText false).stays
  by_cases hstraight : op.isStraight = true
  · exact .inl (local_ordinal hstraight).stays
  cases op with
  | strafeLeft | strafeRight => exact .inr (.modify _)
  | call => exact .inr failsWith_callLabel
  | jump => exact .inr failsWith_jumpLabel
  | writeAfterLabel =>
    refine .inl (htext.bind fun s => local_popLabelEnd?.stays.bind fun target => ?_)
    cases target with
    | some p => exact .get_bind fun m => stays_writeBehind _ _ _
    | none => exact .pure _
  | shuffle | randomChar =>
    exact .inl (htext.bind fun _ => (Stays.modifyGet fun _ => rfl).bind fun _ =>
      .modify fun _ => rfl)
  | ensureWest | ensureEast | ensureNorth | ensureSouth =>
    exact .inl (.get_bind fun _ => .ite (.modify fun _ => rfl) (.pure _))
  | compare =>
    exact .inl ((@local_popTexts false).stays.bind fun _ => .get_bind fun _ =>
      .modify fun _ => rfl)
  | skipIfEmpty => exact .inl (htext.bind fun _ => .ite (.modify fun _ => rfl) (.pure _))
  | time => exact .inl (.get_bind fun _ => .modify fun _ => rfl)
  | _ => exact absurd rfl hstraight

theorem Command.stays_or_succeeds {op : Command} (h : op.jumps = false) :
    Stays op.perform ∨ FailsWith (fun _ => False) op.perform := by
  cases op with
  | shared op => exact .inr (failsWith_shared op)
  | cardinal op => exact .inl (stays_cardinal h)
  | ordinal op => exact stays_or_succeeds_ordinal op

/-! ## The executions of a tick -/

def Repetition.turns : Repetition → List (List Value)
  | times n => List.replicate n []
  | each s => s.toList.map fun c => [.ofChars [c]]

def turn (act : Act Unit) (pushed : List Value) : Act Unit := do
  if (← get).done then return
  pushAll pushed
  act

section Turns

variable {act : Act Unit} {m m' : Machine} {pushed : List Value} {turns : List (List Value)}
  {fault : Fault} {p : Vec}

theorem turn_of_running (act : Act Unit) (pushed : List Value) (hdone : m.done = false) :
    turn act pushed m = act { m with stack := m.stack.pushAll pushed } := by
  rw [turn, get_bind, if_neg (Bool.eq_false_iff.mp hdone)]
  rfl

theorem turn_of_done (act : Act Unit) (pushed : List Value) (hdone : m.done = true) :
    turn act pushed m = .ok () m := by
  rw [turn, get_bind, if_pos hdone]
  rfl

theorem forM_turn_of_done (act : Act Unit) (turns : List (List Value)) (hdone : m.done = true) :
    turns.forM (turn act) m = .ok () m := by
  induction turns with
  | nil => rfl
  | cons pushed turns ih => rw [forM_cons_of_ok (turn_of_done act pushed hdone), ih]

theorem repeatTimes_eq_forM_turn (act : Act Unit) (n : Nat) :
    repeatTimes act n = (List.replicate n []).forM (turn act) := by
  induction n with
  | zero => rfl
  | succ n ih =>
    funext m
    rw [repeatTimes, get_bind, List.replicate_succ, ih]
    cases hdone : m.done with
    | true => exact (forM_turn_of_done act _ hdone).symm
    | false => exact (bind_eq_of_eq _ (turn_of_running act [] hdone)).symm

theorem repeatEach_eq_forM_turn (act : Act Unit) (s : List Char) :
    repeatEach act s = (s.map fun c => [.ofChars [c]]).forM (turn act) := by
  induction s with
  | nil => rfl
  | cons c s ih =>
    funext m
    rw [repeatEach, get_bind, List.map_cons, ih]
    cases hdone : m.done with
    | true => exact (forM_turn_of_done act _ hdone).symm
    | false => exact (bind_eq_of_eq _ (turn_of_running act [.ofChars [c]] hdone)).symm

theorem repeated_eq_forM_turn (act : Act Unit) (m : Machine) :
    repeated act m = (m.queue.headD (.times 1)).turns.forM (turn act)
      { m with queue := m.queue.drop 1 } := by
  have htake : takeRepetition m =
      .ok (m.queue.headD (.times 1)) { m with queue := m.queue.drop 1 } := rfl
  rw [repeated, bind_of_ok htake]
  cases m.queue.headD (.times 1) with
  | times n => exact congrFun (repeatTimes_eq_forM_turn act n) _
  | each s => exact congrFun (repeatEach_eq_forM_turn act s.toList) _

theorem turn_eq_error (h : turn act pushed m = .error fault m') :
    act { m with stack := m.stack.pushAll pushed } = .error fault m' := by
  rcases Bool.eq_false_or_eq_true m.done with hdone | hdone
  · rw [turn_of_done act pushed hdone] at h
    cases h
  · rw [turn_of_running act pushed hdone] at h
    exact h

theorem stays_turn (h : Stays act) (pushed : List Value) : Stays (turn act pushed) :=
  .get_bind fun _ => .ite (.pure _) (Stays.bind (.modify fun _ => rfl) fun _ => h)

theorem commandPlace?_of_stays {op : Command} (hstays : Stays op.perform)
    (h : turns.forM (turn op.perform) m = .error fault m') (hp : fault.commandPlace? = some p) :
    p = m.position := by
  obtain ⟨before, pushed, after, mid, -, hbefore, hturn⟩ := forM_eq_error h
  have hmid : mid.position = m.position :=
    Stays.forM (stays_turn hstays) m () mid hbefore
  exact (Command.commandPlace?_perform (turn_eq_error hturn) hp).trans hmid

end Turns

/-! ## Repeated jumps -/

namespace Stack

def popVec (s : Stack) : Vec × Stack :=
  let (y, below) := s.popInt
  let (x, rest) := below.popInt
  (⟨x, y⟩, rest)

/-- The targets of successive jumps, up to the first one that is out of range. Values are pushed
before each jump. -/
def targets : List (List Value) → Stack → List Vec
  | [], _ => []
  | pushed :: turns, s =>
    let popped := (s.pushAll pushed).popVec
    if popped.1.Fits then popped.1 :: targets turns popped.2 else []

end Stack

section Jumps

variable {op : Command} {m m' : Machine} {turns : List (List Value)} {fault : Fault} {p : Vec}

theorem popPair_eq (m : Machine) :
    popPair m = .ok (m.stack.popVec.1.x, m.stack.popVec.1.y) { m with stack := m.stack.popVec.2 } :=
  rfl

theorem popPosition_of_fits (h : m.stack.popVec.1.Fits) :
    popPosition m = .ok m.stack.popVec.1 { m with stack := m.stack.popVec.2 } := by
  rw [popPosition, bind_of_ok (popPair_eq m)]
  simp only [coordinate, if_pos h.1, if_pos h.2]
  rfl

theorem popPosition_of_not_fits (h : ¬ m.stack.popVec.1.Fits) :
    ∃ fault m', popPosition m = .error fault m' := by
  rw [popPosition, bind_of_ok (popPair_eq m)]
  by_cases hx : Word.Fits m.stack.popVec.1.x
  · have hy : ¬ Word.Fits m.stack.popVec.1.y := fun hy => h ⟨hx, hy⟩
    simp only [coordinate, if_pos hx, if_neg hy]
    exact ⟨_, _, rfl⟩
  · simp only [coordinate, if_neg hx]
    exact ⟨_, _, rfl⟩

theorem Command.perform_of_fits (hop : op.jumps = true) (h : m.stack.popVec.1.Fits) :
    ∃ m', op.perform m = .ok () m' ∧ m'.position = m.stack.popVec.1 ∧
      m'.stack = m.stack.popVec.2 ∧ m'.done = m.done := by
  have hpop := popPosition_of_fits h
  cases op with
  | cardinal op =>
    cases op with
    | call | jump => exact ⟨_, bind_of_ok hpop, rfl, rfl, rfl⟩
    | _ => cases hop
  | shared | ordinal => cases hop

theorem Command.perform_of_not_fits (hop : op.jumps = true) (h : ¬ m.stack.popVec.1.Fits) :
    ∃ fault m', op.perform m = .error fault m' := by
  obtain ⟨fault, m', hpop⟩ := popPosition_of_not_fits h
  cases op with
  | cardinal op =>
    cases op with
    | call | jump => exact ⟨fault, m', bind_of_error hpop⟩
    | _ => cases hop
  | shared | ordinal => cases hop

theorem commandPlace?_of_jumps (hop : op.jumps = true) (hdone : m.done = false)
    (h : turns.forM (turn op.perform) m = .error fault m') (hp : fault.commandPlace? = some p) :
    p = (m.stack.targets turns).getLastD m.position := by
  induction turns generalizing m with
  | nil => cases h
  | cons pushed turns ih =>
    have hturn := turn_of_running op.perform pushed hdone
    by_cases hfits : (m.stack.pushAll pushed).popVec.1.Fits
    · obtain ⟨m₁, hperform, hposition, hstack, hsame⟩ :=
        Command.perform_of_fits (m := { m with stack := m.stack.pushAll pushed }) hop hfits
      rw [forM_cons_of_ok (hturn.trans hperform)] at h
      have hrest := ih (hsame.trans hdone) h
      rw [hposition, hstack] at hrest
      rw [Stack.targets, if_pos hfits, List.getLastD_cons]
      exact hrest
    · obtain ⟨fault', m₁, hperform⟩ :=
        Command.perform_of_not_fits (m := { m with stack := m.stack.pushAll pushed }) hop hfits
      rw [forM_cons_of_error (hturn.trans hperform)] at h
      cases h
      rw [Stack.targets, if_neg hfits, List.getLastD_nil]
      exact Command.commandPlace?_perform (m := { m with stack := m.stack.pushAll pushed }) hperform
        hp

end Jumps

/-- The place that a fault of a tick tells is the cell of the command, to which the tick has walked,
except for the jump and the call to a position. Theirs is the target of the last execution before
the failing one, and only if there is none it is the cell of the command. -/
theorem fault_names_command_or_last_target {m m' : Machine} {fault : Fault} {p : Vec}
    (hfails : step m = .error fault m') (hplace : fault.commandPlace? = some p) :
    ∃ op w, m.Reaches op w ∧
      p = if op.jumps then
          (m.stack.targets (m.queue.headD (.times 1)).turns).getLastD w.position
        else w.position := by
  obtain ⟨hdone, hseek | ⟨w, hseek, hexecute⟩⟩ := step_eq_error hfails
  · obtain ⟨-, rfl⟩ := seekCommand_eq_error hseek
    cases hplace
  obtain ⟨hw, hexecutable, -⟩ := seekCommand_eq_ok hseek
  obtain ⟨hliteral, op, hop, hrepeated⟩ := executeCell_eq_error hexecutable hexecute
  obtain ⟨pose, rfl⟩ : ∃ pose, w = { m with pose } := ⟨w.pose, hw⟩
  refine ⟨op, _, ⟨hseek, hliteral, hop⟩, ?_⟩
  have hturns := (repeated_eq_forM_turn op.perform { m with pose }).symm.trans hrepeated
  split
  · rename_i hjumps
    exact commandPlace?_of_jumps (m := { m with pose, queue := m.queue.drop 1 }) hjumps hdone
      hturns hplace
  · rename_i hjumps
    rcases op.stays_or_succeeds (Bool.eq_false_iff.mpr hjumps) with hstays | hsucceeds
    · exact commandPlace?_of_stays (m := { m with pose, queue := m.queue.drop 1 }) hstays hturns
        hplace
    · exact (failsWith_repeated hsucceeds _ fault m' hrepeated).elim

/-- A call that a text repeats fails the second time, away from its cell. A division by zero in the
third of three executions tells the cell of the division. -/
theorem fault_names_command_or_last_target_repeated :
    let start (source : String) : Machine :=
      .load (.ofSource source) [] (.ofBytes []) .empty .first ""
    let m : Machine := { start "j@" with
      stack := [.integer 5, .integer 0x8000000000000000]
      queue := [.each "71"] }
    let d : Machine := { start " :@" with
      stack := [.integer 2, .integer 12]
      queue := [.times 3] }
    (∃ op w m', step m = .error (.coordinateOutOfRange 0x8000000000000000 ⟨5, 7⟩) m' ∧
      m.Reaches op w ∧ op.jumps = true ∧ w.position = ⟨0, 0⟩ ∧
      ⟨5, 7⟩ = (m.stack.targets [[.text "7"], [.text "1"]]).getLastD w.position) ∧
    ∃ op w m', step d = .error (.divisionByZero ⟨1, 0⟩) m' ∧ d.Reaches op w ∧ op.jumps = false ∧
      ⟨1, 0⟩ = w.position := by
  intro start m d
  have hjump : step m =
      .error (.coordinateOutOfRange 0x8000000000000000 ⟨5, 7⟩) (step.last m) :=
    eq_error_last_of_fault? (by decide +kernel)
  have hdivide : step d = .error (.divisionByZero ⟨1, 0⟩) (step.last d) :=
    eq_error_last_of_fault? (by decide +kernel)
  have hseek : seekCommand m = .ok () (seekCommand.last m) :=
    eq_ok_last_of_run' (by decide +kernel)
  have hseek' : seekCommand d = .ok () (seekCommand.last d) :=
    eq_ok_last_of_run' (by decide +kernel)
  have hcall : m.Reaches (.cardinal .call) (seekCommand.last m) :=
    ⟨hseek, by decide +kernel, by decide +kernel⟩
  have hdivision : d.Reaches (.cardinal (.division .quotient)) (seekCommand.last d) :=
    ⟨hseek', by decide +kernel, by decide +kernel⟩
  obtain ⟨op, w, hreaches, hplace⟩ := fault_names_command_or_last_target hjump rfl
  obtain ⟨op', w', hreaches', hplace'⟩ := fault_names_command_or_last_target hdivide rfl
  obtain ⟨rfl, rfl⟩ := hcall.unique hreaches
  obtain ⟨rfl, rfl⟩ := hdivision.unique hreaches'
  exact ⟨⟨_, _, _, hjump, hcall, rfl, by decide +kernel, hplace⟩,
    ⟨_, _, _, hdivide, hdivision, rfl, hplace'⟩⟩

/-- A program that jumps twice in its last tick. The second jump fails, and the fault tells the
target of the first one instead of the cell of the jump, which is the last one of the row. -/
theorem repeated_jump_fault_names_target :
    let start := Machine.load (.ofSource "279*E0572&J") [] (.ofBytes []) .empty .first ""
    let m := (runFor 10).last start
    ∃ w m', m.Reaches (.cardinal .jump) w ∧ w.position = ⟨10, 0⟩ ∧
      step m = .error (.coordinateOutOfRange 0x8000000000000000 ⟨5, 7⟩) m' := by
  intro start m
  have hseek : seekCommand m = .ok () (seekCommand.last m) :=
    eq_ok_last_of_run' (by decide +kernel)
  have hfails : step m = .error (.coordinateOutOfRange 0x8000000000000000 ⟨5, 7⟩) (step.last m) :=
    eq_error_last_of_fault? (by decide +kernel)
  exact ⟨_, _, ⟨hseek, by decide +kernel, by decide +kernel⟩, by decide +kernel, hfails⟩

end Gridwalk
