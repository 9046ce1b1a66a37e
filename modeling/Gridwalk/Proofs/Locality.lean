import Gridwalk.Machine.Step
import Mathlib.Tactic.SplitIfs

/-! # Commands that work on data only

Most commands work on the stack, the tape, the arguments and the streams, and on nothing else. Such
a command does the same in every machine with these data: where the pointer is and how many ticks
have passed does not matter, except that a fault tells the place. Of everything else only the mode is
looked at and, by the two commands that read cells, the grid and the heading.
-/

namespace Gridwalk
set_option autoImplicit false

open Act

def Fault.relocate (place : Vec) : Fault → Fault
  | unknownCommand cell _ mode => unknownCommand cell place mode
  | divisionByZero _ => divisionByZero place
  | invalidCodePoint value _ => invalidCodePoint value place
  | coordinateOutOfRange value _ => coordinateOutOfRange value place
  | positionOutOfRange target _ => positionOutOfRange target place
  | cellOutOfRange value _ => cellOutOfRange value place
  | exponentTooLarge value _ => exponentTooLarge value place
  | noReachableCommand _ steps => noReachableCommand place steps
  | stream cause => stream cause
  | overflow cause => overflow cause

theorem Fault.relocate_relocate (fault : Fault) (p q : Vec) :
    (fault.relocate p).relocate q = fault.relocate q := by
  cases fault <;> rfl

namespace Machine

/-- A machine with the data of another one. -/
def adopt (frame m : Machine) : Machine :=
  { frame with
    stack := m.stack, tape := m.tape, arguments := m.arguments, input := m.input
    output := m.output }

/-- Whether two machines look the same to a command that may read cells or not. -/
structure Agree (reads : Bool) (m frame : Machine) : Prop where
  mode : m.mode = frame.mode
  grid : reads = true → m.grid = frame.grid
  heading : reads = true → m.heading = frame.heading

theorem Agree.of_mode {m frame : Machine} (h : m.mode = frame.mode) : m.Agree false frame where
  mode := h
  grid hreads := absurd hreads Bool.false_ne_true
  heading hreads := absurd hreads Bool.false_ne_true

theorem Agree.refl (reads : Bool) (m : Machine) : m.Agree reads m := ⟨rfl, fun _ => rfl, fun _ => rfl⟩

end Machine

def transfer {α : Type} (frame : Machine) :
    EStateM.Result Fault Machine α → EStateM.Result Fault Machine α
  | .ok a m => .ok a (frame.adopt m)
  | .error fault m => .error (fault.relocate frame.position) (frame.adopt m)

namespace Act

/-- Whether an act works on data only. -/
def Local (reads : Bool) {α : Type} (act : Act α) : Prop :=
  ∀ m frame : Machine, m.Agree reads frame → act (frame.adopt m) = transfer frame (act m)

section Combinators

variable {α β : Type} {reads : Bool}

theorem Local.adopt_of_ok {x : Act α} (hx : Local reads x) {m m' : Machine} {a : α}
    (h : x m = .ok a m') : m' = m.adopt m' := by
  have hself : x m = transfer m (x m) := hx m m (.refl reads m)
  rw [h] at hself
  exact (EStateM.Result.ok.inj hself).2

theorem Local.done_of_ok {x : Act α} (hx : Local reads x) {m m' : Machine} {a : α}
    (h : x m = .ok a m') : m'.done = m.done := by
  rw [hx.adopt_of_ok h]
  rfl

theorem Local.weaken {x : Act α} (hx : Local reads x) : Local true x := by
  intro m frame hagree
  exact hx m frame ⟨hagree.mode, fun _ => hagree.grid rfl, fun _ => hagree.heading rfl⟩

theorem Local.pure (a : α) : Local reads (Pure.pure a) := fun _ _ _ => rfl

theorem Local.bind {x : Act α} {f : α → Act β} (hx : Local reads x) (hf : ∀ a, Local reads (f a)) :
    Local reads (x >>= f) := by
  intro m frame hagree
  have hfirst := hx m frame hagree
  cases h : x m with
  | ok a m' =>
    have hsame := hx.adopt_of_ok h
    have hagree' : m'.Agree reads frame := by
      rw [hsame]
      exact ⟨hagree.mode, hagree.grid, hagree.heading⟩
    rw [h] at hfirst
    rw [bind_of_ok h, bind_of_ok hfirst]
    exact hf a m' frame hagree'
  | error fault m' =>
    rw [h] at hfirst
    rw [bind_of_error h, bind_of_error hfirst]
    rfl

theorem Local.get_bind {f : Machine → Act β}
    (hf : ∀ m frame : Machine, m.Agree reads frame →
      f (frame.adopt m) (frame.adopt m) = transfer frame (f m m)) :
    Local reads (get >>= f) := hf

theorem Local.ite {p : Prop} [Decidable p] {x y : Act α} (hx : Local reads x)
    (hy : Local reads y) : Local reads (if p then x else y) := by
  split
  · exact hx
  · exact hy

theorem Local.forM {xs : List α} {f : α → Act Unit} (h : ∀ x ∈ xs, Local reads (f x)) :
    Local reads (xs.forM f) := by
  induction xs with
  | nil => exact .pure ()
  | cons x xs ih =>
    exact (h x List.mem_cons_self).bind fun _ => ih fun y hy => h y (List.mem_cons_of_mem x hy)

end Combinators

section Lists

variable {α : Type} {x : α} {xs : List α} {f : α → Act Unit} {m m' : Machine} {fault : Fault}

theorem forM_cons_of_ok (h : f x m = .ok () m') : (x :: xs).forM f m = xs.forM f m' :=
  bind_of_ok h

theorem forM_cons_of_error (h : f x m = .error fault m') :
    (x :: xs).forM f m = .error fault m' :=
  bind_of_error h

theorem forM_eq_error (h : xs.forM f m = .error fault m') :
    ∃ before y after mid, xs = before ++ y :: after ∧ before.forM f m = .ok () mid ∧
      f y mid = .error fault m' := by
  induction xs generalizing m with
  | nil => cases h
  | cons x xs ih =>
    cases hx : f x m with
    | error fault' m₁ =>
      rw [forM_cons_of_error hx] at h
      cases h
      exact ⟨[], x, xs, m, rfl, rfl, hx⟩
    | ok _ m₁ =>
      rw [forM_cons_of_ok hx] at h
      obtain ⟨before, y, after, mid, rfl, hbefore, hy⟩ := ih h
      exact ⟨x :: before, y, after, mid, rfl, (forM_cons_of_ok hx).trans hbefore, hy⟩

end Lists

section Primitives

variable {α : Type} {reads : Bool}

theorem local_failHere {fault : Vec → Fault} (h : ∀ p q, (fault p).relocate q = fault q) :
    Local reads (failHere fault : Act α) := by
  refine .get_bind fun m frame _ => ?_
  change _ = EStateM.Result.error ((fault m.position).relocate frame.position) (frame.adopt m)
  rw [h]
  rfl

theorem local_push (v : Value) : Local reads (push v) := fun _ _ _ => rfl

theorem local_pushInt (n : Int) : Local reads (pushInt n) := local_push _

theorem local_pushText (s : List Char) : Local reads (pushText s) := local_push _

theorem local_pushAll (values : List Value) : Local reads (pushAll values) := fun _ _ _ => rfl

theorem local_popInt : Local reads popInt := fun _ _ _ => rfl

theorem local_popText : Local reads popText := fun _ _ _ => rfl

theorem local_popValue : Local reads popValue := by
  intro m frame hagree
  change EStateM.Result.ok (m.stack.popValue frame.mode).1
    (frame.adopt { m with stack := (m.stack.popValue frame.mode).2 }) = _
  rw [← hagree.mode]
  rfl

theorem local_modifyStack (f : Stack → Stack) : Local reads (modifyStack f) := fun _ _ _ => rfl

theorem onTape_of_ok {change : Tape → Except Overflow Tape} {m : Machine} {t : Tape}
    (h : change m.tape = .ok t) : onTape change m = .ok () { m with tape := t } := by
  rw [onTape, Act.get_bind, h]
  rfl

theorem onTape_of_error {change : Tape → Except Overflow Tape} {m : Machine} {cause : Overflow}
    (h : change m.tape = .error cause) : onTape change m = .error (.overflow cause) m := by
  rw [onTape, Act.get_bind, h]
  rfl

theorem local_onTape (change : Tape → Except Overflow Tape) : Local reads (onTape change) := by
  intro m frame _
  cases h : change m.tape with
  | ok t =>
    have h' : change (frame.adopt m).tape = .ok t := h
    rw [onTape_of_ok h, onTape_of_ok h']
    rfl
  | error cause =>
    have h' : change (frame.adopt m).tape = .error cause := h
    rw [onTape_of_error h, onTape_of_error h']
    rfl

theorem local_reading (reader : Input.Reader α) : Local reads (reading reader) := by
  intro m frame _
  have hinput : (frame.adopt m).input = m.input := rfl
  simp only [reading, hinput]
  cases reader m.input with
  | ok a i => rfl
  | error cause i => rfl

theorem local_writing (writer : Output.Writer α) : Local reads (writing writer) := by
  intro m frame _
  have houtput : (frame.adopt m).output = m.output := rfl
  simp only [writing, houtput]
  cases writer m.output with
  | ok a o => rfl
  | error cause o => rfl

end Primitives

end Act

/-- Everything but the commands that turn, skip, jump, write cells, draw or wait. -/
def Cardinal.isStraight : Cardinal → Bool
  | faceWest | faceEast | faceNorth | faceSouth | turnLeft | turnRight | turnBySign | skipIfZero
  | call | jump | writeCell | random | pause => false
  | _ => true

def Ordinal.isStraight : Ordinal → Bool
  | shuffle | randomChar | ensureWest | ensureEast | ensureNorth | ensureSouth | strafeLeft
  | strafeRight | compare | skipIfEmpty | call | jump | writeAfterLabel | time => false
  | _ => true

def Shared.isStraight : Shared → Bool
  | duplicate | discard | swap | convert => true
  | _ => false

namespace Command

def IsStraight (mode : Mode) : Command → Prop
  | shared op => op.isStraight = true
  | cardinal op => mode = .cardinal ∧ op.isStraight = true
  | ordinal op => mode = .ordinal ∧ op.isStraight = true

instance (mode : Mode) : DecidablePred (IsStraight mode)
  | shared op => inferInstanceAs (Decidable (op.isStraight = true))
  | cardinal op => inferInstanceAs (Decidable (mode = .cardinal ∧ op.isStraight = true))
  | ordinal op => inferInstanceAs (Decidable (mode = .ordinal ∧ op.isStraight = true))

def readsGrid : Command → Bool
  | cardinal .readCell | ordinal .readAfterLabel => true
  | _ => false

end Command

section Commands

variable {reads : Bool}

theorem local_popPair : Local reads popPair :=
  local_popInt.bind fun _ => local_popInt.bind fun _ => .pure _

theorem local_coordinate (n : Int) : Local reads (coordinate n) :=
  .ite (.pure n) (local_failHere fun _ _ => rfl)

theorem local_popPosition : Local reads popPosition :=
  local_popPair.bind fun pair => (local_coordinate pair.1).bind fun _ =>
    (local_coordinate pair.2).bind fun _ => .pure _

theorem local_divisionResult (divisor : Int) (result : Except Number.PowerFault (List Int)) :
    Local reads (divisionResult divisor result) := by
  cases result with
  | ok values => exact .pure values
  | error fault => cases fault <;> exact local_failHere fun _ _ => rfl

theorem local_cardinal {op : Cardinal} (h : op.isStraight = true) :
    Local (Command.cardinal op).readsGrid op.perform := by
  cases op with
  | digit d => exact local_pushInt _
  | unary f => exact local_popInt.bind fun _ => local_pushInt _
  | binary f => exact local_popPair.bind fun _ => local_pushInt _
  | division f =>
    exact local_popPair.bind fun _ => (local_divisionResult _ _).bind fun _ => local_pushAll _
  | listing f => exact local_popInt.bind fun _ => local_pushAll _
  | replaceFactor => exact local_popInt.bind fun _ => local_popPair.bind fun _ => local_pushInt _
  | ten => exact local_pushInt _
  | minusOne => exact local_pushInt _
  | depth => exact .get_bind fun _ _ _ => rfl
  | rotate => exact local_popInt.bind fun _ => local_modifyStack _
  | readCell =>
    refine local_popPosition.bind fun p => .get_bind fun m frame hagree => ?_
    have hgrid : (frame.adopt m).grid = m.grid := (hagree.grid rfl).symm
    rw [hgrid]
    exact local_pushInt _ m frame hagree
  | store => exact local_popInt.bind fun _ _ _ _ => rfl
  | fetch => exact .get_bind fun _ _ _ => rfl
  | moveLeft => exact local_onTape _
  | moveRight => exact local_onTape _
  | seekLeft => exact local_popInt.bind fun _ => local_onTape _
  | seekRight => exact local_popInt.bind fun _ => local_onTape _
  | pointer => exact .get_bind fun _ _ _ => rfl
  | readByte =>
    refine (local_reading _).bind fun b => ?_
    cases b <;> exact local_pushInt _
  | readChar =>
    refine (local_reading _).bind fun c => ?_
    cases c <;> exact local_pushInt _
  | writeByte => exact local_popInt.bind fun _ => local_writing _
  | writeChar =>
    refine local_popInt.bind fun n => ?_
    cases Text.scalar? n with
    | some c => exact local_writing _
    | none => exact local_failHere fun _ _ => rfl
  | argumentCount => exact .get_bind fun _ _ _ => rfl
  | faceWest | faceEast | faceNorth | faceSouth | turnLeft | turnRight | turnBySign | skipIfZero
  | call | jump | writeCell | random | pause => cases h

theorem local_popTexts : Local reads popTexts :=
  local_popText.bind fun _ => local_popText.bind fun _ => .pure _

theorem local_popLabelEnd? : Local true popLabelEnd? := by
  refine local_popText.bind fun label => .get_bind fun m frame hagree => ?_
  have hgrid : (frame.adopt m).grid = m.grid := (hagree.grid rfl).symm
  have hheading : (frame.adopt m).heading = m.heading := (hagree.heading rfl).symm
  rw [hgrid, hheading]
  rfl

theorem local_ordinal {op : Ordinal} (h : op.isStraight = true) :
    Local (Command.ordinal op).readsGrid op.perform := by
  cases op with
  | digit d => exact local_popText.bind fun _ => local_pushText _
  | unary f => exact local_popText.bind fun _ => local_pushText _
  | binary f => exact local_popTexts.bind fun _ => local_pushText _
  | ternary f => exact local_popText.bind fun _ => local_popTexts.bind fun _ => local_pushText _
  | listing f => exact local_popText.bind fun _ => local_pushAll _
  | splitting f => exact local_popTexts.bind fun _ => local_pushAll _
  | count => exact local_popTexts.bind fun _ => local_pushInt _
  | readAfterLabel =>
    refine local_popLabelEnd?.bind fun target => ?_
    cases target with
    | none => exact local_pushText _
    | some p =>
      refine .get_bind fun m frame hagree => ?_
      have hgrid : (frame.adopt m).grid = m.grid := (hagree.grid rfl).symm
      have hheading : (frame.adopt m).heading = m.heading := (hagree.heading rfl).symm
      rw [hgrid, hheading]
      exact local_pushText _ m frame hagree
  | joinStack => exact fun _ _ _ => rfl
  | reverseStack => exact local_modifyStack _
  | permuteStack => exact local_popText.bind fun _ => local_modifyStack _
  | writeRegister => exact local_popText.bind fun _ => local_onTape _
  | readRegister => exact .get_bind fun _ _ _ => rfl
  | previousRegister => exact local_onTape _
  | nextRegister => exact local_onTape _
  | readAll => exact (local_reading _).bind fun _ => local_pushText _
  | readLine => exact (local_reading _).bind fun _ => local_pushText _
  | write => exact local_popText.bind fun _ => local_writing _
  | writeLine =>
    exact local_popText.bind fun _ => (local_writing _).bind fun _ => local_writing _
  | nextArgument => exact .get_bind fun _ _ _ => rfl
  | newline => exact local_pushText _
  | empty => exact local_pushText _
  | shuffle | randomChar | ensureWest | ensureEast | ensureNorth | ensureSouth | strafeLeft
  | strafeRight | compare | skipIfEmpty | call | jump | writeAfterLabel | time => cases h

theorem local_shared {op : Shared} (h : op.isStraight = true) :
    Local (Command.shared op).readsGrid op.perform := by
  cases op with
  | duplicate => exact local_popValue.bind fun _ => (local_push _).bind fun _ => local_push _
  | discard => exact local_modifyStack _
  | swap =>
    exact local_popValue.bind fun _ => local_popValue.bind fun _ =>
      (local_push _).bind fun _ => local_push _
  | convert =>
    refine local_popInt.bind fun n => .get_bind fun m frame hagree => ?_
    have hmode : (frame.adopt m).mode = m.mode := hagree.mode.symm
    rw [hmode]
    rfl
  | stop | openLiteral | quoteNext | skip | iterate | pushReturn | dropReturn | goBack
  | goBackKeeping => cases h

theorem Command.IsStraight.isLocal {mode : Mode} {op : Command} (h : op.IsStraight mode) :
    Local op.readsGrid op.perform := by
  cases op with
  | shared op => exact local_shared h
  | cardinal op => exact local_cardinal h.2
  | ordinal op => exact local_ordinal h.2

end Commands

end Gridwalk
