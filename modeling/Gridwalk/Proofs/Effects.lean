import Gridwalk.Machine.Step
import Gridwalk.Proofs.Streams
import Gridwalk.Proofs.TapeCells
import Mathlib.Logic.Relation
import Mathlib.Tactic.SplitIfs

/-! # What a command can do

Every command is a sequence of elementary changes of the machine, also when it fails halfway. The
changes are listed once, and every command is taken apart into them once; what holds of all commands
is then a matter of the list. The walk to a command and the count of ticks are not part of it.
-/

namespace Gridwalk
set_option autoImplicit false

open Act

/-- Whether a command may write a cell: the grid need not grow, or does not grow too much. -/
def HasRoom (g : Grid) (p : Vec) (cell : Int) : Prop :=
  cell = blank ∨ g.box.Contains p ∨
    ∃ width height, g.sizeCovering? p = some (width, height) ∧ width * height ≤ maxCells

/-- The elementary changes that commands of a mode can make. Streams only go forwards, the tape
changes only by its operations, and only the cardinal mode sets a heading without regard to the one
before. -/
inductive Effect (mode : Mode) : Machine → Machine → Prop where
  | stack (m : Machine) (s : Stack) : Effect mode m { m with stack := s }
  | tape (m : Machine) (operation : Tape.Operation) (t : Tape)
    (h : operation.apply m.tape = .ok t) : Effect mode m { m with tape := t }
  | returns (m : Machine) (r : List Vec) : Effect mode m { m with returns := r }
  | queue (m : Machine) (q : List Repetition) : Effect mode m { m with queue := q }
  | literal (m : Machine) (l : Option (Array Int)) : Effect mode m { m with literal := l }
  | stop (m : Machine) : Effect mode m { m with done := true }
  | arguments (m : Machine) (a : List String) : Effect mode m { m with arguments := a }
  | input (m : Machine) (i : Input) (h : i.unread <:+ m.input.unread) :
    Effect mode m { m with input := i }
  | output (m : Machine) (o : Output) (h : m.output.Extends o) : Effect mode m { m with output := o }
  | dice (m : Machine) (d : Dice) : Effect mode m { m with dice := d }
  | wait (m : Machine) (n : Nat) : Effect mode m { m with waiting := n }
  | write (m : Machine) (p : Vec) (cell : Int) (h : HasRoom m.grid p cell) :
    Effect mode m { m with grid := m.grid.set p cell }
  | jump (m : Machine) (p : Vec) : Effect mode m { m with pose := { m.pose with position := p } }
  | move (m : Machine) : Effect mode m { m with pose := m.pose.move m.grid.box }
  | turn (m : Machine) (h : Heading) (hh : h.isDiagonal = m.heading.isDiagonal) :
    Effect mode m { m with pose := { m.pose with heading := h } }
  | face (m : Machine) (h : Heading) (hm : mode = .cardinal) (hh : h.isDiagonal = false) :
    Effect mode m { m with pose := { m.pose with heading := h } }

abbrev Effects (mode : Mode) : Machine → Machine → Prop := Relation.ReflTransGen (Effect mode)

namespace Act

def last {α : Type} (act : Act α) (m : Machine) : Machine :=
  match act m with
  | .ok _ m' => m'
  | .error _ m' => m'

def Within (mode : Mode) {α : Type} (act : Act α) : Prop := ∀ m, Effects mode m (act.last m)

section Combinators

variable {α β : Type} {mode : Mode}

theorem last_bind (x : Act α) (f : α → Act β) (m : Machine) :
    (x >>= f).last m =
      match x m with
      | .ok a m' => (f a).last m'
      | .error _ m' => m' := by
  simp only [last, bind, EStateM.bind]
  cases x m <;> rfl

theorem last_get_bind (f : Machine → Act β) (m : Machine) :
    (get >>= f).last m = (f m).last m := rfl

theorem eq_ok_last_of_run' {x : Act α} {m : Machine} {a : α} (h : EStateM.run' x m = some a) :
    x m = .ok a (x.last m) := by
  delta EStateM.run' EStateM.run at h
  unfold last
  cases hx : x m with
  | ok b m' =>
    rw [hx] at h
    cases h
    rfl
  | error fault m' =>
    rw [hx] at h
    cases h

def fault? (x : Act α) (m : Machine) : Option Fault :=
  match x m with
  | .ok _ _ => none
  | .error fault _ => some fault

theorem eq_error_last_of_fault? {x : Act α} {m : Machine} {fault : Fault}
    (h : x.fault? m = some fault) : x m = .error fault (x.last m) := by
  unfold fault? at h
  unfold last
  cases hx : x m with
  | ok a m' =>
    rw [hx] at h
    cases h
  | error fault' m' =>
    rw [hx] at h
    cases h
    rfl

theorem Within.pure (a : α) : Within mode (Pure.pure a) := fun _ => .refl

theorem Within.bind {x : Act α} {f : α → Act β} (hx : Within mode x)
    (hf : ∀ a, Within mode (f a)) : Within mode (x >>= f) := by
  intro m
  have hfirst := hx m
  rw [last_bind]
  unfold last at hfirst
  cases h : x m with
  | ok a m' =>
    rw [h] at hfirst
    exact hfirst.trans (hf a m')
  | error fault m' =>
    rw [h] at hfirst
    exact hfirst

theorem Within.get_bind {f : Machine → Act β} (hf : ∀ m, Effects mode m ((f m).last m)) :
    Within mode (get >>= f) := by
  intro m
  rw [last_get_bind]
  exact hf m

theorem Within.modify {f : Machine → Machine} (hf : ∀ m, Effect mode m (f m)) :
    Within mode (modify f) := fun m => .single (hf m)

theorem Within.modifyGet {f : Machine → α × Machine} (hf : ∀ m, Effect mode m (f m).2) :
    Within mode (modifyGet f) := by
  intro m
  exact .single (hf m)

theorem Within.ite {p : Prop} [Decidable p] {x y : Act α} (hx : Within mode x)
    (hy : Within mode y) : Within mode (if p then x else y) := by
  split
  · exact hx
  · exact hy

end Combinators

section Primitives

variable {α : Type} {mode : Mode}

theorem within_failHere (fault : Vec → Fault) : Within mode (failHere fault : Act α) :=
  .get_bind fun _ => .refl

theorem within_push (v : Value) : Within mode (push v) := .modify fun m => .stack m _

theorem within_pushInt (n : Int) : Within mode (pushInt n) := within_push _

theorem within_pushText (s : List Char) : Within mode (pushText s) := within_push _

theorem within_pushAll (values : List Value) : Within mode (pushAll values) :=
  .modify fun m => .stack m _

theorem within_popInt : Within mode popInt := .modifyGet fun m => .stack m _

theorem within_popText : Within mode popText := .modifyGet fun m => .stack m _

theorem within_popValue : Within mode popValue := .modifyGet fun m => .stack m _

theorem within_modifyStack (f : Stack → Stack) : Within mode (modifyStack f) :=
  .modify fun m => .stack m _

theorem within_jump (p : Vec) : Within mode (jump p) := .modify fun m => .jump m p

theorem within_pushReturn : Within mode pushReturn := .modify fun m => .returns m _

theorem within_call (p : Vec) : Within mode (call p) :=
  within_pushReturn.bind fun _ => within_jump p

theorem within_takeCell : Within mode takeCell :=
  Within.bind (.modify fun m => .move m) fun _ => .get_bind fun _ => .refl

theorem within_enqueue (r : Repetition) : Within mode (enqueue r) := .modify fun m => .queue m _

theorem within_skipNext : Within mode skipNext := .modify fun m => .queue m _

theorem within_rolling (roll : Dice → α × Dice) : Within mode (rolling roll) :=
  .modifyGet fun m => .dice m _

theorem within_onTape (operation : Tape.Operation) : Within mode (onTape operation.apply) := by
  refine .get_bind fun m => ?_
  cases happly : operation.apply m.tape with
  | ok t => exact .single (.tape m operation t happly)
  | error cause => exact .refl

theorem last_reading (reader : Input.Reader α) (m : Machine) :
    (reading reader).last m = { m with input := left reader m.input } := by
  simp only [last, reading, left]
  cases reader m.input <;> rfl

theorem last_writing (writer : Output.Writer α) (m : Machine) :
    (writing writer).last m = { m with output := left writer m.output } := by
  simp only [last, writing, left]
  cases writer m.output <;> rfl

theorem within_reading {reader : Input.Reader α} (h : Input.Consumes reader) :
    Within mode (reading reader) := by
  intro m
  rw [last_reading]
  exact .single (.input m _ (h m.input))

theorem within_write (bytes : List UInt8) : Within mode (writing (Output.write bytes)) := by
  intro m
  rw [last_writing]
  exact .single (.output m _ (Output.extends_write bytes m.output))

theorem writeCell_of_hasRoom {m : Machine} {p : Vec} {cell : Int} (h : HasRoom m.grid p cell) :
    writeCell p cell m = .ok () { m with grid := m.grid.set p cell } := by
  rw [writeCell, get_bind]
  split
  · rfl
  · rename_i hgrows
    obtain ⟨hcell, hout⟩ := not_or.mp hgrows
    obtain ⟨width, height, hsize, hle⟩ := (h.resolve_left hcell).resolve_left hout
    simp only [hsize, if_pos hle]
    rfl

theorem writeCell_of_not_hasRoom {m : Machine} {p : Vec} {cell : Int}
    (h : ¬ HasRoom m.grid p cell) :
    writeCell p cell m = .error (.positionOutOfRange p m.position) m := by
  obtain ⟨hcell, hrest⟩ := not_or.mp h
  obtain ⟨hout, hsmall⟩ := not_or.mp hrest
  have hgrows : ¬ (cell = blank ∨ m.grid.box.Contains p) := not_or.mpr ⟨hcell, hout⟩
  rw [writeCell, get_bind, if_neg hgrows]
  cases hsize : m.grid.sizeCovering? p with
  | none => rfl
  | some size =>
    have hlarge : ¬ size.1 * size.2 ≤ maxCells := fun hle => hsmall ⟨size.1, size.2, hsize, hle⟩
    simp only [if_neg hlarge]
    rfl

theorem within_writeCell (p : Vec) (cell : Int) : Within mode (writeCell p cell) := by
  intro m
  by_cases h : HasRoom m.grid p cell
  · simp only [last, writeCell_of_hasRoom h]
    exact .single (.write m p cell h)
  · simp only [last, writeCell_of_not_hasRoom h]
    exact .refl

theorem within_turn {f : Machine → Heading} (hf : ∀ m, (f m).isDiagonal = m.heading.isDiagonal) :
    Within mode (get >>= fun m => setHeading (f m)) :=
  .get_bind fun m => .single (.turn m _ (hf m))

theorem within_face {h : Heading} (hh : h.isDiagonal = false) : Within .cardinal (setHeading h) :=
  .modify fun m => .face m h rfl hh

end Primitives

end Act

section Commands

variable {mode : Mode}

theorem within_popPair : Within mode popPair :=
  within_popInt.bind fun _ => within_popInt.bind fun _ => .pure _

theorem within_coordinate (n : Int) : Within mode (coordinate n) :=
  .ite (.pure n) (within_failHere _)

theorem within_popPosition : Within mode popPosition :=
  within_popPair.bind fun pair => (within_coordinate pair.1).bind fun _ =>
    (within_coordinate pair.2).bind fun _ => .pure _

theorem within_divisionResult (divisor : Int) (result : Except Number.PowerFault (List Int)) :
    Within mode (divisionResult divisor result) := by
  cases result with
  | ok values => exact .pure values
  | error fault => cases fault <;> exact within_failHere _

theorem within_cardinal (op : Cardinal) : Within .cardinal op.perform := by
  cases op with
  | digit d => exact within_pushInt _
  | unary f => exact within_popInt.bind fun _ => within_pushInt _
  | binary f => exact within_popPair.bind fun _ => within_pushInt _
  | division f =>
    exact within_popPair.bind fun _ => (within_divisionResult _ _).bind fun _ => within_pushAll _
  | listing f => exact within_popInt.bind fun _ => within_pushAll _
  | replaceFactor =>
    exact within_popInt.bind fun _ => within_popPair.bind fun _ => within_pushInt _
  | ten => exact within_pushInt _
  | minusOne => exact within_pushInt _
  | depth => exact .get_bind fun m => within_pushInt _ m
  | rotate => exact within_popInt.bind fun _ => within_modifyStack _
  | faceWest => exact within_face rfl
  | faceEast => exact within_face rfl
  | faceNorth => exact within_face rfl
  | faceSouth => exact within_face rfl
  | turnLeft => exact within_turn fun m => m.heading.isDiagonal_quarterLeft
  | turnRight => exact within_turn fun m => m.heading.isDiagonal_quarterRight
  | turnBySign =>
    refine within_popInt.bind fun n => within_turn fun m => ?_
    split_ifs
    · exact m.heading.isDiagonal_quarterLeft
    · exact m.heading.isDiagonal_quarterRight
    · rfl
  | skipIfZero => exact within_popInt.bind fun _ => .ite within_skipNext (.pure _)
  | call => exact within_popPosition.bind fun p => within_call p
  | jump => exact within_popPosition.bind fun p => within_jump p
  | readCell => exact within_popPosition.bind fun _ => .get_bind fun m => within_pushInt _ m
  | writeCell =>
    exact within_popInt.bind fun _ => within_popPosition.bind fun _ =>
      .ite (within_writeCell _ _) (within_failHere _)
  | store => exact within_popInt.bind fun n => .modify fun m => .tape m (.store n) _ rfl
  | fetch => exact .get_bind fun m => within_pushInt _ m
  | moveLeft => exact within_onTape .moveLeft
  | moveRight => exact within_onTape .moveRight
  | seekLeft => exact within_popInt.bind fun n => within_onTape (.seekLeft n)
  | seekRight => exact within_popInt.bind fun n => within_onTape (.seekRight n)
  | pointer => exact .get_bind fun m => within_pushInt _ m
  | readByte =>
    refine (within_reading Input.consumes_byte).bind fun b => ?_
    cases b <;> exact within_pushInt _
  | readChar =>
    refine (within_reading Input.consumes_char).bind fun c => ?_
    cases c <;> exact within_pushInt _
  | writeByte => exact within_popInt.bind fun _ => within_write _
  | writeChar =>
    refine within_popInt.bind fun n => ?_
    cases Text.scalar? n with
    | some c => exact within_write _
    | none => exact within_failHere _
  | argumentCount => exact .get_bind fun m => within_pushInt _ m
  | random => exact within_popInt.bind fun _ => (within_rolling _).bind fun _ => within_pushInt _
  | pause => exact within_popInt.bind fun _ => .modify fun m => .wait m _

theorem within_popTexts : Within mode popTexts :=
  within_popText.bind fun _ => within_popText.bind fun _ => .pure _

theorem within_popLabelEnd? : Within mode popLabelEnd? :=
  within_popText.bind fun _ => .get_bind fun _ => .refl

theorem within_writeBehind (v p : Vec) (s : List Char) : Within mode (writeBehind v p s) := by
  induction s generalizing p with
  | nil => exact .pure _
  | cons c rest ih => exact (within_writeCell _ _).bind fun _ => ih (p + v)

theorem within_ensure (isWrong : Vec → Bool) (wall : Terrain) (h : wall.switchesMode = false) :
    Within mode (ensure isWrong wall) := by
  refine .get_bind fun m => ?_
  dsimp only
  split
  · refine .single (.turn m _ ?_)
    rw [Heading.isDiagonal_reflect, h, Bool.bne_false]
  · exact .refl

theorem within_ordinal (op : Ordinal) : Within mode op.perform := by
  cases op with
  | digit d => exact within_popText.bind fun _ => within_pushText _
  | unary f => exact within_popText.bind fun _ => within_pushText _
  | binary f => exact within_popTexts.bind fun _ => within_pushText _
  | ternary f => exact within_popText.bind fun _ => within_popTexts.bind fun _ => within_pushText _
  | listing f => exact within_popText.bind fun _ => within_pushAll _
  | splitting f => exact within_popTexts.bind fun _ => within_pushAll _
  | count => exact within_popTexts.bind fun _ => within_pushInt _
  | shuffle => exact within_popText.bind fun _ => (within_rolling _).bind fun _ => within_pushText _
  | randomChar =>
    exact within_popText.bind fun _ => (within_rolling _).bind fun _ => within_pushText _
  | ensureWest => exact within_ensure (0 < ·.x) .pillar rfl
  | ensureEast => exact within_ensure (·.x < 0) .pillar rfl
  | ensureNorth => exact within_ensure (0 < ·.y) .floor rfl
  | ensureSouth => exact within_ensure (·.y < 0) .floor rfl
  | strafeLeft => exact .modify fun m => .jump m _
  | strafeRight => exact .modify fun m => .jump m _
  | compare =>
    refine within_popTexts.bind fun texts => within_turn fun m => ?_
    split_ifs
    · exact m.heading.isDiagonal_quarterLeft
    · exact m.heading.isDiagonal_quarterRight
    · rfl
  | skipIfEmpty => exact within_popText.bind fun _ => .ite within_skipNext (.pure _)
  | call =>
    refine within_popLabelEnd?.bind fun target => ?_
    cases target with
    | some p => exact within_call p
    | none => exact .pure _
  | jump =>
    refine within_popLabelEnd?.bind fun target => ?_
    cases target with
    | some p => exact within_jump p
    | none => exact .pure _
  | readAfterLabel =>
    refine within_popLabelEnd?.bind fun target => ?_
    cases target with
    | some p => exact .get_bind fun m => within_pushText _ m
    | none => exact within_pushText _
  | writeAfterLabel =>
    refine within_popText.bind fun s => within_popLabelEnd?.bind fun target => ?_
    cases target with
    | some p => exact .get_bind fun m => within_writeBehind _ _ _ m
    | none => exact .pure _
  | joinStack => exact .modify fun m => .stack m _
  | reverseStack => exact within_modifyStack _
  | permuteStack => exact within_popText.bind fun _ => within_modifyStack _
  | writeRegister => exact within_popText.bind fun s => within_onTape (.writeRegister s)
  | readRegister => exact .get_bind fun m => within_pushText _ m
  | previousRegister => exact within_onTape .previousRegister
  | nextRegister => exact within_onTape .nextRegister
  | readAll => exact (within_reading Input.consumes_all).bind fun _ => within_pushText _
  | readLine => exact (within_reading Input.consumes_line).bind fun _ => within_pushText _
  | write => exact within_popText.bind fun _ => within_write _
  | writeLine =>
    exact within_popText.bind fun _ => (within_write _).bind fun _ => within_write _
  | nextArgument =>
    exact .get_bind fun m =>
      (Within.modify fun m => .arguments m _).bind (fun _ => within_push _) m
  | newline => exact within_pushText _
  | empty => exact within_pushText _
  | time => exact .get_bind fun m => within_push _ m

theorem within_shared (op : Shared) : Within mode op.perform := by
  cases op with
  | stop => exact .modify fun m => .stop m
  | openLiteral => exact .modify fun m => .literal m _
  | quoteNext =>
    refine within_takeCell.bind fun cell => .get_bind fun m => ?_
    cases m.mode with
    | cardinal => exact within_pushInt _ m
    | ordinal => exact within_pushText _ m
  | skip => exact within_skipNext
  | duplicate => exact within_popValue.bind fun _ => (within_push _).bind fun _ => within_push _
  | discard => exact within_modifyStack _
  | swap =>
    exact within_popValue.bind fun _ => within_popValue.bind fun _ =>
      (within_push _).bind fun _ => within_push _
  | convert => exact within_popInt.bind fun _ => .get_bind fun m => within_modifyStack _ m
  | iterate =>
    refine .get_bind fun m => ?_
    cases m.mode with
    | cardinal => exact within_popInt.bind (fun _ => within_enqueue _) m
    | ordinal => exact within_popText.bind (fun _ => within_enqueue _) m
  | pushReturn => exact within_pushReturn
  | dropReturn => exact .modify fun m => .returns m _
  | goBack =>
    exact .get_bind fun m => (Within.modify fun m => .returns m _).bind (fun _ => within_jump _) m
  | goBackKeeping => exact .get_bind fun m => within_jump _ m

theorem mode_of_ofCell? {cell : Int} {op : Cardinal}
    (h : Command.ofCell? cell mode = some (.cardinal op)) : mode = .cardinal := by
  obtain ⟨c, -, hglyph⟩ := Option.bind_eq_some_iff.mp h
  unfold Command.ofGlyph? at hglyph
  split at hglyph
  · cases hglyph
  · cases mode with
    | cardinal => rfl
    | ordinal => simp at hglyph

theorem within_command {cell : Int} {command : Command}
    (h : Command.ofCell? cell mode = some command) : Within mode command.perform := by
  cases command with
  | shared op => exact within_shared op
  | cardinal op =>
    rw [mode_of_ofCell? h]
    exact within_cardinal op
  | ordinal op => exact within_ordinal op

end Commands

section Repetitions

variable {mode : Mode} {act : Act Unit}

theorem within_repeatTimes (h : Within mode act) (n : Nat) : Within mode (repeatTimes act n) := by
  induction n with
  | zero => exact .pure _
  | succ n ih => exact .get_bind fun m => Within.ite (.pure _) (h.bind fun _ => ih) m

theorem within_repeatEach (h : Within mode act) (s : List Char) :
    Within mode (repeatEach act s) := by
  induction s with
  | nil => exact .pure _
  | cons c rest ih =>
    exact .get_bind fun m =>
      Within.ite (.pure _) ((within_pushText _).bind fun _ => h.bind fun _ => ih) m

theorem within_repeated (h : Within mode act) : Within mode (repeated act) := by
  have htake : Within mode takeRepetition := .modifyGet fun m => .queue m _
  refine htake.bind fun r => ?_
  cases r with
  | times n => exact within_repeatTimes h n
  | each s => exact within_repeatEach h s.toList

theorem within_literalCell (captured : Array Int) (cell : Int) :
    Within mode (literalCell captured cell) := by
  refine .ite ?_ (.ite ?_ ?_)
  · exact Within.bind (.modify fun m => .literal m _) fun _ =>
      .get_bind fun m => within_repeated (within_pushAll _) m
  · exact within_takeCell.bind fun _ => .modify fun m => .literal m _
  · exact Within.bind (.pure cell) fun _ => .modify fun m => .literal m _

end Repetitions

theorem effects_executeCell (m : Machine) : Effects m.mode m (executeCell.last m) := by
  rw [executeCell, last_get_bind]
  split
  · exact within_literalCell _ m.cell m
  · split
    · exact within_shared .openLiteral m
    · rename_i command _ h
      exact within_repeated (within_command h) m
    · exact within_failHere _ m

end Gridwalk
