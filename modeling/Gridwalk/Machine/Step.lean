import Gridwalk.Machine.Cardinal
import Gridwalk.Machine.Ordinal
import Gridwalk.Machine.Shared

/-! # One tick

A tick walks to the next command and executes it as often as the front of the queue says. While a
literal is open, every cell on the way is captured instead.
-/

namespace Gridwalk
set_option autoImplicit false

open Act

def Command.perform : Command → Act Unit
  | shared op => op.perform
  | cardinal op => op.perform
  | ordinal op => op.perform

def repeatTimes (act : Act Unit) : Nat → Act Unit
  | 0 => return
  | n + 1 => do
    if (← get).done then return
    act
    repeatTimes act n

def repeatEach (act : Act Unit) : List Char → Act Unit
  | [] => return
  | c :: rest => do
    if (← get).done then return
    pushText [c]
    act
    repeatEach act rest

/-- Take the front of the queue. An empty queue stands for once. -/
def takeRepetition : Act Repetition := modifyGet fun m =>
  (m.queue.headD (.times 1), { m with queue := m.queue.drop 1 })

def repeated (act : Act Unit) : Act Unit := do
  match ← takeRepetition with
  | .times n => repeatTimes act n
  | .each s => repeatEach act s.toList

/-- The values of a literal: its cells in cardinal mode, its text in ordinal mode. -/
def literalValues (mode : Mode) (cells : List Int) : List Value :=
  match mode with
  | .cardinal => cells.map .integer
  | .ordinal => [.ofChars (cells.filterMap Text.scalar?)]

def literalCell (captured : Array Int) (cell : Int) : Act Unit := do
  if cell = Text.code Shared.openLiteral.glyph then
    modify ({ · with literal := none })
    let values := literalValues (← get).mode captured.toList
    repeated (pushAll values)
  else
    let cell ← if cell = Text.code Shared.quoteNext.glyph then takeCell else pure cell
    modify ({ · with literal := some (captured.push cell) })

def seekCommand : Act Unit := do
  let m ← get
  let (pose, found) := Pose.seekWithin m.grid m.literal.isSome (Pose.patience m.grid) m.pose
  set { m with pose }
  unless found do failHere (.noReachableCommand · (Pose.patience m.grid))

/-- Execute the cell under the pointer. The start of a literal takes no repetition. -/
def executeCell : Act Unit := do
  let m ← get
  match m.literal with
  | some captured => literalCell captured m.cell
  | none =>
    match Command.ofCell? m.cell m.mode with
    | some (.shared .openLiteral) => Shared.openLiteral.perform
    | some command => repeated command.perform
    | none => failHere (.unknownCommand m.cell · m.mode)

/-- Execute one tick, and tell whether the program goes on. -/
def step : Act Bool := do
  if (← get).done then return false
  seekCommand
  executeCell
  modify fun m => { m with tick := m.tick + 1 }
  return !(← get).done

end Gridwalk
