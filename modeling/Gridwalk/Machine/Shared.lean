import Gridwalk.Machine.State

/-! # The commands of both modes at work -/

namespace Gridwalk
set_option autoImplicit false

open Act

def cellText (cell : Int) : List Char := (Text.scalar? cell).toList

def Machine.returnPosition (m : Machine) : Vec := m.returns.headD .zero

def Shared.perform : Shared → Act Unit
  | stop => modify ({ · with done := true })
  | openLiteral => modify ({ · with literal := some #[] })
  | quoteNext => do
    let cell ← takeCell
    match (← get).mode with
    | .cardinal => pushInt cell
    | .ordinal => pushText (cellText cell)
  | skip => skipNext
  | duplicate => do
    let v ← popValue
    push v
    push v
  | discard => modifyStack (·.drop 1)
  | swap => do
    let b ← popValue
    let a ← popValue
    push b
    push a
  | convert => do
    let n ← popInt
    let mode := (← get).mode
    modifyStack (·.convert mode (clampCount n))
  | iterate => do
    match (← get).mode with
    | .cardinal => enqueue (.times (clampCount (← popInt)))
    | .ordinal => enqueue (.each (String.ofList (← popText)))
  | pushReturn => Act.pushReturn
  | dropReturn => modify fun m => { m with returns := m.returns.drop 1 }
  | goBack => do
    let target := (← get).returnPosition
    modify fun m => { m with returns := m.returns.drop 1 }
    jump target
  | goBackKeeping => do jump (← get).returnPosition

end Gridwalk
