import Gridwalk.Stream
import Gridwalk.Value
import Gridwalk.Vec

/-! # Runtime faults

What can stop a run. A fault of a command tells where the pointer was.
-/

namespace Gridwalk
set_option autoImplicit false

inductive Fault where
  | unknownCommand (cell : Int) (place : Vec) (mode : Mode)
  | divisionByZero (place : Vec)
  | invalidCodePoint (value : Int) (place : Vec)
  | coordinateOutOfRange (value : Int) (place : Vec)
  | positionOutOfRange (target : Vec) (place : Vec)
  | cellOutOfRange (value : Int) (place : Vec)
  | exponentTooLarge (value : Int) (place : Vec)
  | noReachableCommand (place : Vec) (steps : Nat)
  | stream (cause : StreamFault)
  | overflow (cause : Overflow)
deriving DecidableEq, Repr

namespace Fault

def message : Fault → String
  | unknownCommand cell place mode =>
    "cell " ++ toString cell ++ " at " ++ place.text ++ " is not a command in " ++ mode.name
      ++ " mode"
  | divisionByZero place => "division by zero at " ++ place.text
  | invalidCodePoint value place =>
    toString value ++ " is not a valid Unicode scalar value (output at " ++ place.text ++ ")"
  | coordinateOutOfRange value place =>
    "coordinate " ++ toString value ++ " out of range at " ++ place.text
  | positionOutOfRange target place =>
    "coordinate " ++ target.text ++ " out of range at " ++ place.text
  | cellOutOfRange value place =>
    "cell value " ++ toString value ++ " out of range at " ++ place.text
  | exponentTooLarge value place =>
    "exponent " ++ toString value ++ " too large at " ++ place.text
  | noReachableCommand place steps =>
    "no command reachable from " ++ place.text ++ " after " ++ toString steps ++ " steps"
  | stream cause => "i/o error: " ++ cause.message
  | overflow cause => cause.message

end Fault

end Gridwalk
