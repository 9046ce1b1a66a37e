import Gridwalk.Value

/-! # The value stack

The top of the stack is the head of the list. What a pop gives depends on what is asked for: a text
on top of the stack stands for all decimal numbers in it, and a missing value for 0 or the empty
text.
-/

namespace Gridwalk
set_option autoImplicit false

abbrev Stack := List Value

namespace Stack

/-- Take an integer. A text is first replaced by its decimal numbers, or by 0 if it has none. -/
def popInt : Stack → Int × Stack
  | [] => (0, [])
  | .integer n :: rest => (n, rest)
  | .text s :: rest =>
    match (Text.decimalRuns s.toList).reverse with
    | [] => (0, rest)
    | n :: earlier => (n, earlier.map .integer ++ rest)

def popText : Stack → List Char × Stack
  | [] => ([], [])
  | v :: rest => (v.chars, rest)

def popValue (mode : Mode) (s : Stack) : Value × Stack :=
  match mode with
  | .cardinal => let (n, rest) := s.popInt; (.integer n, rest)
  | .ordinal => let (t, rest) := s.popText; (.ofChars t, rest)

def pushAll (s : Stack) (values : List Value) : Stack := values.reverse ++ s

/-- Take `n` values in the form of the mode and put them back on the values taken before. -/
def convertOnto (mode : Mode) : Nat → List Value → Stack → Stack
  | 0, taken, s => taken.reverse ++ s
  | n + 1, taken, s => let (v, rest) := s.popValue mode; convertOnto mode n (v :: taken) rest

def convert (mode : Mode) (n : Nat) (s : Stack) : Stack := convertOnto mode n [] s

/-- Bring the value at depth `n` to the top, or a 0 if the stack is not so deep. For negative `n`
sink the top value, or a 0 if there is none, to depth `-n` or to the bottom. -/
def rotate (n : Int) (s : Stack) : Stack :=
  if 0 ≤ n then
    match s[n.toNat]? with
    | some v => v :: s.eraseIdx n.toNat
    | none => .integer 0 :: s
  else
    let rest := s.drop 1
    rest.take n.natAbs ++ s.headD (.integer 0) :: rest.drop n.natAbs

end Stack

end Gridwalk
