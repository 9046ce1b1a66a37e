import Gridwalk.Machine.Fault
import Gridwalk.Machine.Pose
import Gridwalk.Stack
import Gridwalk.Stream
import Gridwalk.Tape

/-! # The machine

The machine holds everything that a run can change. The world outside is part of it: the streams,
the stream of random choices, the time of day as a text, and the time that the program has asked to
wait. An act either succeeds or stops with a fault, and leaves a machine in both cases.
-/

namespace Gridwalk
set_option autoImplicit false

/-- How often the next command is executed: a number of times, or once for each character of a
text, which is pushed first. -/
inductive Repetition where
  | times (n : Nat)
  | each (s : String)
deriving DecidableEq, Repr

structure Machine where
  grid : Grid
  pose : Pose
  /-- The value stack, top first. -/
  stack : Stack
  tape : Tape
  returns : List Vec
  queue : List Repetition
  /-- The cells captured so far by a literal, while one is open. -/
  literal : Option (Array Int)
  tick : Nat
  done : Bool
  arguments : List String
  input : Input
  output : Output
  dice : Dice
  /-- The time of day, as the outer layer last told it. -/
  clock : String
  /-- The milliseconds that the program has asked to wait, and has not waited yet. -/
  waiting : Nat

namespace Machine

def load (grid : Grid) (arguments : List String) (input : Input) (output : Output) (dice : Dice)
    (clock : String) : Machine where
  grid
  pose := .initial
  stack := []
  tape := .empty
  returns := []
  queue := []
  literal := none
  tick := 0
  done := false
  arguments
  input
  output
  dice
  clock
  waiting := 0

def position (m : Machine) : Vec := m.pose.position

def heading (m : Machine) : Heading := m.pose.heading

def mode (m : Machine) : Mode := m.pose.mode

def cell (m : Machine) : Int := m.grid.get m.position

end Machine

abbrev Act := EStateM Fault Machine

namespace Act

section Sequence

variable {α β : Type} {x : Act α} {f : α → Act β} {m m' : Machine}

theorem bind_of_ok {a : α} (h : x m = .ok a m') : (x >>= f) m = f a m' := by
  simp only [bind, EStateM.bind, h]

theorem bind_of_error {fault : Fault} (h : x m = .error fault m') :
    (x >>= f) m = .error fault m' := by
  simp only [bind, EStateM.bind, h]

theorem get_bind (f : Machine → Act β) (m : Machine) : (get >>= f) m = f m m := rfl

end Sequence

def failHere {α : Type} (fault : Vec → Fault) : Act α := do throw (fault (← get).position)

def push (v : Value) : Act Unit := modify fun m => { m with stack := v :: m.stack }

def pushInt (n : Int) : Act Unit := push (.integer n)

def pushText (s : List Char) : Act Unit := push (.ofChars s)

def pushAll (values : List Value) : Act Unit :=
  modify fun m => { m with stack := m.stack.pushAll values }

def popInt : Act Int := modifyGet fun m =>
  let (n, rest) := m.stack.popInt
  (n, { m with stack := rest })

def popText : Act (List Char) := modifyGet fun m =>
  let (s, rest) := m.stack.popText
  (s, { m with stack := rest })

def popValue : Act Value := modifyGet fun m =>
  let (v, rest) := m.stack.popValue m.mode
  (v, { m with stack := rest })

def modifyStack (f : Stack → Stack) : Act Unit := modify fun m => { m with stack := f m.stack }

def setHeading (heading : Heading) : Act Unit :=
  modify fun m => { m with pose := { m.pose with heading } }

/-- Move the pointer. The next command is the one behind the new position. -/
def jump (position : Vec) : Act Unit :=
  modify fun m => { m with pose := { m.pose with position } }

def pushReturn : Act Unit := modify fun m => { m with returns := m.position :: m.returns }

def call (position : Vec) : Act Unit := do
  pushReturn
  jump position

def takeCell : Act Int := do
  modify fun m => { m with pose := m.pose.move m.grid.box }
  return (← get).cell

def enqueue (r : Repetition) : Act Unit := modify fun m => { m with queue := m.queue ++ [r] }

def skipNext : Act Unit := modify fun m => { m with queue := .times 0 :: m.queue }

/-- Counts are 64-bit; a larger one is cut down and a negative one is 0. -/
def clampCount (n : Int) : Nat := min n.toNat 0xFFFFFFFFFFFFFFFF

theorem clampCount_natCast {n : Nat} (h : n < 0x10000000000000000) : clampCount n = n := by
  rw [clampCount, Int.toNat_natCast]
  omega

def maxCells : Nat := 0x1000000

def writeCell (target : Vec) (cell : Int) : Act Unit := do
  let g := (← get).grid
  unless cell = blank ∨ g.box.Contains target do
    match g.sizeCovering? target with
    | some (width, height) =>
      unless width * height ≤ maxCells do failHere (.positionOutOfRange target)
    | none => failHere (.positionOutOfRange target)
  modify fun m => { m with grid := m.grid.set target cell }

def onTape (change : Tape → Except Overflow Tape) : Act Unit := do
  match change (← get).tape with
  | .ok tape => modify ({ · with tape })
  | .error cause => throw (.overflow cause)

def reading {α : Type} (reader : Input.Reader α) : Act α := fun m =>
  match reader m.input with
  | .ok a input => .ok a { m with input }
  | .error cause input => .error (.stream cause) { m with input }

def writing {α : Type} (writer : Output.Writer α) : Act α := fun m =>
  match writer m.output with
  | .ok a output => .ok a { m with output }
  | .error cause output => .error (.stream cause) { m with output }

def rolling {α : Type} (roll : Dice → α × Dice) : Act α := modifyGet fun m =>
  let (a, dice) := roll m.dice
  (a, { m with dice })

end Act

end Gridwalk
