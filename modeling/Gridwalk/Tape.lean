import Gridwalk.Text.Character
import Gridwalk.Word

/-! # The tape

The tape has an integer at every 64-bit address. Only the cells that are set are stored, in ascending
order; an unset cell reads as -1, and writing -1 unsets a cell. A memory pointer and a register
pointer walk over the tape. A register is a run of set cells, and the text in it is spelled by the
cells from the register pointer on.
-/

namespace Gridwalk
set_option autoImplicit false

structure Tape where
  cells : List (Int × Int)
  memory : Int
  register : Int
deriving DecidableEq, Repr

namespace Tape

def unset : Int := -1

def empty : Tape := ⟨[], 0, 0⟩

def lookup (address : Int) : List (Int × Int) → Int
  | [] => unset
  | (a, n) :: rest => if a = address then n else lookup address rest

def insert (address value : Int) : List (Int × Int) → List (Int × Int)
  | [] => if value = unset then [] else [(address, value)]
  | (a, n) :: rest =>
    if a < address then (a, n) :: insert address value rest
    else
      let behind := if a = address then rest else (a, n) :: rest
      if value = unset then behind else (address, value) :: behind

def get (t : Tape) (address : Int) : Int := lookup address t.cells

def set (t : Tape) (address value : Int) : Tape := { t with cells := insert address value t.cells }

def addresses (t : Tape) : List Int := t.cells.map Prod.fst

def store (t : Tape) (value : Int) : Tape := t.set t.memory value

def fetch (t : Tape) : Int := t.get t.memory

def stepRight (address : Int) : Except Overflow Int := Word.add address 1

def stepLeft (address : Int) : Except Overflow Int := Word.sub address 1

/-- Step over the set cells. The addresses are listed in the direction of the steps. -/
def skipSet (step : Int → Except Overflow Int) (address : Int) : List Int → Except Overflow Int
  | [] => .ok address
  | a :: rest =>
    if a = address then do skipSet step (← step address) rest
    else skipSet step address rest

def moveRight (t : Tape) : Except Overflow Tape :=
  return { t with memory := ← stepRight t.memory }

def moveLeft (t : Tape) : Except Overflow Tape :=
  return { t with memory := ← stepLeft t.memory }

/-- Move the memory pointer to the nearest cell on the right that holds `value`. It stays if there is
none. -/
def seekRight (t : Tape) (value : Int) : Except Overflow Tape := do
  let next ← stepRight t.memory
  if value = unset then
    return { t with memory := ← skipSet stepRight next t.addresses }
  else
    match t.cells.find? fun (a, n) => next ≤ a && n == value with
    | some (a, _) => return { t with memory := a }
    | none => return t

def seekLeft (t : Tape) (value : Int) : Except Overflow Tape := do
  if value = unset then
    let next ← stepLeft t.memory
    return { t with memory := ← skipSet stepLeft next t.addresses.reverse }
  else
    match t.cells.reverse.find? fun (a, n) => a < t.memory && n == value with
    | some (a, _) => return { t with memory := a }
    | none => return t

/-- Write a text from an address on, and an unset cell behind it. -/
def writeFrom (address : Int) : List Char → List (Int × Int) → Except Overflow (List (Int × Int))
  | [], cells => .ok (insert address unset cells)
  | c :: cs, cells => do writeFrom (← stepRight address) cs (insert address (Text.code c) cells)

def writeRegister (t : Tape) (text : List Char) : Except Overflow Tape :=
  return { t with cells := ← writeFrom t.register text t.cells }

/-- The characters from an address on, up to the first cell that is unset or no character. -/
def readFrom (address : Int) : List (Int × Int) → List Char
  | [] => []
  | (a, n) :: rest =>
    if a < address then readFrom address rest
    else if a = address then
      match Text.scalar? n with
      | some c => c :: readFrom (address + 1) rest
      | none => []
    else []

def readRegister (t : Tape) : List Char := readFrom t.register t.cells

namespace Checked

/-- Every character is followed by a step to the right, also the last one. -/
def readFrom (address : Int) : List (Int × Int) → Except Overflow (List Char)
  | [] => return []
  | (a, n) :: rest => do
    if a < address then readFrom address rest
    else if a = address then
      match Text.scalar? n with
      | some c => return c :: (← readFrom (← stepRight address) rest)
      | none => return []
    else return []

def readRegister (t : Tape) : Except Overflow (List Char) := readFrom t.register t.cells

end Checked

/-- Move the register pointer behind the register and the unset cell that ends it. -/
def nextRegister (t : Tape) : Except Overflow Tape := do
  let stop ← skipSet stepRight t.register t.addresses
  return { t with register := ← stepRight stop }

def previousRegister (t : Tape) : Except Overflow Tape := do
  let inside ← Word.sub t.register 2
  let stop ← skipSet stepLeft inside t.addresses.reverse
  return { t with register := ← stepRight stop }

end Tape

end Gridwalk
