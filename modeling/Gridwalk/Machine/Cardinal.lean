import Gridwalk.Machine.State

/-! # The commands of the cardinal mode at work

The last operand is taken first.
-/

namespace Gridwalk
set_option autoImplicit false

open Act

def popPair : Act (Int × Int) := do
  let b ← popInt
  let a ← popInt
  return (a, b)

def coordinate (n : Int) : Act Int :=
  if Word.Fits n then return n else failHere (.coordinateOutOfRange n)

/-- Take a position, the `y` coordinate first. -/
def popPosition : Act Vec := do
  let (x, y) ← popPair
  return ⟨← coordinate x, ← coordinate y⟩

def divisionResult (divisor : Int) : Except Number.PowerFault (List Int) → Act (List Int)
  | .ok values => return values
  | .error .divisionByZero => failHere .divisionByZero
  | .error .tooLarge => failHere (.exponentTooLarge divisor)

/-- A random integer from 0 on towards `n`, which is never reached. No choice is made for 0. -/
def randomTowards (n : Int) (d : Dice) : Int × Dice :=
  if 0 < n then
    let (k, d') := d.below n.toNat
    (k, d')
  else if n < 0 then
    let (k, d') := d.below (-n).toNat
    (-k, d')
  else (0, d)

def Cardinal.perform : Cardinal → Act Unit
  | digit d => pushInt d.val
  | unary f => do
    let n ← popInt
    pushInt (f.apply n)
  | binary f => do
    let (a, b) ← popPair
    pushInt (f.apply a b)
  | division f => do
    let (a, b) ← popPair
    pushAll ((← divisionResult b (f.apply a b)).map .integer)
  | listing f => do
    let n ← popInt
    pushAll ((f.apply n).map .integer)
  | replaceFactor => do
    let c ← popInt
    let (a, b) ← popPair
    pushInt (Number.replaceFactor a b c)
  | ten => pushInt 10
  | minusOne => pushInt (-1)
  | depth => do pushInt (← get).stack.length
  | rotate => do
    let n ← popInt
    modifyStack (·.rotate n)
  | faceWest => setHeading .west
  | faceEast => setHeading .east
  | faceNorth => setHeading .north
  | faceSouth => setHeading .south
  | turnLeft => do setHeading (← get).heading.quarterLeft
  | turnRight => do setHeading (← get).heading.quarterRight
  | turnBySign => do
    let n ← popInt
    let h := (← get).heading
    setHeading (if n < 0 then h.quarterLeft else if 0 < n then h.quarterRight else h)
  | skipIfZero => do
    if (← popInt) = 0 then skipNext
  | call => do Act.call (← popPosition)
  | jump => do Act.jump (← popPosition)
  | readCell => do
    let p ← popPosition
    pushInt ((← get).grid.get p)
  | writeCell => do
    let cell ← popInt
    let p ← popPosition
    if Word.Fits cell then Act.writeCell p cell else failHere (.cellOutOfRange cell)
  | store => do
    let n ← popInt
    modify fun m => { m with tape := m.tape.store n }
  | fetch => do pushInt (← get).tape.fetch
  | moveLeft => onTape (·.moveLeft)
  | moveRight => onTape (·.moveRight)
  | seekLeft => do
    let n ← popInt
    onTape (·.seekLeft n)
  | seekRight => do
    let n ← popInt
    onTape (·.seekRight n)
  | pointer => do pushInt (← get).tape.memory
  | readByte => do
    match ← reading Input.byte with
    | some b => pushInt b.toNat
    | none => pushInt (-1)
  | readChar => do
    match ← reading Input.char with
    | some c => pushInt (Text.code c)
    | none => pushInt (-1)
  | writeByte => do
    let n ← popInt
    writing (Output.write [(n % 256).toNat.toUInt8])
  | writeChar => do
    let n ← popInt
    match Text.scalar? n with
    | some c => writing (Output.write (Text.Utf8.encode [c]))
    | none => failHere (.invalidCodePoint n)
  | argumentCount => do pushInt (← get).arguments.length
  | random => do
    let n ← popInt
    pushInt (← rolling (randomTowards n))
  | pause => do
    let n ← popInt
    modify fun m => { m with waiting := m.waiting + clampCount n }

end Gridwalk
