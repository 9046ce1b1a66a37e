import Gridwalk.Label
import Gridwalk.Machine.State

/-! # The commands of the ordinal mode at work

The last operand is taken first. A command on a label that does not occur does nothing.
-/

namespace Gridwalk
set_option autoImplicit false

open Act

def popTexts : Act (List Char × List Char) := do
  let b ← popText
  let a ← popText
  return (a, b)

def popLabelEnd? : Act (Option Vec) := do
  let label ← popText
  let m ← get
  return Label.end? m.grid (Text.codes label) m.heading

/-- The characters that the grid spells from a position on. Every cell that counts is in the box, so
the walk ends after as many steps as the box is long. -/
def spelledFrom (g : Grid) (v : Vec) : Nat → Vec → List Char
  | 0, _ => []
  | n + 1, p =>
    match Text.scalar? (g.get p) with
    | some c => c :: spelledFrom g v n (p + v)
    | none => []

def spelledBehind (g : Grid) (v : Vec) (p : Vec) : List Char :=
  spelledFrom g v (max g.width g.height) (p + v)

def writeBehind (v : Vec) (p : Vec) : List Char → Act Unit
  | [] => return
  | c :: rest => do
    Act.writeCell (p + v) (Text.code c)
    writeBehind v (p + v) rest

namespace Checked

def spelledFrom (g : Grid) (v : Vec) : Nat → Vec → Except Overflow (List Char)
  | 0, _ => return []
  | n + 1, p => do
    match Text.scalar? (g.get p) with
    | some c => return c :: (← spelledFrom g v n (← Vec.Checked.add p v))
    | none => return []

def spelledBehind (g : Grid) (v : Vec) (p : Vec) : Except Overflow (List Char) := do
  spelledFrom g v (max g.width g.height) (← Vec.Checked.add p v)

def writeBehind (v : Vec) (p : Vec) : List Char → Act Unit
  | [] => return
  | c :: rest => do
    match Vec.Checked.add p v with
    | .error cause => throw (.overflow cause)
    | .ok q =>
      Act.writeCell q (Text.code c)
      writeBehind v q rest

end Checked

/-- Take up a heading that does not go the wrong way. -/
def ensure (isWrong : Vec → Bool) (wall : Terrain) : Act Unit := do
  let h := (← get).heading
  if isWrong h.vec then setHeading (h.reflect wall)

def randomChar (s : List Char) (d : Dice) : List Char × Dice :=
  let (i, d') := d.below s.length
  (s[i]?.toList, d')

def Ordinal.perform : Ordinal → Act Unit
  | digit d => do
    let s ← popText
    pushText (s ++ [Char.ofNat ('0'.toNat + d)])
  | unary f => do
    let a ← popText
    pushText (f.apply a)
  | binary f => do
    let (a, b) ← popTexts
    pushText (f.apply a b)
  | ternary f => do
    let c ← popText
    let (a, b) ← popTexts
    pushText (f.apply a b c)
  | listing f => do
    let a ← popText
    pushAll ((f.apply a).map .ofChars)
  | splitting f => do
    let (a, b) ← popTexts
    pushAll ((f.apply a b).map .ofChars)
  | count => do
    let (a, b) ← popTexts
    pushInt (Text.count a b)
  | shuffle => do
    let a ← popText
    pushText (← rolling (Dice.shuffle a))
  | randomChar => do
    let a ← popText
    pushText (← rolling (Gridwalk.randomChar a))
  | ensureWest => ensure (0 < ·.x) .pillar
  | ensureEast => ensure (·.x < 0) .pillar
  | ensureNorth => ensure (0 < ·.y) .floor
  | ensureSouth => ensure (·.y < 0) .floor
  | strafeLeft => modify fun m => { m with pose := m.pose.strafe m.heading.quarterLeft }
  | strafeRight => modify fun m => { m with pose := m.pose.strafe m.heading.quarterRight }
  | compare => do
    let (a, b) ← popTexts
    let h := (← get).heading
    setHeading (if a < b then h.quarterLeft else if b < a then h.quarterRight else h)
  | skipIfEmpty => do
    if (← popText).isEmpty then skipNext
  | call => do
    if let some target ← popLabelEnd? then Act.call target
  | jump => do
    if let some target ← popLabelEnd? then Act.jump target
  | readAfterLabel => do
    match ← popLabelEnd? with
    | some p => let m ← get; pushText (spelledBehind m.grid m.heading.vec p)
    | none => pushText []
  | writeAfterLabel => do
    let s ← popText
    if let some p ← popLabelEnd? then writeBehind (← get).heading.vec p s
  | joinStack => modifyStack fun s => [.ofChars (s.reverse.flatMap Value.chars)]
  | reverseStack => modifyStack (·.reverse)
  | permuteStack => do
    let key ← popText
    modifyStack (Text.permuteBy · key)
  | writeRegister => do
    let s ← popText
    onTape (·.writeRegister s)
  | readRegister => do pushText (← get).tape.readRegister
  | previousRegister => onTape (·.previousRegister)
  | nextRegister => onTape (·.nextRegister)
  | readAll => do pushText (← reading Input.all)
  | readLine => do pushText ((← reading Input.line).getD [])
  | write => do
    let s ← popText
    writing (Output.write (Text.Utf8.encode s))
  | writeLine => do
    let s ← popText
    writing (Output.write (Text.Utf8.encode s))
    writing (Output.write (Text.Utf8.encode ['\n']))
  | nextArgument => do
    let arguments := (← get).arguments
    modify ({ · with arguments := arguments.drop 1 })
    push (.text (arguments.headD ""))
  | newline => pushText ['\n']
  | empty => pushText []
  | time => do push (.text (← get).clock)

end Gridwalk
