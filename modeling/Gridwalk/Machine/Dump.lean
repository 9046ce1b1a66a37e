import Gridwalk.Machine.State

/-! # The state as a text

A report of the whole machine for a human reader, line by line. The pointer is marked below its cell.
-/

namespace Gridwalk
set_option autoImplicit false

namespace Dump

/-- How a cell is shown. A cell that is no character, or a control character, is shown as a dot. -/
def cellGlyph (cell : Int) : Char :=
  match Text.scalar? cell with
  | some c => if Text.isControl c then '·' else c
  | none => '·'

def cellsText (cells : List Int) : String := String.ofList (cells.map cellGlyph)

def listText (items : List String) : String := "[" ++ ", ".intercalate items ++ "]"

def repetitionText : Repetition → String
  | .times n => toString n
  | .each s => Text.quote s

def pointerMarks (t : Tape) (address : Int) : String :=
  match decide (address = t.memory), decide (address = t.register) with
  | true, true => "(mp,rp)"
  | true, false => "(mp)"
  | false, true => "(rp)"
  | false, false => ""

def tapeText (t : Tape) : String :=
  let addresses := ((t.memory :: t.register :: t.addresses).mergeSort fun a b => decide (a ≤ b))
  " ".intercalate (addresses.eraseDups.map fun a =>
    toString a ++ "=" ++ toString (t.get a) ++ pointerMarks t a)

def literalLines (m : Machine) : List String :=
  match m.literal with
  | some cells => ["string: " ++ Text.quote (cellsText cells.toList)]
  | none => []

/-- The line below row `y` that marks the pointer, if it is in that row. -/
def markLines (m : Machine) (y : Int) : List String :=
  let b := m.grid.box
  if m.position.y = y ∧ b.low.x ≤ m.position.x ∧ m.position.x ≤ b.high.x then
    ["  " ++ String.ofList (List.replicate (m.position.x - b.low.x).toNat ' ') ++ "^"]
  else []

def gridLines (m : Machine) : List String :=
  m.grid.rows.zipIdx.flatMap fun (row, j) =>
    ("  " ++ cellsText row) :: markLines m (m.grid.box.low.y + j)

def reportLines (m : Machine) : List String :=
  ["mode: " ++ m.mode.name ++ "  tick: " ++ toString m.tick ++ "  ip: " ++ m.position.text ++ " "
      ++ m.heading.abbreviation]
    ++ literalLines m
    ++ ["grid: " ++ m.grid.box.low.text ++ " .. " ++ m.grid.box.high.text]
    ++ gridLines m
    ++ ["iterators: " ++ listText (m.queue.map repetitionText),
      "stack: " ++ listText (m.stack.reverse.map Value.display),
      "returns: " ++ listText (m.returns.reverse.map Vec.text),
      "tape: " ++ tapeText m.tape,
      "register: " ++ Text.quote (String.ofList m.tape.readRegister),
      "args: " ++ listText (m.arguments.map Text.quote)]

end Dump

def Machine.dump (m : Machine) : String := String.join ((Dump.reportLines m).map (· ++ "\n"))

end Gridwalk
