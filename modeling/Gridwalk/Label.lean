import Gridwalk.Grid.Basic
import Gridwalk.Heading

/-! # Labels

A label is a text that the grid spells along a heading. Its occurrences are ordered as if the grid
were turned so that the heading points north-east: by the lines along the heading, and within a line
by the place on it. The plain operations are exact; those in `Label.Checked` stay in 64 bits.
-/

namespace Gridwalk.Label
set_option autoImplicit false

def spells (g : Grid) (v : Vec) (p : Vec) : List Int → Bool
  | [] => true
  | cell :: rest => g.get p == cell && spells g v (p + v) rest

/-- The first component tells the line along `v`, the second the place on it. -/
def key (v p : Vec) : Int × Int := (v.cross p, p.dot v)

def keyLe (v p q : Vec) : Bool :=
  (key v p).1 < (key v q).1 || ((key v p).1 == (key v q).1 && (key v p).2 ≤ (key v q).2)

def positions (b : Box) : List Vec :=
  (List.range b.rows).flatMap fun j => (List.range b.columns).map fun i => b.position i j

/-- The starts of all occurrences, in order. An empty label has none. -/
def occurrences (g : Grid) (needle : List Int) (h : Heading) : List Vec :=
  if needle.isEmpty then []
  else ((positions g.box).filter fun p => spells g h.vec p needle).mergeSort (keyLe h.vec)

/-- The last cell of the first occurrence. -/
def end? (g : Grid) (needle : List Int) (h : Heading) : Option Vec :=
  (occurrences g needle h).head?.map (· + h.vec.scale (needle.length - 1))

namespace Checked

/-- Whether the grid spells some cells from the place `i` on behind a position. The search ends at
the first cell that differs. -/
def spellsFrom (g : Grid) (v p : Vec) : Nat → List Int → Except Overflow Bool
  | _, [] => return true
  | i, cell :: rest => do
    let q ← Vec.Checked.add p (← Vec.Checked.scale v i)
    if g.get q == cell then spellsFrom g v p (i + 1) rest else return false

def startsAmong (g : Grid) (v : Vec) (needle : List Int) : List Vec → Except Overflow (List Vec)
  | [] => return []
  | p :: rest => do
    let found ← spellsFrom g v p 0 needle
    let later ← startsAmong g v needle rest
    return if found then p :: later else later

def key (v p : Vec) : Except Overflow (Int × Int) := do
  let line ← Vec.Checked.cross v p
  let place ← Vec.Checked.dot p v
  return (line, place)

/-- Sort by the key, which is computed only where there is something to compare. -/
def sorted (v : Vec) (starts : List Vec) : Except Overflow (List Vec) := do
  if starts.length ≤ 1 then return starts
  let keyed ← starts.mapM fun p => return (← key v p, p)
  return (keyed.mergeSort fun a b => a.1.1 < b.1.1 || (a.1.1 == b.1.1 && a.1.2 ≤ b.1.2)).map (·.2)

def occurrences (g : Grid) (needle : List Int) (h : Heading) : Except Overflow (List Vec) := do
  if needle.isEmpty then return []
  else sorted h.vec (← startsAmong g h.vec needle (positions g.box))

def end? (g : Grid) (needle : List Int) (h : Heading) : Except Overflow (Option Vec) := do
  match (← occurrences g needle h).head? with
  | none => return none
  | some p => return some (← Vec.Checked.add p (← Vec.Checked.scale h.vec (needle.length - 1)))

end Checked

end Gridwalk.Label
