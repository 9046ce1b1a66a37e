import Gridwalk.Command.Basic
import Gridwalk.Grid.Basic
import Gridwalk.Terrain

/-! # The walk over the grid

The pointer has a position, a heading and a mode. In cardinal mode it wraps around the edges of the
grid; in ordinal mode it bounces off them, except along an axis with one cell only, on which it does
not move. A pointer that a jump or a shrinking grid left outside is wrapped back in.
-/

namespace Gridwalk
set_option autoImplicit false

structure Pose where
  position : Vec
  heading : Heading
  mode : Mode
deriving DecidableEq, Repr

namespace Pose

def initial : Pose := ⟨⟨-1, 0⟩, .east, .cardinal⟩

/-- The heading after bouncing off the edges that the next step would cross. -/
def bounce (b : Box) (p : Vec) (h : Heading) : Heading :=
  let next := p + h.vec
  let h' :=
    if 1 < b.columns ∧ (next.x < b.low.x ∨ b.high.x < next.x) then h.reflect .pillar else h
  if 1 < b.rows ∧ (next.y < b.low.y ∨ b.high.y < next.y) then h'.reflect .floor else h'

/-- The step of a heading along the axes that have more than one cell. -/
def stepWithin (b : Box) (h : Heading) : Vec :=
  ⟨if b.columns = 1 then 0 else h.vec.x, if b.rows = 1 then 0 else h.vec.y⟩

def move (b : Box) (pose : Pose) : Pose :=
  match pose.mode with
  | .cardinal => { pose with position := b.wrap (pose.position + pose.heading.vec) }
  | .ordinal =>
    let heading := bounce b pose.position pose.heading
    { pose with position := b.wrap (pose.position + stepWithin b heading), heading }

def meet (pose : Pose) (t : Terrain) : Pose :=
  { pose with
    heading := pose.heading.reflect t
    mode := if t.switchesMode then pose.mode.other else pose.mode }

/-- Move by one cell, and tell whether there is something to execute: a command or, inside a
literal, any cell that is not terrain. -/
def advance (g : Grid) (inLiteral : Bool) (pose : Pose) : Pose × Bool :=
  let moved := pose.move g.box
  let cell := g.get moved.position
  match Terrain.ofCell? cell with
  | some t => (moved.meet t, false)
  | none => (moved, inLiteral || (Command.ofCell? cell moved.mode).isSome)

def seekWithin (g : Grid) (inLiteral : Bool) : Nat → Pose → Pose × Bool
  | 0, pose => (pose, false)
  | n + 1, pose =>
    let (pose', found) := pose.advance g inLiteral
    if found then (pose', true) else seekWithin g inLiteral n pose'

/-- How often to advance before giving up: once per cell, heading and mode, and a few times more. -/
def patience (g : Grid) : Nat := 16 * (g.width * g.height) + 17

/-- Half a step back and half a step to the side. -/
def strafe (pose : Pose) (side : Heading) : Pose :=
  { pose with position := pose.position + (pose.heading.reverse.vec + side.vec).half }

end Pose

/-! ## Fixed width

A move computes in 128 bits and cuts off what it does not need, strafing stays in 64 bits.
-/

namespace Wide

/-- The corners of a box, from its extents and the distance of the low corner from the origin. -/
def corners (b : Box) : Except Overflow (Vec × Vec) := do
  let low ← Vec.Checked.neg (-b.low)
  let width ← Word.sub b.columns 1
  let height ← Word.sub b.rows 1
  let high ← Vec.Checked.sub ⟨width, height⟩ (-b.low)
  return (low, high)

def step (p v : Vec) : Except Overflow Vec := do
  let x ← add p.x v.x
  let y ← add p.y v.y
  return ⟨x, y⟩

def wrapBetween (low high n : Int) : Except Overflow Int := do
  let distance ← sub n low
  let length ← sub high low
  let extent ← add length 1
  let wrapped ← add low (distance % extent)
  return narrow wrapped

def wrap (low high p : Vec) : Except Overflow Vec := do
  let x ← wrapBetween low.x high.x p.x
  let y ← wrapBetween low.y high.y p.y
  return ⟨x, y⟩

def bounce (b : Box) (low high ahead : Vec) (h : Heading) : Heading :=
  let h' := if 1 < b.columns ∧ (ahead.x < low.x ∨ high.x < ahead.x) then h.reflect .pillar else h
  if 1 < b.rows ∧ (ahead.y < low.y ∨ high.y < ahead.y) then h'.reflect .floor else h'

def move (b : Box) (pose : Pose) : Except Overflow Pose := do
  let (low, high) ← corners b
  let ahead ← step pose.position pose.heading.vec
  match pose.mode with
  | .cardinal =>
    let position ← wrap low high ahead
    return { pose with position }
  | .ordinal =>
    let heading := bounce b low high ahead pose.heading
    let next ← step pose.position (Pose.stepWithin b heading)
    let position ← wrap low high next
    return { pose with position, heading }

end Wide

def Pose.Checked.strafe (pose : Pose) (side : Heading) : Except Overflow Pose := do
  let step ← Vec.Checked.add pose.heading.reverse.vec side.vec
  let position ← Vec.Checked.add pose.position step.half
  return { pose with position }

end Gridwalk
