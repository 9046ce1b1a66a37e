import Gridwalk.Vec

/-! # The eight compass headings

Turning left goes once around the compass in eight steps. The headings fall into two families, the
straight ones and the diagonal ones.
-/

namespace Gridwalk
set_option autoImplicit false

inductive Heading where
  | north
  | northEast
  | east
  | southEast
  | south
  | southWest
  | west
  | northWest
deriving DecidableEq, Repr, Inhabited

namespace Heading

def all : List Heading :=
  [.north, .northEast, .east, .southEast, .south, .southWest, .west, .northWest]

def vec : Heading → Vec
  | north => ⟨0, -1⟩
  | northEast => ⟨1, -1⟩
  | east => ⟨1, 0⟩
  | southEast => ⟨1, 1⟩
  | south => ⟨0, 1⟩
  | southWest => ⟨-1, 1⟩
  | west => ⟨-1, 0⟩
  | northWest => ⟨-1, -1⟩

/-- An eighth of a turn to the left. -/
def left : Heading → Heading
  | north => northWest
  | northEast => north
  | east => northEast
  | southEast => east
  | south => southEast
  | southWest => south
  | west => southWest
  | northWest => west

def right : Heading → Heading
  | north => northEast
  | northEast => east
  | east => southEast
  | southEast => south
  | south => southWest
  | southWest => west
  | west => northWest
  | northWest => north

def quarterLeft (h : Heading) : Heading := h.left.left

def quarterRight (h : Heading) : Heading := h.right.right

def reverse (h : Heading) : Heading := h.quarterLeft.quarterLeft

def isDiagonal : Heading → Bool
  | northEast | southEast | southWest | northWest => true
  | north | east | south | west => false

def abbreviation : Heading → String
  | north => "N"
  | northEast => "NE"
  | east => "E"
  | southEast => "SE"
  | south => "S"
  | southWest => "SW"
  | west => "W"
  | northWest => "NW"

@[simp] theorem right_left (h : Heading) : h.left.right = h := by cases h <;> rfl

@[simp] theorem left_right (h : Heading) : h.right.left = h := by cases h <;> rfl

theorem vec_reverse (h : Heading) : h.reverse.vec = -h.vec := by cases h <;> rfl

theorem isDiagonal_left (h : Heading) : h.left.isDiagonal = !h.isDiagonal := by cases h <;> rfl

theorem isDiagonal_right (h : Heading) : h.right.isDiagonal = !h.isDiagonal := by cases h <;> rfl

theorem isDiagonal_quarterLeft (h : Heading) : h.quarterLeft.isDiagonal = h.isDiagonal := by
  rw [quarterLeft, isDiagonal_left, isDiagonal_left, Bool.not_not]

theorem isDiagonal_quarterRight (h : Heading) : h.quarterRight.isDiagonal = h.isDiagonal := by
  rw [quarterRight, isDiagonal_right, isDiagonal_right, Bool.not_not]

end Heading

end Gridwalk
