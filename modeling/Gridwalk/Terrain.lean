import Gridwalk.Heading

/-! # Terrain

Four glyphs bend the walk. A floor turns the heading over vertically and a pillar horizontally; the
two slashes swap a straight heading with a diagonal one, which is why they also switch the mode.
-/

namespace Gridwalk
set_option autoImplicit false

inductive Terrain where
  | slash
  | backslash
  | floor
  | pillar
deriving DecidableEq, Repr

namespace Terrain

def all : List Terrain := [.slash, .backslash, .floor, .pillar]

def glyph : Terrain → Char
  | slash => '/'
  | backslash => '\\'
  | floor => '_'
  | pillar => '|'

def name : Terrain → String
  | slash => "Slash"
  | backslash => "Backslash"
  | floor => "Floor"
  | pillar => "Pillar"

def ofCell? (cell : Int) : Option Terrain :=
  all.find? fun t => cell == t.glyph.toNat

def switchesMode : Terrain → Bool
  | slash | backslash => true
  | floor | pillar => false

end Terrain

namespace Heading

def reflect : Heading → Terrain → Heading
  | north, .slash => southWest
  | northEast, .slash => south
  | east, .slash => southEast
  | southEast, .slash => east
  | south, .slash => northEast
  | southWest, .slash => north
  | west, .slash => northWest
  | northWest, .slash => west
  | north, .backslash => southEast
  | northEast, .backslash => east
  | east, .backslash => northEast
  | southEast, .backslash => north
  | south, .backslash => northWest
  | southWest, .backslash => west
  | west, .backslash => southWest
  | northWest, .backslash => south
  | north, .floor => south
  | northEast, .floor => southEast
  | east, .floor => east
  | southEast, .floor => northEast
  | south, .floor => north
  | southWest, .floor => northWest
  | west, .floor => west
  | northWest, .floor => southWest
  | north, .pillar => north
  | northEast, .pillar => northWest
  | east, .pillar => west
  | southEast, .pillar => southWest
  | south, .pillar => south
  | southWest, .pillar => southEast
  | west, .pillar => east
  | northWest, .pillar => northEast

@[simp] theorem reflect_reflect (h : Heading) (t : Terrain) : (h.reflect t).reflect t = h := by
  cases h <;> cases t <;> rfl

/-- Terrain changes the family of the heading exactly when it switches the mode. -/
theorem isDiagonal_reflect (h : Heading) (t : Terrain) :
    (h.reflect t).isDiagonal = (h.isDiagonal != t.switchesMode) := by
  cases h <;> cases t <;> rfl

end Heading

end Gridwalk
