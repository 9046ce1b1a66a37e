import Gridwalk.Command.Cardinal
import Gridwalk.Command.Ordinal
import Gridwalk.Command.Shared
import Gridwalk.Value

/-! # Commands

A cell is a command if its character stands in the table of the common commands or in the table of
the current mode. Everything else is passed over.
-/

namespace Gridwalk
set_option autoImplicit false

inductive Command where
  | shared (op : Shared)
  | cardinal (op : Cardinal)
  | ordinal (op : Ordinal)
deriving DecidableEq, Repr

namespace Command

def ofGlyph? (c : Char) (mode : Mode) : Option Command :=
  match Shared.ofGlyph? c with
  | some op => some (.shared op)
  | none =>
    match mode with
    | .cardinal => (Cardinal.ofGlyph? c).map .cardinal
    | .ordinal => (Ordinal.ofGlyph? c).map .ordinal

def ofCell? (cell : Int) (mode : Mode) : Option Command :=
  (Text.scalar? cell).bind (ofGlyph? · mode)

def glyph : Command → Char
  | shared op => op.glyph
  | cardinal op => op.glyph
  | ordinal op => op.glyph

def name : Command → String
  | shared op => "Shared(" ++ op.name ++ ")"
  | cardinal op => "Cardinal(" ++ op.name ++ ")"
  | ordinal op => "Ordinal(" ++ op.name ++ ")"

end Command

end Gridwalk
