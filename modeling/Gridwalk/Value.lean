import Gridwalk.Text.Decimal
import Gridwalk.Text.Quoted

/-! # Modes and values

In cardinal mode the walk is straight and values are read as integers; in ordinal mode the walk is
diagonal and values are read as texts. A value is an integer or a text, and an integer is read as the
text of its decimal form.
-/

namespace Gridwalk
set_option autoImplicit false

inductive Mode where
  | cardinal
  | ordinal
deriving DecidableEq, Repr, Inhabited

namespace Mode

def other : Mode → Mode
  | cardinal => ordinal
  | ordinal => cardinal

def name : Mode → String
  | cardinal => "Cardinal"
  | ordinal => "Ordinal"

end Mode

inductive Value where
  | integer (n : Int)
  | text (s : String)
deriving DecidableEq, Repr, Inhabited

namespace Value

def chars : Value → List Char
  | integer n => Text.decimal n
  | text s => s.toList

def ofChars (s : List Char) : Value := text (String.ofList s)

def display : Value → String
  | integer n => toString n
  | text s => Text.quote s

end Value

end Gridwalk
