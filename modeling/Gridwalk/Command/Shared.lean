/-! # Commands of both modes

They read and write values in the form of the current mode.
-/

namespace Gridwalk
set_option autoImplicit false

inductive Shared where
  | stop
  | openLiteral
  | quoteNext
  | skip
  | duplicate
  | discard
  | swap
  | convert
  | iterate
  | pushReturn
  | dropReturn
  | goBack
  | goBackKeeping
deriving DecidableEq, Repr

namespace Shared

def all : List Shared :=
  [
    .stop, .openLiteral, .quoteNext, .skip, .duplicate, .discard, .swap, .convert, .iterate,
    .pushReturn, .dropReturn, .goBack, .goBackKeeping]

def glyph : Shared → Char
  | .stop => '@'
  | .openLiteral => '\x22'
  | .quoteNext => '\x27'
  | .skip => '#'
  | .duplicate => '.'
  | .discard => ';'
  | .swap => '~'
  | .convert => 'Q'
  | .iterate => '&'
  | .pushReturn => 'w'
  | .dropReturn => 'W'
  | .goBack => 'k'
  | .goBackKeeping => 'K'

def name : Shared → String
  | .stop => "Terminate"
  | .openLiteral => "StringMode"
  | .quoteNext => "Escape"
  | .skip => "Skip"
  | .duplicate => "Duplicate"
  | .discard => "Discard"
  | .swap => "Swap"
  | .convert => "Convert"
  | .iterate => "Iterate"
  | .pushReturn => "PushReturn"
  | .dropReturn => "DropReturn"
  | .goBack => "Return"
  | .goBackKeeping => "ReturnKeep"

def ofGlyph? (c : Char) : Option Shared := all.find? (·.glyph == c)

theorem ofGlyph?_glyph (op : Shared) : ofGlyph? op.glyph = some op := by
  cases op <;> decide

end Shared

end Gridwalk
