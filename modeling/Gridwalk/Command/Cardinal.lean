import Gridwalk.Command.Arithmetic

/-! # Commands of the cardinal mode

They compute with integers, and reach cells by their coordinates.
-/

namespace Gridwalk
set_option autoImplicit false

inductive Cardinal where
  | digit (d : Fin 10)
  | binary (f : Arithmetic.Binary)
  | division (f : Arithmetic.Division)
  | unary (f : Arithmetic.Unary)
  | listing (f : Arithmetic.Listing)
  | replaceFactor
  | ten
  | minusOne
  | depth
  | rotate
  | faceWest
  | faceEast
  | faceNorth
  | faceSouth
  | turnLeft
  | turnRight
  | turnBySign
  | skipIfZero
  | call
  | jump
  | readCell
  | writeCell
  | store
  | fetch
  | moveLeft
  | moveRight
  | seekLeft
  | seekRight
  | pointer
  | readByte
  | readChar
  | writeByte
  | writeChar
  | argumentCount
  | random
  | pause
deriving DecidableEq, Repr

namespace Cardinal

def all : List Cardinal :=
  (List.finRange 10).map .digit ++ ([
    .binary .add, .binary .subtract, .binary .multiply, .division .quotient, .division .remainder,
    .division .both, .division .multiple, .unary .increment, .unary .decrement, .unary .magnitude,
    .unary .negate, .binary .bitAnd, .binary .bitOr, .binary .bitXor, .unary .complement,
    .unary .highestBit, .unary .fillBits, .division .power, .unary .factorial, .binary .binomial,
    .listing .primeFactors, .listing .factorPairs, .unary .radical, .replaceFactor,
    .listing .divisors, .binary .gcd, .binary .lcm, .binary .divisorOrZero, .binary .pack,
    .listing .unpack, .unary .isZero, .ten, .minusOne, .depth, .rotate, .faceWest, .faceEast,
    .faceNorth, .faceSouth, .turnLeft, .turnRight, .turnBySign, .skipIfZero, .call, .jump,
    .readCell, .writeCell, .store, .fetch, .moveLeft, .moveRight, .seekLeft, .seekRight, .pointer,
    .readByte, .readChar, .writeByte, .writeChar, .argumentCount, .random, .pause] : List Cardinal)

def glyph : Cardinal → Char
  | .digit d => Char.ofNat ('0'.toNat + d)
  | .binary .add => '+'
  | .binary .subtract => '-'
  | .binary .multiply => '*'
  | .division .quotient => ':'
  | .division .remainder => '%'
  | .division .both => 'M'
  | .division .multiple => 'm'
  | .unary .increment => 'h'
  | .unary .decrement => 't'
  | .unary .magnitude => 'H'
  | .unary .negate => 'R'
  | .binary .bitAnd => 'A'
  | .binary .bitOr => 'V'
  | .binary .bitXor => 'X'
  | .unary .complement => 'N'
  | .unary .highestBit => 'l'
  | .unary .fillBits => 'u'
  | .division .power => 'E'
  | .unary .factorial => 'P'
  | .binary .binomial => 'C'
  | .listing .primeFactors => 'c'
  | .listing .factorPairs => 'f'
  | .unary .radical => 'D'
  | .replaceFactor => 'S'
  | .listing .divisors => 'B'
  | .binary .gcd => 'G'
  | .binary .lcm => 'L'
  | .binary .divisorOrZero => 'F'
  | .binary .pack => 'Z'
  | .listing .unpack => 'Y'
  | .unary .isZero => 'n'
  | .ten => 'a'
  | .minusOne => 'e'
  | .depth => 'd'
  | .rotate => ','
  | .faceWest => '<'
  | .faceEast => '>'
  | .faceNorth => '^'
  | .faceSouth => 'v'
  | .turnLeft => '\x7b'
  | .turnRight => '\x7d'
  | .turnBySign => '='
  | .skipIfZero => '$'
  | .call => 'j'
  | .jump => 'J'
  | .readCell => 'g'
  | .writeCell => 'p'
  | .store => '!'
  | .fetch => '?'
  | .moveLeft => '['
  | .moveRight => ']'
  | .seekLeft => '('
  | .seekRight => ')'
  | .pointer => 'q'
  | .readByte => 'i'
  | .readChar => 'I'
  | .writeByte => 'o'
  | .writeChar => 'O'
  | .argumentCount => '\x60'
  | .random => 'U'
  | .pause => 'T'

def name : Cardinal → String
  | .digit d => "Digit(" ++ toString d.val ++ ")"
  | .binary .add => "Add"
  | .binary .subtract => "Subtract"
  | .binary .multiply => "Multiply"
  | .division .quotient => "Divide"
  | .division .remainder => "Modulo"
  | .division .both => "DivMod"
  | .division .multiple => "FloorToMultiple"
  | .unary .increment => "Increment"
  | .unary .decrement => "Decrement"
  | .unary .magnitude => "Abs"
  | .unary .negate => "Negate"
  | .binary .bitAnd => "BitAnd"
  | .binary .bitOr => "BitOr"
  | .binary .bitXor => "BitXor"
  | .unary .complement => "BitNot"
  | .unary .highestBit => "HighestBit"
  | .unary .fillBits => "FillBits"
  | .division .power => "Power"
  | .unary .factorial => "Factorial"
  | .binary .binomial => "Binomial"
  | .listing .primeFactors => "PrimeFactors"
  | .listing .factorPairs => "FactorPairs"
  | .unary .radical => "Radical"
  | .replaceFactor => "ReplaceDivisor"
  | .listing .divisors => "Divisors"
  | .binary .gcd => "Gcd"
  | .binary .lcm => "Lcm"
  | .binary .divisorOrZero => "Divides"
  | .binary .pack => "Pack"
  | .listing .unpack => "Unpack"
  | .unary .isZero => "LogicalNot"
  | .ten => "Ten"
  | .minusOne => "MinusOne"
  | .depth => "Depth"
  | .rotate => "Rotate"
  | .faceWest => "FaceWest"
  | .faceEast => "FaceEast"
  | .faceNorth => "FaceNorth"
  | .faceSouth => "FaceSouth"
  | .turnLeft => "TurnLeft"
  | .turnRight => "TurnRight"
  | .turnBySign => "SignTurn"
  | .skipIfZero => "SkipIfZero"
  | .call => "Call"
  | .jump => "Jump"
  | .readCell => "GetCell"
  | .writeCell => "PutCell"
  | .store => "Store"
  | .fetch => "Fetch"
  | .moveLeft => "MemoryLeft"
  | .moveRight => "MemoryRight"
  | .seekLeft => "SeekLeft"
  | .seekRight => "SeekRight"
  | .pointer => "MemoryPointer"
  | .readByte => "ReadByte"
  | .readChar => "ReadChar"
  | .writeByte => "WriteByte"
  | .writeChar => "WriteChar"
  | .argumentCount => "ArgCount"
  | .random => "Random"
  | .pause => "Sleep"

def ofGlyph? (c : Char) : Option Cardinal := all.find? (·.glyph == c)

theorem ofGlyph?_glyph (op : Cardinal) : ofGlyph? op.glyph = some op := by
  cases op with
  | digit d => revert d; decide
  | unary f | binary f | division f | listing f => cases f <;> decide
  | _ => decide

end Cardinal

end Gridwalk
