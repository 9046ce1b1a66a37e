import Gridwalk.Command.Editing

/-! # Commands of the ordinal mode

They compute with texts, and reach cells by the label before them.
-/

namespace Gridwalk
set_option autoImplicit false

inductive Ordinal where
  | digit (d : Fin 10)
  | binary (f : Editing.Binary)
  | count
  | splitting (f : Editing.Splitting)
  | ternary (f : Editing.Ternary)
  | unary (f : Editing.Unary)
  | shuffle
  | randomChar
  | listing (f : Editing.Listing)
  | ensureWest
  | ensureEast
  | ensureNorth
  | ensureSouth
  | strafeLeft
  | strafeRight
  | compare
  | skipIfEmpty
  | call
  | jump
  | readAfterLabel
  | writeAfterLabel
  | joinStack
  | reverseStack
  | permuteStack
  | writeRegister
  | readRegister
  | previousRegister
  | nextRegister
  | readAll
  | readLine
  | write
  | writeLine
  | nextArgument
  | newline
  | empty
  | time
deriving DecidableEq, Repr

namespace Ordinal

def all : List Ordinal :=
  (List.finRange 10).map .digit ++ ([
    .binary .concatenate, .binary .removeFirst, .binary .riffle, .count, .splitting .split,
    .splitting .splitKeeping, .binary .find, .ternary .replace, .unary .trim,
    .ternary .transliterate, .binary .intersection, .binary .union, .binary .symmetricDifference,
    .binary .difference, .unary .distinct, .unary .sort, .shuffle, .randomChar, .unary .lower,
    .unary .upper, .unary .swapCase, .listing .runs, .listing .head, .listing .last,
    .listing .characters, .unary .reverse, .listing .permutations, .listing .subsequences,
    .listing .stretches, .binary .permute, .unary .expandRanges, .binary .interleave,
    .listing .deal, .binary .longestCommon, .binary .shortestCover, .unary .transpose,
    .ensureWest, .ensureEast, .ensureNorth, .ensureSouth, .strafeLeft, .strafeRight, .compare,
    .skipIfEmpty, .call, .jump, .readAfterLabel, .writeAfterLabel, .joinStack, .reverseStack,
    .permuteStack, .writeRegister, .readRegister, .previousRegister, .nextRegister, .readAll,
    .readLine, .write, .writeLine, .nextArgument, .unary .isEmpty, .newline, .empty,
    .time] : List Ordinal)

def glyph : Ordinal → Char
  | .digit d => Char.ofNat ('0'.toNat + d)
  | .binary .concatenate => '+'
  | .binary .removeFirst => '-'
  | .binary .riffle => '*'
  | .count => ':'
  | .splitting .split => '%'
  | .splitting .splitKeeping => 'M'
  | .binary .find => 'F'
  | .ternary .replace => 'S'
  | .unary .trim => 'H'
  | .ternary .transliterate => 'y'
  | .binary .intersection => 'A'
  | .binary .union => 'V'
  | .binary .symmetricDifference => 'X'
  | .binary .difference => 'N'
  | .unary .distinct => 'D'
  | .unary .sort => 's'
  | .shuffle => 'b'
  | .randomChar => 'U'
  | .unary .lower => 'l'
  | .unary .upper => 'u'
  | .unary .swapCase => 'E'
  | .listing .runs => 'f'
  | .listing .head => 'h'
  | .listing .last => 't'
  | .listing .characters => 'c'
  | .unary .reverse => 'R'
  | .listing .permutations => 'P'
  | .listing .subsequences => 'C'
  | .listing .stretches => 'B'
  | .binary .permute => 'x'
  | .unary .expandRanges => 'r'
  | .binary .interleave => 'Z'
  | .listing .deal => 'Y'
  | .binary .longestCommon => 'G'
  | .binary .shortestCover => 'L'
  | .unary .transpose => 'z'
  | .ensureWest => '<'
  | .ensureEast => '>'
  | .ensureNorth => '^'
  | .ensureSouth => 'v'
  | .strafeLeft => '\x7b'
  | .strafeRight => '\x7d'
  | .compare => '='
  | .skipIfEmpty => '$'
  | .call => 'j'
  | .jump => 'J'
  | .readAfterLabel => 'g'
  | .writeAfterLabel => 'p'
  | .joinStack => 'd'
  | .reverseStack => 'q'
  | .permuteStack => ','
  | .writeRegister => '!'
  | .readRegister => '?'
  | .previousRegister => '['
  | .nextRegister => ']'
  | .readAll => 'i'
  | .readLine => 'I'
  | .write => 'o'
  | .writeLine => 'O'
  | .nextArgument => '\x60'
  | .unary .isEmpty => 'n'
  | .newline => 'a'
  | .empty => 'e'
  | .time => 'T'

def name : Ordinal → String
  | .digit d => "Digit(" ++ toString d.val ++ ")"
  | .binary .concatenate => "Concat"
  | .binary .removeFirst => "Remove"
  | .binary .riffle => "Riffle"
  | .count => "Count"
  | .splitting .split => "Split"
  | .splitting .splitKeeping => "SplitInclusive"
  | .binary .find => "Find"
  | .ternary .replace => "Replace"
  | .unary .trim => "Trim"
  | .ternary .transliterate => "Transliterate"
  | .binary .intersection => "Intersection"
  | .binary .union => "Union"
  | .binary .symmetricDifference => "SymmetricDifference"
  | .binary .difference => "Complement"
  | .unary .distinct => "Dedup"
  | .unary .sort => "Sort"
  | .shuffle => "Shuffle"
  | .randomChar => "RandomChar"
  | .unary .lower => "Lower"
  | .unary .upper => "Upper"
  | .unary .swapCase => "SwapCase"
  | .listing .runs => "Runs"
  | .listing .head => "Head"
  | .listing .last => "Tail"
  | .listing .characters => "Chars"
  | .unary .reverse => "Reverse"
  | .listing .permutations => "Permutations"
  | .listing .subsequences => "Subsequences"
  | .listing .stretches => "Substrings"
  | .binary .permute => "Permute"
  | .unary .expandRanges => "ExpandRanges"
  | .binary .interleave => "Zip"
  | .listing .deal => "Unzip"
  | .binary .longestCommon => "LongestCommonSubstring"
  | .binary .shortestCover => "ShortestCommonSuperstring"
  | .unary .transpose => "Transpose"
  | .ensureWest => "EnsureWest"
  | .ensureEast => "EnsureEast"
  | .ensureNorth => "EnsureNorth"
  | .ensureSouth => "EnsureSouth"
  | .strafeLeft => "StrafeLeft"
  | .strafeRight => "StrafeRight"
  | .compare => "Compare"
  | .skipIfEmpty => "SkipIfEmpty"
  | .call => "Call"
  | .jump => "Jump"
  | .readAfterLabel => "GetLabel"
  | .writeAfterLabel => "PutLabel"
  | .joinStack => "JoinStack"
  | .reverseStack => "ReverseStack"
  | .permuteStack => "PermuteStack"
  | .writeRegister => "WriteRegister"
  | .readRegister => "ReadRegister"
  | .previousRegister => "PreviousRegister"
  | .nextRegister => "NextRegister"
  | .readAll => "ReadAll"
  | .readLine => "ReadLine"
  | .write => "Write"
  | .writeLine => "WriteLine"
  | .nextArgument => "NextArg"
  | .unary .isEmpty => "LogicalNot"
  | .newline => "Newline"
  | .empty => "Empty"
  | .time => "Timestamp"

def ofGlyph? (c : Char) : Option Ordinal := all.find? (·.glyph == c)

theorem ofGlyph?_glyph (op : Ordinal) : ofGlyph? op.glyph = some op := by
  cases op with
  | digit d => revert d; decide
  | unary f | binary f | ternary f | listing f | splitting f => cases f <;> decide
  | _ => decide

end Ordinal

end Gridwalk
