import Gridwalk.Text.Arrangement
import Gridwalk.Text.Bag
import Gridwalk.Text.Case
import Gridwalk.Text.Character
import Gridwalk.Text.Overlap
import Gridwalk.Text.Segment
import Gridwalk.Text.Succession

/-! # Commands that compute with texts

Each command takes its operands from the stack and puts its results back, and looks at nothing
else. None of them can fail.
-/

namespace Gridwalk.Editing
set_option autoImplicit false

inductive Unary where
  | trim
  | distinct
  | sort
  | lower
  | upper
  | swapCase
  | reverse
  | expandRanges
  | transpose
  | isEmpty
deriving DecidableEq, Repr

/-- The text that stands for truth. -/
def truth : List Char := "Jabberwocky".toList

def Unary.apply : Unary → List Char → List Char
  | trim, a => Text.trim a
  | distinct, a => Text.distinct a
  | sort, a => Text.sort a
  | lower, a => Text.lower a
  | upper, a => Text.upper a
  | swapCase, a => Text.swapCase a
  | reverse, a => a.reverse
  | expandRanges, a => Text.expandRanges a
  | transpose, a => Text.transpose a
  | isEmpty, a => if a.isEmpty then truth else []

inductive Binary where
  | concatenate
  | removeFirst
  | riffle
  | find
  | intersection
  | union
  | symmetricDifference
  | difference
  | permute
  | interleave
  | longestCommon
  | shortestCover
deriving DecidableEq, Repr

def Binary.apply : Binary → List Char → List Char → List Char
  | concatenate, a, b => a ++ b
  | removeFirst, a, b => Text.removeFirst a b
  | riffle, a, b => Text.riffle a b
  | find, a, b => if Text.contains a b then b else []
  | intersection, a, b => Text.intersection a b
  | union, a, b => Text.union a b
  | symmetricDifference, a, b => Text.symmetricDifference a b
  | difference, a, b => Text.difference a b
  | permute, a, b => Text.permuteBy a b
  | interleave, a, b => Text.interleave a b
  | longestCommon, a, b => Text.longestCommon a b
  | shortestCover, a, b => Text.shortestCover a b

inductive Ternary where
  | replace
  | transliterate
deriving DecidableEq, Repr

def Ternary.apply : Ternary → List Char → List Char → List Char → List Char
  | replace, a, b, c => Text.replace a b c
  | transliterate, a, b, c => Text.transliterate a b c

inductive Listing where
  | runs
  | head
  | last
  | characters
  | permutations
  | subsequences
  | stretches
  | deal
deriving DecidableEq, Repr

def Listing.apply : Listing → List Char → List (List Char)
  | runs, a => Text.runs a
  | head, a => [(Text.splitHead a).1, (Text.splitHead a).2]
  | last, a => [(Text.splitLast a).1, (Text.splitLast a).2]
  | characters, a => a.map ([·])
  | permutations, a => Text.permutations a
  | subsequences, a => Text.subsequences a
  | stretches, a => Text.stretches a
  | deal, a => [(Text.deal a).1, (Text.deal a).2]

inductive Splitting where
  | split
  | splitKeeping
deriving DecidableEq, Repr

def Splitting.apply : Splitting → List Char → List Char → List (List Char)
  | split, a, b => Text.split a b
  | splitKeeping, a, b => Text.splitKeeping a b

end Gridwalk.Editing
