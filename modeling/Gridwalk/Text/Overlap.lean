import Gridwalk.Text.Place
import Gridwalk.Text.Segment

/-! # Common substrings and superstrings

Both are computed by places. A place out of range has no value, so that the computations show that
they stay in range.
-/

namespace Gridwalk.Text
set_option autoImplicit false

/-- A common text: its length, and the place behind it in the first text. -/
structure Common where
  length : Nat
  stop : Nat

/-- The longer one, and the one found before if they are equally long. -/
def Common.improve (best : Common) (length stop : Nat) : Common :=
  if best.length < length then ⟨length, stop⟩ else best

/-- Fill place `j` of row `i`, with the length of the longest common text that ends behind `i`
characters of `a` and behind `j` characters of `b`. A row starts with zeros. -/
def fill? (a b : Array Char) (previous : Array Nat) (i : Nat) (state : Array Nat × Common)
    (j : Nat) : Option (Array Nat × Common) := do
  let (row, best) := state
  let x ← a[← difference? i 1]?
  let y ← b[← difference? j 1]?
  if x = y then
    let length := (← previous[← difference? j 1]?) + 1
    return (← update? row j length, best.improve length i)
  else return (row, best)

def fillRow? (a b : Array Char) (state : Array Nat × Common) (i : Nat) :
    Option (Array Nat × Common) :=
  (List.range' 1 b.size).foldlM (fill? a b state.1 i) (Array.replicate (b.size + 1) 0, state.2)

def longestCommon? (a b : List Char) : Option (List Char) := do
  let (_, best) ← (List.range' 1 a.length).foldlM (fillRow? a.toArray b.toArray)
    (Array.replicate (b.length + 1) 0, ⟨0, 0⟩)
  stretch? a (← difference? best.stop best.length) best.stop

/-- The longest text that occurs in both, leftmost in `a`. -/
def longestCommon (a b : List Char) : List Char := (longestCommon? a b).getD []

def overlaps? (a b : List Char) (k : Nat) : Option Bool := do
  let ending ← stretch? a (← difference? a.length k) a.length
  let beginning ← stretch? b 0 k
  return ending == beginning

def overlap? (a b : List Char) : Option Nat := do
  return (← lastFrom? (overlaps? a b) 0 (min a.length b.length + 1)).getD 0

def shortestCover? (a b : List Char) : Option (List Char) := do
  if contains a b then return a
  if contains b a then return b
  let forth ← overlap? a b
  let back ← overlap? b a
  if back ≤ forth then return a ++ (← stretch? b forth b.length)
  else return b ++ (← stretch? a back a.length)

/-- The shortest text that contains both. If both orders are equally short, `a` comes first. -/
def shortestCover (a b : List Char) : List Char := (shortestCover? a b).getD []

end Gridwalk.Text
