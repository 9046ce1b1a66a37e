/-! # Arrangements of a text

Lines and columns, sorting by a key, interleaving, runs.
-/

namespace Gridwalk.Text
set_option autoImplicit false

/-! ## Lines and columns -/

/-- The lines of a text, split at line feeds. There is always at least one. -/
def lines : List Char → List (List Char)
  | [] => [[]]
  | c :: cs =>
    if c = '\n' then [] :: lines cs
    else
      match lines cs with
      | [] => [[c]]
      | line :: rest => (c :: line) :: rest

def trimEnd (c : Char) (s : List Char) : List Char := (s.reverse.dropWhile (· == c)).reverse

/-- The column `x` of some lines, with a space where a line is too short. -/
def column (ls : List (List Char)) (x : Nat) : List Char := ls.map fun row => row[x]?.getD ' '

def width (ls : List (List Char)) : Nat := (ls.map List.length).foldr max 0

def columns (ls : List (List Char)) : List (List Char) :=
  (List.range (width ls)).map fun x => trimEnd ' ' (column ls x)

/-- Lines become columns. Spaces at the end of the new lines are dropped. -/
def transpose (s : List Char) : List Char := List.intercalate ['\n'] (columns (lines s))

/-! ## Sorting by a key -/

/-- Whether an item with the key character `r` may stand before one with `s`. Items without a key
character stand behind all others. -/
def ranksBefore : Option Char → Option Char → Bool
  | some c, some d => decide (c ≤ d)
  | none, some _ => false
  | _, none => true

def ranked {α : Type} (items : List α) (key : List Char) : List (Option Char × α) :=
  items.zipIdx.map fun (item, i) => (key[i]?, item)

/-- The items sorted by the key character at their place, equal keys in their order. -/
def permuteBy {α : Type} (items : List α) (key : List Char) : List α :=
  ((ranked items key).mergeSort fun p q => ranksBefore p.1 q.1).map Prod.snd

/-- The characters of both texts in turn. A text that has ended gives none. -/
def interleave : List Char → List Char → List Char
  | [], [] => []
  | c :: cs, [] => c :: interleave cs []
  | [], d :: ds => d :: interleave [] ds
  | c :: cs, d :: ds => c :: d :: interleave cs ds
termination_by a b => a.length + b.length

/-- The characters at even and at odd places, if the first one has place `i`. -/
def dealFrom : Nat → List Char → List Char × List Char
  | _, [] => ([], [])
  | i, c :: cs =>
    let (even, odd) := dealFrom (i + 1) cs
    if i % 2 = 0 then (c :: even, odd) else (even, c :: odd)

def deal (a : List Char) : List Char × List Char := dealFrom 0 a

def runs (a : List Char) : List (List Char) := a.splitBy (· == ·)

def splitHead (a : List Char) : List Char × List Char := (a.drop 1, a.take 1)

def splitLast (a : List Char) : List Char × List Char := (a.dropLast, a.drop (a.length - 1))

end Gridwalk.Text
