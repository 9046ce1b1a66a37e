import Gridwalk.Text.Utf8

/-! # Streams

The input is the list of bytes that have not been read yet. Behind them it either ends or fails. A
failure is noticed only when the end is looked at, and what the reader took before is lost.

The output keeps the bytes written. It may have room for a limited number of bytes only; a write that
does not fit writes what fits and fails.

Random choices are a stream too. Nothing is said about how they come about: a run is a function of
the choices that it is given.
-/

namespace Gridwalk
set_option autoImplicit false

inductive StreamFault where
  | unreadable
  | closed
  | unflushable
deriving DecidableEq, Repr

def StreamFault.message : StreamFault → String
  | unreadable => "unreadable"
  | closed => "closed"
  | unflushable => "unflushable"

structure Input where
  unread : List UInt8
  fails : Bool
deriving DecidableEq, Repr

namespace Input

open Text

abbrev Reader := EStateM StreamFault Input

def ofBytes (bytes : List UInt8) : Input := ⟨bytes, false⟩

def atEnd : Reader Unit := fun i =>
  if i.fails then .error .unreadable { i with unread := [] } else .ok () { i with unread := [] }

def byte : Reader (Option UInt8) := do
  match (← get).unread with
  | b :: rest => modify ({ · with unread := rest }); return some b
  | [] => atEnd; return none

/-- Read one character. A faulty sequence is taken with all continuation bytes that its first byte
announces, and gives the replacement character. -/
def char : Reader (Option Char) := do
  match ← byte with
  | none => return none
  | some b =>
    match Utf8.announcedLength? b with
    | none => return some Utf8.replacement
    | some length =>
      let (taken, rest) := Utf8.takeContinuation (length - 1) (← get).unread
      modify ({ · with unread := rest })
      if taken.length < length - 1 ∧ rest.isEmpty then atEnd
      return some (Utf8.decodeOne (b :: taken))

/-- Read one line. Its end, a line feed with or without a carriage return before it, is taken but
does not belong to it. -/
def line : Reader (Option (List Char)) := do
  let bytes := (← get).unread
  let (before, after) := bytes.span (· != 0x0A)
  match after with
  | _ :: rest =>
    modify ({ · with unread := rest })
    let stripped := if before.getLast? = some 0x0D then before.dropLast else before
    return some (Utf8.decodeLossy stripped)
  | [] =>
    atEnd
    return if before.isEmpty then none else some (Utf8.decodeLossy before)

def all : Reader (List Char) := do
  let bytes := (← get).unread
  atEnd
  return Utf8.decodeLossy bytes

end Input

structure Output where
  written : Array UInt8
  room : Option Nat
  flushFails : Bool
deriving DecidableEq, Repr

namespace Output

abbrev Writer := EStateM StreamFault Output

def empty : Output := ⟨#[], none, false⟩

def write (bytes : List UInt8) : Writer Unit := fun o =>
  match o.room with
  | none => .ok () { o with written := o.written ++ bytes }
  | some room =>
    let o' := { o with written := o.written ++ bytes.take room, room := some (room - bytes.length) }
    if bytes.length ≤ room then .ok () o' else .error .closed o'

def flush : Writer Unit := fun o => if o.flushFails then .error .unflushable o else .ok () o

end Output

/-- The choice number `k` among `n + 1` things is `choose k n`. So many as `used` have been made. -/
structure Dice where
  choose : Nat → (n : Nat) → Fin (n + 1)
  used : Nat

namespace Dice

def first : Dice := ⟨fun _ _ => 0, 0⟩

/-- A number below `n`. Where there is none it is 0, and no choice is made. -/
def below : Nat → Dice → Nat × Dice
  | 0, d => (0, d)
  | n + 1, d => (d.choose d.used n, { d with used := d.used + 1 })

/-- Each of the places `i`, `i - 1`, …, 1 is swapped with one that is not behind it. -/
def shuffleFrom {α : Type} : Nat → Array α → Dice → Array α × Dice
  | 0, a, d => (a, d)
  | i + 1, a, d =>
    let (j, d') := d.below (i + 2)
    shuffleFrom i (a.swapIfInBounds (i + 1) j) d'

def shuffle {α : Type} (l : List α) (d : Dice) : List α × Dice :=
  let (a, d') := shuffleFrom (l.length - 1) l.toArray d
  (a.toList, d')

theorem perm_shuffleFrom {α : Type} (i : Nat) (a : Array α) (d : Dice) :
    (shuffleFrom i a d).1.Perm a := by
  induction i generalizing a d with
  | zero => exact .refl a
  | succ i ih =>
    refine (ih _ _).trans ?_
    unfold Array.swapIfInBounds
    split
    · split
      · exact Array.swap_perm _ _
      · exact .refl a
    · exact .refl a

theorem perm_shuffle {α : Type} (l : List α) (d : Dice) : (shuffle l d).1.Perm l :=
  (perm_shuffleFrom (l.length - 1) l.toArray d).toList

end Dice

end Gridwalk
