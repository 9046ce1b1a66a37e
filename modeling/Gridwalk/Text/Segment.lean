/-! # Occurrences and pieces

Every command that looks for one text inside another goes by the same occurrences: the leftmost one
is taken, and the search goes on behind it. An empty text is never searched for.
-/

namespace Gridwalk.Text
set_option autoImplicit false

def find? (b : List Char) : List Char → Option Nat
  | [] => if b.isEmpty then some 0 else none
  | c :: cs => if b.isPrefixOf (c :: cs) then some 0 else (find? b cs).map (· + 1)

theorem le_length_of_find? {a b : List Char} {k : Nat} (h : find? b a = some k) :
    k + b.length ≤ a.length := by
  induction a generalizing k with
  | nil =>
    rw [find?] at h
    split at h
    · rename_i hb
      cases h
      simp [List.isEmpty_iff.mp hb]
    · cases h
  | cons c cs ih =>
    rw [find?] at h
    split at h
    · rename_i hb
      cases h
      simpa using (List.isPrefixOf_iff_prefix.mp hb).length_le
    · obtain ⟨k', hk', rfl⟩ := Option.map_eq_some_iff.mp h
      have hle := ih hk'
      rw [List.length_cons]
      omega

def contains (a b : List Char) : Bool := (find? b a).isSome

/-- The places of the occurrences of `b` from the given place on, none of which overlap. -/
def occurrencesFrom (a b : List Char) (start : Nat) : List Nat :=
  if b = [] then []
  else
    match _h : find? b (a.drop start) with
    | none => []
    | some k => (start + k) :: occurrencesFrom a b (start + k + b.length)
termination_by a.length - start
decreasing_by
  have hpos : 0 < b.length := List.length_pos_iff.mpr ‹_›
  have hle := le_length_of_find? ‹_›
  rw [List.length_drop] at hle
  omega

def occurrences (a b : List Char) : List Nat := occurrencesFrom a b 0

/-- The stretches of `a` between the `width` characters at each given place, from `start` on. -/
def between (a : List Char) (width start : Nat) : List Nat → List (List Char)
  | [] => [a.drop start]
  | place :: places => (a.take place).drop start :: between a width (place + width) places

/-- The text from `start` on with `c` for the `width` characters at each given place. -/
def substitute (a : List Char) (width : Nat) (c : List Char) (start : Nat) : List Nat → List Char
  | [] => a.drop start
  | place :: places =>
    (a.take place).drop start ++ c ++ substitute a width c (place + width) places

/-- The pieces of `a` between the occurrences of `b`, or its characters if `b` is empty. -/
def split (a b : List Char) : List (List Char) :=
  if b.isEmpty then a.map ([·]) else between a b.length 0 (occurrences a b)

def splitKeeping (a b : List Char) : List (List Char) :=
  if b.isEmpty then split a b
  else (split a b).zipIdx.flatMap fun (piece, i) => if 0 < i then [b, piece] else [piece]

def count (a b : List Char) : Nat := if b.isEmpty then 0 else (occurrences a b).length

def replace (a b c : List Char) : List Char :=
  if b.isEmpty then a else substitute a b.length c 0 (occurrences a b)

def removeFirst (a b : List Char) : List Char :=
  if b.isEmpty then a else substitute a b.length [] 0 ((occurrences a b).take 1)

def riffle (a separator : List Char) : List Char := List.intercalate separator (a.map ([·]))

end Gridwalk.Text
