/-! # Decimal numerals

A numeral is a run of the digits 0 to 9, with or without a minus sign in front. Those in a text are
searched for from the left: the leftmost one is taken, as long as it gets, and the search goes on
behind it.
-/

namespace Gridwalk.Text
set_option autoImplicit false

def takeSign : List Char → List Char × List Char
  | '-' :: rest => (['-'], rest)
  | s => ([], s)

/-- The longest numeral that a text starts with, and what follows it. -/
def numeral? (s : List Char) : Option (List Char × List Char) :=
  let (sign, unsigned) := takeSign s
  let digits := unsigned.takeWhile Char.isDigit
  if digits.isEmpty then none else some (sign ++ digits, unsigned.dropWhile Char.isDigit)

theorem length_takeSign (s : List Char) : (takeSign s).2.length ≤ s.length := by
  rw [takeSign.eq_def]
  split
  · exact Nat.le_succ _
  · exact Nat.le_refl _

theorem length_lt_of_numeral? {s numeral rest : List Char} (h : numeral? s = some (numeral, rest)) :
    rest.length < s.length := by
  have hsign := length_takeSign s
  unfold numeral? at h
  generalize takeSign s = signed at h hsign
  obtain ⟨sign, unsigned⟩ := signed
  dsimp only at h hsign
  split at h
  · cases h
  · rename_i hdigits
    cases h
    have hpos : 0 < (unsigned.takeWhile Char.isDigit).length := by
      rwa [List.isEmpty_iff, ← List.length_eq_zero_iff, ← Ne, ← Nat.pos_iff_ne_zero] at hdigits
    have hlength := congrArg List.length
      (List.takeWhile_append_dropWhile (p := Char.isDigit) (l := unsigned))
    rw [List.length_append] at hlength
    omega

def numerals : List Char → List (List Char)
  | [] => []
  | c :: cs =>
    match _h : numeral? (c :: cs) with
    | some (numeral, rest) => numeral :: numerals rest
    | none => numerals cs
termination_by s => s.length
decreasing_by
  · exact length_lt_of_numeral? _h
  · exact Nat.lt_succ_self _

def natural? (s : List Char) : Option Nat :=
  if s.isEmpty ∨ ¬ s.all Char.isDigit then none else some (Nat.ofDigitChars 10 s 0)

def integer? : List Char → Option Int
  | '-' :: digits => (natural? digits).map fun n : Nat => -(n : Int)
  | digits => (natural? digits).map fun n : Nat => (n : Int)

def decimalRuns (s : List Char) : List Int := (numerals s).filterMap integer?

def decimal (n : Int) : List Char := (toString n).toList

end Gridwalk.Text
