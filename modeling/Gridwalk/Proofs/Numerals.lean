import Gridwalk.Machine.State
import Mathlib.Data.List.Basic

/-! # Integers survive as text

The decimal form of an integer is a numeral, and the search finds it whole in front of anything that
does not start with a digit. What stands between two numerals is passed if it has neither digits nor
minus signs. A minus sign behind a numeral would belong to the next one and is not considered here.
-/

namespace Gridwalk
set_option autoImplicit false

namespace Text

def Separates (s : List Char) : Prop := ∀ c ∈ s, c.isDigit = false ∧ c ≠ '-'

instance (s : List Char) : Decidable (Separates s) := List.decidableBAll _ s

def rendered (pieces : List (Int × List Char)) : List Char :=
  pieces.flatMap fun piece => decimal piece.1 ++ piece.2

theorem takeSign_of_ne {c : Char} (hc : c ≠ '-') (cs : List Char) :
    takeSign (c :: cs) = ([], c :: cs) := by
  rw [takeSign.eq_def]
  split
  · rename_i h
    exact absurd (List.cons.inj h).1 hc
  · rfl

theorem integer?_of_ne {c : Char} (hc : c ≠ '-') (cs : List Char) :
    integer? (c :: cs) = (natural? (c :: cs)).map fun n : Nat => (n : Int) := by
  rw [integer?.eq_def]
  split
  · rename_i h
    exact absurd (List.cons.inj h).1 hc
  · rfl

/-! ## Between the numerals -/

theorem numeral?_eq_none {c : Char} (hdigit : c.isDigit = false) (hminus : c ≠ '-')
    (cs : List Char) : numeral? (c :: cs) = none := by
  simp [numeral?, takeSign_of_ne hminus, hdigit]

theorem numerals_append_of_separates {s : List Char} (h : Separates s) (rest : List Char) :
    numerals (s ++ rest) = numerals rest := by
  induction s with
  | nil => rfl
  | cons c s ih =>
    obtain ⟨⟨hdigit, hminus⟩, hs⟩ := List.forall_mem_cons.mp h
    rw [List.cons_append, numerals]
    split
    · rename_i hnumeral
      rw [numeral?_eq_none hdigit hminus] at hnumeral
      cases hnumeral
    · exact ih hs

/-! ## The numeral of an integer -/

theorem decimal_eq (n : Int) :
    decimal n = if n < 0 then '-' :: Nat.toDigits 10 n.natAbs else Nat.toDigits 10 n.natAbs := by
  rw [decimal, Int.toString_eq_repr, Int.repr_eq_if]
  rcases Int.lt_or_le n 0 with hn | hn
  · have habs : (-n).toNat = n.natAbs := by omega
    rw [if_neg (Int.not_le.mpr hn), if_pos hn, habs, Nat.repr_eq_ofList_toDigits]
    simp
  · have habs : n.toNat = n.natAbs := by omega
    rw [if_pos hn, if_neg (Int.not_lt.mpr hn), habs, Nat.repr_eq_ofList_toDigits]
    simp

theorem isDigit_of_mem_toDigits {n : Nat} {c : Char} (h : c ∈ Nat.toDigits 10 n) :
    c.isDigit = true :=
  Nat.isDigit_of_mem_toDigits (by decide) (by decide) h

theorem exists_toDigits_eq_cons (n : Nat) : ∃ c cs, Nat.toDigits 10 n = c :: cs ∧ c ≠ '-' := by
  obtain ⟨c, cs, hdigits⟩ := List.exists_cons_of_ne_nil (Nat.toDigits_ne_nil (b := 10) (n := n))
  refine ⟨c, cs, hdigits, ?_⟩
  rintro rfl
  have hdigit := isDigit_of_mem_toDigits (hdigits ▸ List.mem_cons_self)
  exact absurd hdigit (by decide)

theorem natural?_toDigits (n : Nat) : natural? (Nat.toDigits 10 n) = some n := by
  have hall : (Nat.toDigits 10 n).all Char.isDigit = true :=
    List.all_eq_true.mpr fun c => isDigit_of_mem_toDigits
  simp [natural?, hall, Nat.toDigits_ne_nil, Nat.ofDigitChars_ten_toDigits]

theorem integer?_decimal (n : Int) : integer? (decimal n) = some n := by
  rw [decimal_eq]
  split
  · rw [integer?, natural?_toDigits, Option.map_some]
    exact congrArg some (by omega)
  · obtain ⟨c, cs, hdigits, hminus⟩ := exists_toDigits_eq_cons n.natAbs
    rw [hdigits, integer?_of_ne hminus, ← hdigits, natural?_toDigits, Option.map_some]
    exact congrArg some (by omega)

section Rest

variable {rest : List Char} (hrest : ∀ c ∈ rest.head?, c.isDigit = false)
include hrest

theorem takeWhile_toDigits_append (n : Nat) :
    (Nat.toDigits 10 n ++ rest).takeWhile Char.isDigit = Nat.toDigits 10 n := by
  rw [List.takeWhile_append_of_pos fun c => isDigit_of_mem_toDigits]
  cases rest with
  | nil => simp
  | cons c cs => simp [hrest c rfl]

theorem dropWhile_toDigits_append (n : Nat) :
    (Nat.toDigits 10 n ++ rest).dropWhile Char.isDigit = rest := by
  have hsplit : _ = Nat.toDigits 10 n ++ rest :=
    List.takeWhile_append_dropWhile (p := Char.isDigit)
  rw [takeWhile_toDigits_append hrest] at hsplit
  exact List.append_cancel_left hsplit

theorem numeral?_decimal_append (n : Int) :
    numeral? (decimal n ++ rest) = some (decimal n, rest) := by
  have hsign : ∃ sign, takeSign (decimal n ++ rest) = (sign, Nat.toDigits 10 n.natAbs ++ rest) ∧
      decimal n = sign ++ Nat.toDigits 10 n.natAbs := by
    rw [decimal_eq]
    split
    · exact ⟨['-'], rfl, rfl⟩
    · obtain ⟨c, cs, hdigits, hminus⟩ := exists_toDigits_eq_cons n.natAbs
      rw [hdigits]
      exact ⟨[], takeSign_of_ne hminus _, rfl⟩
  obtain ⟨sign, htake, hdecimal⟩ := hsign
  have hne : (Nat.toDigits 10 n.natAbs).isEmpty = false := by simp [Nat.toDigits_ne_nil]
  rw [numeral?, htake]
  dsimp only
  rw [takeWhile_toDigits_append hrest, dropWhile_toDigits_append hrest, hne, hdecimal]
  rfl

theorem numerals_decimal_append (n : Int) :
    numerals (decimal n ++ rest) = decimal n :: numerals rest := by
  have hnumeral := numeral?_decimal_append hrest n
  cases htext : decimal n ++ rest with
  | nil =>
    rw [htext] at hnumeral
    cases hnumeral
  | cons c cs =>
    rw [htext] at hnumeral
    rw [numerals]
    split
    · rename_i hfound
      cases hnumeral.symm.trans hfound
      rfl
    · rename_i hfound
      cases hnumeral.symm.trans hfound

theorem decimalRuns_decimal_append (n : Int) :
    decimalRuns (decimal n ++ rest) = n :: decimalRuns rest := by
  rw [decimalRuns, numerals_decimal_append hrest, List.filterMap_cons_some (integer?_decimal n),
    ← decimalRuns]

end Rest

theorem decimalRuns_append_of_separates {s : List Char} (h : Separates s) (rest : List Char) :
    decimalRuns (s ++ rest) = decimalRuns rest := by
  rw [decimalRuns, numerals_append_of_separates h, ← decimalRuns]

theorem decimalRuns_rendered {pieces : List (Int × List Char)}
    (hseparates : ∀ piece ∈ pieces, Separates piece.2)
    (hinner : ∀ piece ∈ pieces.dropLast, piece.2 ≠ []) :
    decimalRuns (rendered pieces) = pieces.map (·.1) := by
  induction pieces with
  | nil => simp [rendered, decimalRuns, numerals]
  | cons piece pieces ih =>
    obtain ⟨hpiece, hpieces⟩ := List.forall_mem_cons.mp hseparates
    have hrest : ∀ c ∈ (piece.2 ++ rendered pieces).head?, c.isDigit = false := by
      cases hs : piece.2 with
      | nil =>
        cases pieces with
        | nil => simp [rendered]
        | cons next pieces => exact absurd hs (hinner piece (by simp))
      | cons c s =>
        rintro _ ⟨⟩
        exact (hpiece c (hs ▸ List.mem_cons_self)).1
    have hlater : ∀ later ∈ pieces.dropLast, later.2 ≠ [] := by
      intro later hmem
      cases pieces with
      | nil => cases hmem
      | cons next pieces => exact hinner later (List.mem_cons_of_mem piece hmem)
    calc decimalRuns (rendered (piece :: pieces))
        = decimalRuns (decimal piece.1 ++ (piece.2 ++ rendered pieces)) := by
          rw [rendered, List.flatMap_cons, List.append_assoc, ← rendered]
      _ = piece.1 :: decimalRuns (piece.2 ++ rendered pieces) := decimalRuns_decimal_append hrest _
      _ = piece.1 :: decimalRuns (rendered pieces) := by rw [decimalRuns_append_of_separates hpiece]
      _ = (piece :: pieces).map (·.1) := by rw [ih hpieces hlater, List.map_cons]

end Text

namespace Act

theorem popValue_ordinal {m : Machine} {v : Value} {below : Stack} (hmode : m.mode = .ordinal)
    (hstack : m.stack = v :: below) :
    popValue m = .ok (.ofChars v.chars) { m with stack := below } := by
  change EStateM.Result.ok (m.stack.popValue m.mode).1
    { m with stack := (m.stack.popValue m.mode).2 } = _
  rw [hmode, hstack]
  rfl

theorem popValue_cardinal {m : Machine} (hmode : m.mode = .cardinal) :
    popValue m = .ok (.integer m.stack.popInt.1) { m with stack := m.stack.popInt.2 } := by
  change EStateM.Result.ok (m.stack.popValue m.mode).1
    { m with stack := (m.stack.popValue m.mode).2 } = _
  rw [hmode]
  rfl

end Act

theorem Stack.popInt_decimal (n : Int) (below : Stack) :
    popInt (.ofChars (Text.decimal n) :: below) = (n, below) := by
  have hruns : Text.decimalRuns (Text.decimal n) = [n] := by
    have hnothing : ∀ c ∈ ([] : List Char).head?, c.isDigit = false := by simp
    have hread := Text.decimalRuns_decimal_append hnothing n
    simpa [Text.decimalRuns, Text.numerals] using hread
  rw [Value.ofChars, popInt, String.toList_ofList, hruns]
  rfl

/-- Integers that are rendered one after the other, with a separator between any two and any
separators at both ends, are read back as they were. So is an integer that was taken as a text in
ordinal mode, wherever it is taken in cardinal mode again. -/
theorem rendered_integers_are_read_back {first : List Char} {pieces : List (Int × List Char)}
    (hfirst : Text.Separates first) (hseparates : ∀ piece ∈ pieces, Text.Separates piece.2)
    (hinner : ∀ piece ∈ pieces.dropLast, piece.2 ≠ []) :
    Text.decimalRuns (first ++ Text.rendered pieces) = pieces.map (·.1) ∧
    ∀ (n : Int) (m : Machine) (below : Stack), m.mode = .ordinal → m.stack = .integer n :: below →
      ∃ s : String, Act.popValue m = .ok (.text s) { m with stack := below } ∧
        ∀ (m' : Machine) (below' : Stack), m'.mode = .cardinal → m'.stack = .text s :: below' →
          Act.popValue m' = .ok (.integer n) { m' with stack := below' } := by
  refine ⟨?_, fun n m below hmode hstack => ?_⟩
  · rw [Text.decimalRuns_append_of_separates hfirst]
    exact Text.decimalRuns_rendered hseparates hinner
  · refine ⟨_, Act.popValue_ordinal hmode hstack, fun m' below' hmode' hstack' => ?_⟩
    have hpop : m'.stack.popInt = (n, below') := by
      rw [hstack']
      exact Stack.popInt_decimal n below'
    rw [Act.popValue_cardinal hmode', hpop]

/-- A digit that is not one of 0 to 9 separates, and nothing has to follow the last integer. -/
theorem rendered_integers_are_read_back_signs :
    let pieces : List (Int × List Char) := [(-12, ['٣']), (0, [',', ' ']), (-7, [])]
    let m := Machine.load (.ofSource "@") [] (.ofBytes []) .empty .first ""
    let taking :=
      { m with pose := ⟨.zero, .southEast, .ordinal⟩, stack := [.integer (-12), .text "a"] }
    Text.Separates ['+'] ∧ (∀ piece ∈ pieces, Text.Separates piece.2) ∧
    (∀ piece ∈ pieces.dropLast, piece.2 ≠ []) ∧
    Text.decimalRuns ('+' :: Text.rendered pieces) = [-12, 0, -7] ∧
    ∃ s : String, Act.popValue taking = .ok (.text s) { taking with stack := [.text "a"] } ∧
      Act.popValue { m with stack := [.text s] } = .ok (.integer (-12)) m := by
  intro pieces m taking
  have hfirst : Text.Separates ['+'] := by decide
  have hseparates : ∀ piece ∈ pieces, Text.Separates piece.2 := by decide
  have hinner : ∀ piece ∈ pieces.dropLast, piece.2 ≠ [] := by decide
  obtain ⟨hruns, htaken⟩ := rendered_integers_are_read_back hfirst hseparates hinner
  obtain ⟨s, hs, hback⟩ := htaken (-12) taking [.text "a"] rfl rfl
  exact ⟨hfirst, hseparates, hinner, hruns, s, hs, hback _ [] rfl rfl⟩

end Gridwalk
