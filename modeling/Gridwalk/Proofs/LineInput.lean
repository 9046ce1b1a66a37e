import Gridwalk.Proofs.LineEnds
import Gridwalk.Proofs.Streams
import Gridwalk.Proofs.Utf8

/-! # Reading lines

A reading of a line takes the bytes up to the next line feed and the line feed itself, so that the
next reading starts with the next line. The last line needs no end, and then nothing is taken off
it. Bytes that are not the bytes of a text are not considered here.
-/

namespace Gridwalk.Input
set_option autoImplicit false

open Text Text.Utf8

def takeLines : Nat → Reader (List (Option (List Char)))
  | 0 => return []
  | j + 1 => do
    let first ← line
    let later ← takeLines j
    return first :: later

/-- The lines that are there to be read: the ended ones, and what follows unless it is empty. -/
def readings (lines : List (Line × LineEnd)) (last : List Char) : List (List Char) :=
  lines.map (·.1.text) ++ if last = [] then [] else [last]

def textAfter (j : Nat) (lines : List (Line × LineEnd)) (last : List Char) : List Char :=
  if j ≤ lines.length then ended (lines.drop j) ++ last else []

/-! ## One line -/

theorem ne_feed_of_notMem {bytes : List UInt8} (h : 0x0A ∉ bytes) :
    ∀ b ∈ bytes, (b != 0x0A) = true :=
  fun _ hb => bne_iff_ne.mpr (ne_of_mem_of_not_mem hb h)

theorem line_of_feed {before : List UInt8} (h : 0x0A ∉ before) (rest : List UInt8) :
    line (ofBytes (before ++ 0x0A :: rest)) =
      .ok (some (decodeLossy (if before.getLast? = some 0x0D then before.dropLast else before)))
        (ofBytes rest) := by
  have hspan : (before ++ 0x0A :: rest).span (· != 0x0A) = (before, 0x0A :: rest) := by
    rw [List.span_eq_takeWhile_dropWhile, List.takeWhile_append_of_pos (ne_feed_of_notMem h),
      List.dropWhile_append_of_pos (ne_feed_of_notMem h)]
    simp
  rw [line, use_get_bind, ofBytes]
  dsimp only
  rw [hspan]
  rfl

theorem line_of_end {bytes : List UInt8} (h : 0x0A ∉ bytes) :
    line (ofBytes bytes) =
      .ok (if bytes.isEmpty then none else some (decodeLossy bytes)) (ofBytes []) := by
  have hspan : bytes.span (· != 0x0A) = (bytes, []) := by
    rw [List.span_eq_takeWhile_dropWhile, List.takeWhile_eq_self_iff.mpr (ne_feed_of_notMem h),
      List.dropWhile_eq_nil_iff.mpr (ne_feed_of_notMem h)]
  rw [line, use_get_bind, ofBytes]
  dsimp only
  rw [hspan]
  rfl

theorem feed_notMem_encode {s : List Char} (h : '\n' ∉ s) : 0x0A ∉ encode s :=
  fun hmem => h (of_mem_encode (by decide) hmem)

theorem line_ended (l : Line) (e : LineEnd) (rest : List UInt8) :
    line (ofBytes (encode (l.text ++ e.chars) ++ rest)) = .ok (some l.text) (ofBytes rest) := by
  have htext := feed_notMem_encode l.feedless
  -- The byte before the line feed decides, and only a carriage return ends with the byte 0x0D.
  cases e with
  | feed =>
    have hbytes : encode (l.text ++ LineEnd.feed.chars) ++ rest =
        encode l.text ++ 0x0A :: rest := by
      rw [encode_append, List.append_assoc]
      rfl
    have hlast : (encode l.text).getLast? ≠ some 0x0D :=
      fun hlast => l.returnless (getLast?_of_encode (by decide) hlast)
    rw [hbytes, line_of_feed htext, if_neg hlast, decodeLossy_encode]
  | returnFeed =>
    have hbytes : encode (l.text ++ LineEnd.returnFeed.chars) ++ rest =
        encode l.text ++ [0x0D] ++ 0x0A :: rest := by
      rw [encode_append, List.append_assoc, List.append_assoc]
      rfl
    have hbefore : 0x0A ∉ encode l.text ++ [0x0D] := by simpa using htext
    rw [hbytes, line_of_feed hbefore, List.getLast?_concat, if_pos rfl, List.dropLast_concat,
      decodeLossy_encode]

theorem line_unended {s : List Char} (h : '\n' ∉ s) (hs : s ≠ []) :
    line (ofBytes (encode s)) = .ok (some s) (ofBytes []) := by
  have hne : (encode s).isEmpty = false := by
    cases hencode : encode s with
    | nil =>
      rw [← decodeLossy_encode s, hencode] at hs
      exact absurd rfl hs
    | cons b bytes => rfl
  rw [line_of_end (feed_notMem_encode h), hne, decodeLossy_encode]
  rfl

theorem all_encode (s : List Char) : all (ofBytes (encode s)) = .ok s (ofBytes []) := by
  have hall : all (ofBytes (encode s)) = .ok (decodeLossy (encode s)) (ofBytes []) := rfl
  rw [hall, decodeLossy_encode]

/-! ## Lines in a row -/

theorem takeLines_zero (i : Input) : takeLines 0 i = .ok [] i := rfl

theorem takeLines_succ {j : Nat} {i i' i'' : Input} {first : Option (List Char)}
    {later : List (Option (List Char))} (hfirst : line i = .ok first i')
    (hlater : takeLines j i' = .ok later i'') : takeLines (j + 1) i = .ok (first :: later) i'' := by
  rw [takeLines, use_bind_of_ok hfirst, use_bind_of_ok hlater]
  rfl

theorem takeLines_end (j : Nat) :
    takeLines j (ofBytes []) = .ok (List.replicate j none) (ofBytes []) := by
  induction j with
  | zero => rfl
  | succ j ih => exact takeLines_succ rfl ih

theorem takeLines_unended {s : List Char} (h : '\n' ∉ s) (hs : s ≠ []) (j : Nat) :
    takeLines (j + 1) (ofBytes (encode s)) =
      .ok (some s :: List.replicate j none) (ofBytes []) :=
  takeLines_succ (line_unended h hs) (takeLines_end j)

theorem takeLines_ended (line : Line × LineEnd) (lines : List (Line × LineEnd)) {last : List Char}
    {j : Nat} {later : List (Option (List Char))} {i : Input}
    (h : takeLines j (ofBytes (encode (ended lines ++ last))) = .ok later i) :
    takeLines (j + 1) (ofBytes (encode (ended (line :: lines) ++ last))) =
      .ok (some line.1.text :: later) i := by
  rw [ended_cons, List.append_assoc, encode_append]
  exact takeLines_succ (line_ended line.1 line.2 _) h

theorem textAfter_zero (lines : List (Line × LineEnd)) (last : List Char) :
    textAfter 0 lines last = ended lines ++ last := rfl

theorem textAfter_succ (j : Nat) (line : Line × LineEnd) (lines : List (Line × LineEnd))
    (last : List Char) : textAfter (j + 1) (line :: lines) last = textAfter j lines last := by
  simp [textAfter]

/-- Lines are read back without their ends, in whichever way each of them is ended, then what
follows the last end, and from there on nothing. Everything that is left after some of the lines is
the rest of the text. -/
theorem line_input_undoes_line_ends (lines : List (Line × LineEnd)) {last : List Char}
    (hlast : '\n' ∉ last) (j : Nat) :
    let rest := textAfter j lines last
    takeLines j (ofBytes (encode (ended lines ++ last))) =
      .ok (((readings lines last).take j).map some ++
          List.replicate (j - (readings lines last).length) none) (ofBytes (encode rest)) ∧
    all (ofBytes (encode rest)) = .ok rest (ofBytes []) := by
  refine ⟨?_, all_encode _⟩
  induction lines generalizing j with
  | nil =>
    cases j with
    | zero => simp [takeLines_zero, textAfter_zero]
    | succ j =>
      rcases eq_or_ne last [] with rfl | hne
      · exact takeLines_end (j + 1)
      · have hread := takeLines_unended hlast hne j
        simpa [readings, textAfter, hne, ended, encode] using hread
  | cons line lines ih =>
    cases j with
    | zero => simp [takeLines_zero, textAfter_zero]
    | succ j =>
      rw [takeLines_ended line lines (ih j), textAfter_succ]
      simp [readings]

/-- An empty line, a carriage return inside a line, and one at the end of an unended line. -/
theorem line_input_undoes_line_ends_mixed :
    let crossed : Line := ⟨['a', '\r', 'b'], by decide, by decide⟩
    let empty : Line := ⟨[], by decide, by decide⟩
    let input := ofBytes (encode ['a', '\r', 'b', '\r', '\n', '\n', 'é', '\r'])
    '\n' ∉ ['é', '\r'] ∧
    takeLines 4 input =
      .ok [some crossed.text, some empty.text, some ['é', '\r'], none] (ofBytes []) ∧
    takeLines 1 input = .ok [some crossed.text] (ofBytes (encode ['\n', 'é', '\r'])) ∧
    all (ofBytes (encode ['\n', 'é', '\r'])) = .ok ['\n', 'é', '\r'] (ofBytes []) := by
  intro crossed empty input
  have hlast : '\n' ∉ ['é', '\r'] := by decide
  have hread := line_input_undoes_line_ends [(crossed, .returnFeed), (empty, .feed)] hlast
  exact ⟨hlast, (hread 4).1, hread 1⟩

end Gridwalk.Input
