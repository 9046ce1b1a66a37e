import Gridwalk.Proofs.Transposition

/-! # Lines and their ends

A line ends with a line feed, with or without a carriage return before it. A text that is to be a
line must not contain a line feed, and must not end with a carriage return, which would pass for a
part of the end. Carriage returns anywhere else are ordinary characters.
-/

namespace Gridwalk.Text
set_option autoImplicit false

structure Line where
  text : List Char
  feedless : '\n' ∉ text
  returnless : text.getLast? ≠ some '\r'

def Line.empty : Line := ⟨[], by simp, by simp⟩

inductive LineEnd where
  | feed
  | returnFeed

namespace LineEnd

def carriage : LineEnd → List Char
  | feed => []
  | returnFeed => ['\r']

def chars (e : LineEnd) : List Char := e.carriage ++ ['\n']

theorem feed_notMem_carriage (e : LineEnd) : '\n' ∉ e.carriage := by
  cases e <;> decide

end LineEnd

def ended (lines : List (Line × LineEnd)) : List Char :=
  lines.flatMap fun line => line.1.text ++ line.2.chars

/-- The text is made of the lines, with a line end between any two neighbours. -/
inductive Joined : List Line → List Char → Prop where
  | none : Joined [] []
  | one (line : Line) : Joined [line] line.text
  | more (line : Line) (e : LineEnd) {next : Line} {lines : List Line} {s : List Char}
    (rest : Joined (next :: lines) s) :
    Joined (line :: next :: lines) (line.text ++ e.chars ++ s)

theorem ended_cons (line : Line × LineEnd) (lines : List (Line × LineEnd)) :
    ended (line :: lines) = line.1.text ++ line.2.chars ++ ended lines :=
  List.flatMap_cons

theorem lines_ended (line : Line) (e : LineEnd) (rest : List Char) :
    lines (line.text ++ e.chars ++ rest) = (line.text ++ e.carriage) :: lines rest := by
  have hfeedless : '\n' ∉ line.text ++ e.carriage := by
    rw [List.mem_append, not_or]
    exact ⟨line.feedless, e.feed_notMem_carriage⟩
  rw [← lines_append_newline hfeedless, LineEnd.chars]
  simp only [List.append_assoc, List.singleton_append]

end Gridwalk.Text
