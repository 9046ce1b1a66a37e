import Gridwalk.Text.Arrangement
import Mathlib.Data.List.DropRight

/-! # Transposition through the view of a text

A text is seen as characters in rows and columns, with spaces all around. Transposition exchanges
rows and columns of the view. Rows that are flush, without spaces at their ends and without empty
rows at the bottom, are determined by the view, and the columns of trimmed rows are flush, so that
two transpositions give flush rows back.
-/

namespace Gridwalk.Text
set_option autoImplicit false

/-- The character in column `x` of row `y`, a space where there is none. -/
def cell (rows : List (List Char)) (x y : Nat) : Char := (rows[y]?.getD [])[x]?.getD ' '

def view (s : List Char) (x y : Nat) : Char := cell (lines s) x y

def Trimmed (rows : List (List Char)) : Prop := ∀ row ∈ rows, row.getLast? ≠ some ' '

structure Flush (rows : List (List Char)) : Prop where
  trimmed : Trimmed rows
  last : rows.getLast? ≠ some []

theorem lines_newline (s : List Char) : lines ('\n' :: s) = [] :: lines s := if_pos rfl

theorem exists_lines_cons {c : Char} (hc : c ≠ '\n') (s : List Char) :
    ∃ line rest, lines s = line :: rest ∧ lines (c :: s) = (c :: line) :: rest := by
  have hne : lines s ≠ [] := by
    cases s with
    | nil => simp [lines]
    | cons d s =>
      rw [lines]
      split
      · simp
      · split <;> simp
  obtain ⟨line, rest, hlines⟩ := List.exists_cons_of_ne_nil hne
  exact ⟨line, rest, hlines, by rw [lines, if_neg hc, hlines]⟩

theorem lines_of_notMem {s : List Char} (h : '\n' ∉ s) : lines s = [s] := by
  induction s with
  | nil => rfl
  | cons c s ih =>
    simp only [List.mem_cons, not_or] at h
    obtain ⟨hc, hs⟩ := h
    rw [lines, if_neg (Ne.symm hc), ih hs]

theorem lines_append_newline {s : List Char} (h : '\n' ∉ s) (rest : List Char) :
    lines (s ++ '\n' :: rest) = s :: lines rest := by
  induction s with
  | nil => exact lines_newline rest
  | cons c s ih =>
    simp only [List.mem_cons, not_or] at h
    obtain ⟨hc, hs⟩ := h
    rw [List.cons_append, lines, if_neg (Ne.symm hc), ih hs]

theorem lines_eq_splitOn (s : List Char) : lines s = s.splitOn '\n' := by
  induction s with
  | nil => exact (List.splitOn_nil '\n').symm
  | cons c s ih =>
    rw [List.splitOn] at ih
    rw [List.splitOn, List.splitOnP_cons_eq_if_modifyHead, ← ih]
    by_cases hc : c = '\n'
    · simp [hc, lines_newline]
    · obtain ⟨line, rest, hlines, hcons⟩ := exists_lines_cons hc s
      simp [hc, hlines, hcons]

theorem notMem_of_mem_lines {s line : List Char} (h : line ∈ lines s) : '\n' ∉ line := by
  induction s generalizing line with
  | nil =>
    obtain rfl : line = [] := by simpa [lines] using h
    simp
  | cons c s ih =>
    by_cases hc : c = '\n'
    · rw [hc, lines_newline] at h
      obtain rfl | h := List.mem_cons.mp h
      · simp
      · exact ih h
    · obtain ⟨first, rest, hlines, hcons⟩ := exists_lines_cons hc s
      rw [hlines] at ih
      rw [hcons] at h
      obtain rfl | h := List.mem_cons.mp h
      · exact List.not_mem_cons_of_ne_of_not_mem (Ne.symm hc) (ih List.mem_cons_self)
      · exact ih (List.mem_cons_of_mem first h)

theorem intercalate_lines (s : List Char) : List.intercalate ['\n'] (lines s) = s := by
  rw [lines_eq_splitOn, List.intercalate_splitOn]

theorem lines_intercalate {rows : List (List Char)} (h : ∀ row ∈ rows, '\n' ∉ row)
    (hrows : rows ≠ []) : lines (List.intercalate ['\n'] rows) = rows := by
  rw [lines_eq_splitOn, List.splitOn_intercalate '\n' h hrows]

theorem view_intercalate {rows : List (List Char)} (h : ∀ row ∈ rows, '\n' ∉ row) (x y : Nat) :
    view (List.intercalate ['\n'] rows) x y = cell rows x y := by
  cases rows with
  | nil =>
    cases y <;> simp [view, cell, lines]
  | cons row rows => rw [view, lines_intercalate h (List.cons_ne_nil row rows)]

theorem trimEnd_eq_rdropWhile (c : Char) (s : List Char) : trimEnd c s = s.rdropWhile (· == c) :=
  rfl

theorem trimEnd_concat (c : Char) (s : List Char) (d : Char) :
    trimEnd c (s ++ [d]) = if d = c then trimEnd c s else s ++ [d] := by
  simpa [trimEnd_eq_rdropWhile] using List.rdropWhile_concat (· == c) s d

theorem getLast?_trimEnd (c : Char) (s : List Char) : (trimEnd c s).getLast? ≠ some c := by
  induction s using List.reverseRecOn with
  | nil => simp [trimEnd]
  | append_singleton s d ih =>
    rw [trimEnd_concat]
    split
    · exact ih
    · simpa using ‹¬ d = c›

theorem getD_trimEnd (c : Char) (s : List Char) (i : Nat) :
    (trimEnd c s)[i]?.getD c = s[i]?.getD c := by
  induction s using List.reverseRecOn with
  | nil => rfl
  | append_singleton s d ih =>
    rw [trimEnd_concat]
    split
    · rename_i hd
      rw [ih, hd, List.getElem?_append]
      split
      · rfl
      · rename_i hi
        rw [List.getElem?_eq_none (Nat.not_lt.mp hi), Option.getD_none]
        cases i - s.length <;> rfl
    · rfl

theorem length_le_of_getD {α : Type} {d : α} {l m : List α} (hm : m.getLast? ≠ some d)
    (h : ∀ i : Nat, l[i]?.getD d = m[i]?.getD d) : m.length ≤ l.length := by
  by_contra hlt
  have hlast := h (m.length - 1)
  rw [List.getElem?_eq_none (by omega), ← List.getLast?_eq_getElem?] at hlast
  cases hend : m.getLast? with
  | none => exact hlt (by simp [List.getLast?_eq_none_iff.mp hend])
  | some e =>
    rw [hend, Option.getD_none, Option.getD_some] at hlast
    exact hm (hlast ▸ hend)

theorem eq_of_getD {α : Type} {d : α} {l m : List α} (hl : l.getLast? ≠ some d)
    (hm : m.getLast? ≠ some d) (h : ∀ i : Nat, l[i]?.getD d = m[i]?.getD d) : l = m := by
  refine List.ext_getElem ?_ fun i hi hi' => by simpa [hi, hi'] using h i
  exact Nat.le_antisymm (length_le_of_getD hl fun i => (h i).symm) (length_le_of_getD hm h)

theorem width_le_iff {rows : List (List Char)} {n : Nat} :
    width rows ≤ n ↔ ∀ row ∈ rows, row.length ≤ n := by
  induction rows with
  | nil => simp [width]
  | cons row rows ih =>
    rw [List.forall_mem_cons, ← ih]
    exact Nat.max_le

theorem cell_columns (rows : List (List Char)) (x y : Nat) :
    cell (columns rows) y x = cell rows x y := by
  by_cases hx : x < width rows
  · have hcolumn : (columns rows)[x]? = some (trimEnd ' ' (column rows x)) := by
      simp [columns, hx]
    rw [cell, hcolumn, Option.getD_some, getD_trimEnd, column, List.getElem?_map]
    cases h : rows[y]? <;> simp [cell, h]
  · have hcolumn : (columns rows)[x]? = none := by
      simpa [columns] using hx
    have hrow : (rows[y]?.getD []).length ≤ x := by
      cases h : rows[y]? with
      | none => simp
      | some row => exact width_le_iff.mp (Nat.not_lt.mp hx) row (List.mem_of_getElem? h)
    rw [cell, cell, hcolumn, List.getElem?_eq_none hrow]
    rfl

theorem trimmed_columns (rows : List (List Char)) : Trimmed (columns rows) := by
  intro line hline
  obtain ⟨x, -, rfl⟩ := List.mem_map.mp hline
  exact getLast?_trimEnd ' ' _

theorem flush_columns {rows : List (List Char)} (h : Trimmed rows) : Flush (columns rows) := by
  refine ⟨trimmed_columns rows, fun hlast => ?_⟩
  cases hwidth : width rows with
  | zero => simp [columns, hwidth] at hlast
  | succ w =>
    -- The longest row reaches the last column, with a character that is not trimmed there.
    obtain ⟨row, hrow, hlong⟩ : ∃ row ∈ rows, w < row.length := by
      have hnot : ¬ width rows ≤ w := by omega
      simpa [width_le_iff] using hnot
    have hlength : row.length ≤ w + 1 := width_le_iff.mp hwidth.le row hrow
    have hblank : ∀ c ∈ column rows w, c = ' ' := by
      have hnil : trimEnd ' ' (column rows w) = [] := by
        simpa [columns, hwidth, List.range_succ] using hlast
      rw [trimEnd_eq_rdropWhile, List.rdropWhile_eq_nil_iff] at hnil
      simpa using hnil
    have hspace := hblank _ (List.mem_map_of_mem hrow)
    refine h row hrow ?_
    rw [List.getLast?_eq_getElem?, show row.length - 1 = w by omega,
      List.getElem?_eq_getElem hlong]
    simpa [hlong] using hspace

theorem Trimmed.getLast?_getD {rows : List (List Char)} (h : Trimmed rows) (y : Nat) :
    (rows[y]?.getD []).getLast? ≠ some ' ' := by
  cases hrow : rows[y]? with
  | none => simp
  | some row => exact h row (List.mem_of_getElem? hrow)

theorem Flush.eq_of_cell {rows rows' : List (List Char)} (h : Flush rows) (h' : Flush rows')
    (hcell : ∀ x y, cell rows x y = cell rows' x y) : rows = rows' := by
  refine eq_of_getD h.last h'.last fun y => ?_
  exact eq_of_getD (h.trimmed.getLast?_getD y) (h'.trimmed.getLast?_getD y) fun x => hcell x y

theorem notMem_of_mem_columns {rows : List (List Char)} (h : ∀ row ∈ rows, '\n' ∉ row) :
    ∀ line ∈ columns rows, '\n' ∉ line := by
  intro line hline hmem
  obtain ⟨x, -, rfl⟩ := List.mem_map.mp hline
  rw [trimEnd_eq_rdropWhile] at hmem
  obtain ⟨row, hrow, hchar⟩ := List.mem_map.mp ((List.rdropWhile_prefix _ _).subset hmem)
  cases hx : row[x]? with
  | none => simp [hx] at hchar
  | some c =>
    rw [hx, Option.getD_some] at hchar
    exact h row hrow (hchar ▸ List.mem_of_getElem? hx)

theorem view_transpose (s : List Char) (x y : Nat) : view (transpose s) y x = view s x y := by
  rw [transpose, view_intercalate (notMem_of_mem_columns fun _ => notMem_of_mem_lines),
    cell_columns, view]

theorem trimmed_lines_transpose (s : List Char) : Trimmed (lines (transpose s)) := by
  by_cases h : columns (lines s) = []
  · simp [transpose, h, lines, Trimmed]
  · rw [transpose, lines_intercalate (notMem_of_mem_columns fun _ => notMem_of_mem_lines) h]
    exact trimmed_columns (lines s)

theorem exists_flush {s : List Char} (hlast : s = [] ∨ (lines s).getLast? ≠ some [])
    (h : Trimmed (lines s)) :
    ∃ rows, Flush rows ∧ (∀ row ∈ rows, '\n' ∉ row) ∧ List.intercalate ['\n'] rows = s := by
  obtain rfl | hlast := hlast
  · exact ⟨[], ⟨by simp [Trimmed], by simp⟩, by simp, rfl⟩
  · exact ⟨lines s, ⟨h, hlast⟩, fun _ => notMem_of_mem_lines, intercalate_lines s⟩

/-- Transposition exchanges the columns and the lines of what is seen, and leaves no space at the
end of a line. A text without such spaces that is empty or ends with a line that is not comes back
from a second transposition. -/
theorem transpose_exchanges_view (s : List Char) :
    (∀ x y, view (transpose s) y x = view s x y) ∧
    (∀ line ∈ lines (transpose s), line.getLast? ≠ some ' ') ∧
    ((s = [] ∨ (lines s).getLast? ≠ some []) → (∀ line ∈ lines s, line.getLast? ≠ some ' ') →
      transpose (transpose s) = s) := by
  refine ⟨view_transpose s, trimmed_lines_transpose s, fun hlast htrimmed => ?_⟩
  obtain ⟨rows, hflush, hrows, hs⟩ := exists_flush hlast htrimmed
  have hcolumns : columns (lines (transpose s)) = rows := by
    refine (flush_columns (trimmed_lines_transpose s)).eq_of_cell hflush fun x y => ?_
    calc
      cell (columns (lines (transpose s))) x y = view (transpose s) y x := cell_columns _ y x
      _ = view s x y := view_transpose s x y
      _ = cell rows x y := by rw [← hs, view_intercalate hrows]
  rw [transpose, hcolumns, hs]

theorem transpose_exchanges_view_blank_lines :
    let s := ['\n', 'a', '\n', '\n', ' ', 'b', 'c']
    (lines s).getLast? ≠ some [] ∧ (∀ line ∈ lines s, line.getLast? ≠ some ' ') ∧
    transpose s = [' ', 'a', '\n', ' ', ' ', ' ', 'b', '\n', ' ', ' ', ' ', 'c'] ∧
    transpose (transpose s) = s := by
  intro s
  have hlast : (lines s).getLast? ≠ some [] := by decide
  have htrimmed : ∀ line ∈ lines s, line.getLast? ≠ some ' ' := by decide
  obtain ⟨-, -, htwice⟩ := transpose_exchanges_view s
  exact ⟨hlast, htrimmed, by decide, htwice (.inr hlast) htrimmed⟩

end Gridwalk.Text
