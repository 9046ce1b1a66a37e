import Gridwalk.Grid.Basic
import Gridwalk.Proofs.LineEnds
import Mathlib.Order.Bounds.Basic

/-! # What a program is loaded to

A source is made of lines that are joined in any way, with any number of line ends behind the last
one. All sources of the same lines are loaded to the same grid, from the origin on, which shows the
lines with spaces where they are short.
-/

namespace Gridwalk.Grid
set_option autoImplicit false

open Text

/-! ## Back to the lines -/

theorem dropReturn_carriage (line : Line) (e : LineEnd) :
    dropReturn (line.text ++ e.carriage) = line.text := by
  cases e with
  | feed => rw [LineEnd.carriage, List.append_nil, dropReturn, if_neg line.returnless]
  | returnFeed =>
    rw [LineEnd.carriage, dropReturn, List.getLast?_concat, if_pos rfl, List.dropLast_concat]

theorem map_dropReturn_ended (line : Line) (e : LineEnd) (rest : List Char) :
    (lines (line.text ++ e.chars ++ rest)).map dropReturn =
      line.text :: (lines rest).map dropReturn := by
  rw [lines_ended, List.map_cons, dropReturn_carriage]

theorem map_dropReturn_unended (line : Line) : (lines line.text).map dropReturn = [line.text] := by
  have hunchanged := dropReturn_carriage line .feed
  rw [LineEnd.carriage, List.append_nil] at hunchanged
  rw [lines_of_notMem line.feedless, List.map_singleton, hunchanged]

theorem map_dropReturn_ends (ends : List LineEnd) :
    (lines (ends.flatMap LineEnd.chars)).map dropReturn = List.replicate (ends.length + 1) [] := by
  induction ends with
  | nil => rfl
  | cons e ends ih =>
    have hempty := map_dropReturn_ended .empty e (ends.flatMap LineEnd.chars)
    rw [ih] at hempty
    exact hempty

theorem exists_map_dropReturn {ls : List Line} {s : List Char} (h : Joined ls s)
    (further : List LineEnd) :
    ∃ n, (lines (s ++ further.flatMap LineEnd.chars)).map dropReturn =
      ls.map Line.text ++ List.replicate n [] := by
  induction h with
  | none => exact ⟨further.length + 1, map_dropReturn_ends further⟩
  | one line =>
    cases further with
    | nil => exact ⟨0, by simpa using map_dropReturn_unended line⟩
    | cons e further =>
      refine ⟨further.length + 1, ?_⟩
      rw [List.flatMap_cons, ← List.append_assoc, map_dropReturn_ended, map_dropReturn_ends]
      rfl
  | more line e rest ih =>
    obtain ⟨n, hn⟩ := ih
    refine ⟨n, ?_⟩
    rw [List.append_assoc, map_dropReturn_ended, hn]
    rfl

theorem sourceLines_joined {ls : List Line} {s : List Char} (h : Joined ls s)
    (hlast : ∀ line ∈ ls.getLast?, line.text ≠ []) (further : List LineEnd) :
    sourceLines (s ++ further.flatMap LineEnd.chars) = ls.map Line.text := by
  obtain ⟨n, hn⟩ := exists_map_dropReturn h further
  have hempty : ∀ line ∈ List.replicate n ([] : List Char), line.isEmpty = true := by simp
  rw [sourceLines, hn, List.reverse_append, List.reverse_replicate,
    List.dropWhile_append_of_pos hempty]
  refine List.rdropWhile_eq_self_iff.mpr fun hne => ?_
  rw [List.getLast_map, List.isEmpty_iff]
  exact hlast _ (List.getLast?_eq_some_getLast (by simpa using hne))

/-! ## From the lines to the grid -/

section Lines

variable (ls : List (List Char))

theorem isGreatest_foldr_max (ns : List Nat) :
    IsGreatest (insert 1 {n | n ∈ ns}) (ns.foldr max 1) := by
  induction ns with
  | nil => simp
  | cons n ns ih =>
    have hset : insert 1 {k | k ∈ n :: ns} = insert n (insert 1 {k | k ∈ ns}) := by
      rw [Set.insert_comm]
      congr 1
      ext k
      simp
    rw [hset, List.foldr_cons]
    exact ih.insert n

theorem one_le_foldr_max (ns : List Nat) : 1 ≤ ns.foldr max 1 :=
  (isGreatest_foldr_max ns).2 (Set.mem_insert 1 _)

theorem low_ofLines : (ofLines ls).box.low = .zero := by
  have hwidth := one_le_foldr_max (ls.map List.length)
  ext <;> simp only [ofLines, tabulate, Box.span, Vec.zero] <;> omega

theorem width_ofLines : (ofLines ls).width = (ls.map List.length).foldr max 1 := by
  have hwidth := one_le_foldr_max (ls.map List.length)
  simp only [width, Box.columns, ofLines, tabulate, Box.span]
  omega

theorem height_ofLines : (ofLines ls).height = max ls.length 1 := by
  simp only [height, Box.rows, ofLines, tabulate, Box.span]
  omega

theorem getD_table (x y : Nat) :
    ((ls.map fun line => (codes line).toArray).toArray[y]?.bind (·[x]?)).getD padding =
      code (cell ls x y) := by
  rw [cell, padding, List.getElem?_toArray, List.getElem?_map]
  cases ls[y]? with
  | none => rfl
  | some row =>
    simp only [Option.map_some, Option.bind_some, Option.getD_some, codes, List.getElem?_toArray,
      List.getElem?_map]
    cases row[x]? <;> rfl

theorem contains_box_iff {g : Grid} (hlow : g.box.low = .zero) (p : Vec) :
    g.box.Contains p ↔ (0 ≤ p.x ∧ p.x < g.width) ∧ 0 ≤ p.y ∧ p.y < g.height := by
  have hx := g.box.high_x
  have hy := g.box.high_y
  simp only [hlow, Vec.zero] at hx hy
  simp only [Box.Contains, width, height, hlow, Vec.zero]
  omega

theorem get_ofLines (p : Vec) :
    (ofLines ls).get p =
      if (0 ≤ p.x ∧ p.x < (ofLines ls).width) ∧ 0 ≤ p.y ∧ p.y < (ofLines ls).height then
        code (cell ls p.x.toNat p.y.toNat)
      else blank := by
  simp only [← contains_box_iff (low_ofLines ls)]
  rw [ofLines, get_tabulate, getD_table]
  rfl

end Lines

/-- Whatever the line ends between and behind the lines of a source are, it is loaded to the same
grid. The grid starts at the origin, has as many rows as there are lines and as many columns as the
longest line has characters, but at least one of each. It shows the characters of the lines, filled
up with spaces, and is blank everywhere else. -/
theorem loading_shows_lines {ls : List Line} {s : List Char} (hjoined : Joined ls s)
    (hlast : ∀ line ∈ ls.getLast?, line.text ≠ []) (further : List LineEnd) :
    let g := ofSource (String.ofList (s ++ further.flatMap LineEnd.chars))
    g.box.low = .zero ∧ g.height = max ls.length 1 ∧
    IsGreatest (insert 1 {n | ∃ line ∈ ls, line.text.length = n}) g.width ∧
    (∀ p, g.get p =
      if (0 ≤ p.x ∧ p.x < g.width) ∧ 0 ≤ p.y ∧ p.y < g.height then
        code (cell (ls.map Line.text) p.x.toNat p.y.toNat)
      else blank) ∧
    ∀ (s' : List Char) (further' : List LineEnd), Joined ls s' →
      ofSource (String.ofList (s' ++ further'.flatMap LineEnd.chars)) = g := by
  have hload {s : List Char} (h : Joined ls s) (further : List LineEnd) :
      ofSource (String.ofList (s ++ further.flatMap LineEnd.chars)) =
        ofLines (ls.map Line.text) := by
    rw [ofSource, String.toList_ofList, sourceLines_joined h hlast]
  intro g
  have hg : g = ofLines (ls.map Line.text) := hload hjoined further
  clear_value g
  subst hg
  refine ⟨low_ofLines _, ?_, ?_, get_ofLines _, fun s' further' h => hload h further'⟩
  · rw [height_ofLines, List.length_map]
  · have hlengths := isGreatest_foldr_max ((ls.map Line.text).map List.length)
    rw [width_ofLines]
    simpa using hlengths

/-- Both kinds of line ends, an empty line between others, and a carriage return inside a line. -/
theorem loading_shows_lines_mixed :
    let ls : List Line :=
      [⟨['a', 'b'], by decide, by decide⟩, .empty, ⟨['c', '\r', 'd'], by decide, by decide⟩]
    let s := ['a', 'b', '\r', '\n', '\n', 'c', '\r', 'd']
    let g := ofSource (String.ofList (s ++ [LineEnd.returnFeed, .feed].flatMap LineEnd.chars))
    Joined ls s ∧ (∀ line ∈ ls.getLast?, line.text ≠ []) ∧ g.height = 3 ∧
    g.get ⟨1, 2⟩ = 13 ∧ g.get ⟨2, 1⟩ = 32 ∧ g.get ⟨3, 0⟩ = -1 ∧
    ofSource (String.ofList ['a', 'b', '\n', '\n', 'c', '\r', 'd']) = g := by
  intro ls s g
  have hjoined : Joined ls s := .more _ .returnFeed (.more _ .feed (.one _))
  have hplain : Joined ls ['a', 'b', '\n', '\n', 'c', '\r', 'd'] :=
    .more _ .feed (.more _ .feed (.one _))
  have hlast : ∀ line ∈ ls.getLast?, line.text ≠ [] := by
    rintro _ ⟨⟩
    exact List.cons_ne_nil _ _
  obtain ⟨-, hheight, -, hget, hsame⟩ := loading_shows_lines hjoined hlast [.returnFeed, .feed]
  have hwidth : g.width = 3 := by decide +kernel
  have hsame := hsame _ [] hplain
  rw [List.flatMap_nil, List.append_nil] at hsame
  refine ⟨hjoined, hlast, hheight, ?_, ?_, ?_, hsame⟩
  · rw [hget, hwidth, hheight]
    rfl
  · rw [hget, hwidth, hheight]
    rfl
  · rw [hget, hwidth, hheight]
    rfl

end Gridwalk.Grid
