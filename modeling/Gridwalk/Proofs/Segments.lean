import Gridwalk.Text.Segment

/-! # One segmentation for all commands

The search cuts a text at the leftmost occurrence and goes on behind it. What the commands do with
the places found depends on the places only, so that they agree for any list of places; that the
pieces are those between leftmost occurrences is shown once, along the search.
-/

namespace Gridwalk.Text
set_option autoImplicit false

variable {a b : List Char}

/-- `b` stands in `a` between `before` and `behind`, and does not start further left. -/
structure Leftmost (a b before behind : List Char) : Prop where
  eq_append : a = before ++ b ++ behind
  length_le : ∀ before' behind', a = before' ++ b ++ behind' → before.length ≤ before'.length

theorem Leftmost.cons {c : Char} {before behind : List Char} (h : Leftmost a b before behind)
    (hstart : ¬ b <+: c :: a) : Leftmost (c :: a) b (c :: before) behind where
  eq_append := by
    rw [h.eq_append]
    rfl
  length_le before' behind' heq := by
    cases before' with
    | nil => exact absurd ⟨behind', heq.symm⟩ hstart
    | cons d before' =>
      obtain ⟨-, hrest⟩ := List.cons_eq_cons.mp heq
      exact Nat.succ_le_succ (h.length_le before' behind' hrest)

theorem find?_cases (a b : List Char) :
    (find? b a = none ∧ ¬ b <:+: a) ∨
    ∃ before behind, find? b a = some before.length ∧ Leftmost a b before behind := by
  induction a with
  | nil =>
    by_cases hb : b = []
    · exact .inr ⟨[], [], by simp [find?, hb], by simp [hb], by simp⟩
    · exact .inl ⟨by simp [find?, hb], by simpa using hb⟩
  | cons c cs ih =>
    by_cases hstart : b <+: c :: cs
    · have hfind : find? b (c :: cs) = some 0 := by
        rw [find?, if_pos (List.isPrefixOf_iff_prefix.mpr hstart)]
      obtain ⟨behind, hbehind⟩ := hstart
      exact .inr ⟨[], behind, hfind, hbehind.symm, fun _ _ _ => Nat.zero_le _⟩
    · have hfind : find? b (c :: cs) = (find? b cs).map (· + 1) := by
        rw [find?, if_neg fun h => hstart (List.isPrefixOf_iff_prefix.mp h)]
      obtain ⟨hnone, hb⟩ | ⟨before, behind, hsome, hleft⟩ := ih
      · refine .inl ⟨by simp [hfind, hnone], ?_⟩
        rw [List.infix_cons_iff]
        exact not_or_intro hstart hb
      · exact .inr ⟨c :: before, behind, by simp [hfind, hsome], hleft.cons hstart⟩

theorem contains_iff : contains a b = true ↔ b <:+: a := by
  obtain ⟨hnone, hb⟩ | ⟨before, behind, hsome, hleft⟩ := find?_cases a b
  · simp [contains, hnone, hb]
  · have hb : b <:+: a := ⟨before, behind, hleft.eq_append.symm⟩
    simp [contains, hsome, hb]

/-- The text is cut at the leftmost occurrence of `b`, and what is behind it is cut further. -/
inductive Segmented (b : List Char) : List Char → List (List Char) → Prop
  | whole {a : List Char} (h : ¬ b <:+: a) : Segmented b a [a]
  | cut {a before behind : List Char} {pieces : List (List Char)}
    (h : Leftmost a b before behind) (hrest : Segmented b behind pieces) :
    Segmented b a (before :: pieces)

theorem occurrencesFrom_cases (a : List Char) (hb : b ≠ []) (start : Nat) :
    (occurrencesFrom a b start = [] ∧ ¬ b <:+: a.drop start) ∨
    ∃ before behind, Leftmost (a.drop start) b before behind ∧
      (a.take (start + before.length)).drop start = before ∧
      a.drop (start + before.length + b.length) = behind ∧
      occurrencesFrom a b start = (start + before.length) ::
        occurrencesFrom a b (start + before.length + b.length) := by
  rw [occurrencesFrom, if_neg hb]
  obtain ⟨hnone, hno⟩ | ⟨before, behind, hsome, hleft⟩ := find?_cases (a.drop start) b
  · refine .inl ⟨?_, hno⟩
    split
    · rfl
    · rename_i k hfound
      simp [hnone] at hfound
  · refine .inr ⟨before, behind, hleft, ?_, ?_, ?_⟩
    · rw [← List.take_drop, hleft.eq_append]
      simp
    · rw [Nat.add_assoc, ← List.drop_drop, hleft.eq_append]
      simp
    · split
      · rename_i hfound
        simp [hsome] at hfound
      · rename_i k hfound
        obtain rfl : before.length = k := Option.some.inj (hsome.symm.trans hfound)
        rfl

theorem segmented_between (a : List Char) (hb : b ≠ []) (start : Nat) :
    Segmented b (a.drop start) (between a b.length start (occurrencesFrom a b start)) := by
  generalize hplaces : occurrencesFrom a b start = places
  induction places generalizing start with
  | nil =>
    obtain ⟨-, hno⟩ | ⟨before, behind, -, -, -, heq⟩ := occurrencesFrom_cases a hb start
    · exact .whole hno
    · simp [hplaces] at heq
  | cons place places ih =>
    obtain ⟨heq, -⟩ | ⟨before, behind, hleft, hbefore, hbehind, heq⟩ :=
      occurrencesFrom_cases a hb start
    · simp [hplaces] at heq
    · obtain ⟨rfl, hrest⟩ := List.cons_eq_cons.mp (hplaces.symm.trans heq)
      rw [between, hbefore]
      exact .cut hleft (hbehind ▸ ih _ hrest.symm)

theorem segmented_split (a : List Char) (hb : b ≠ []) : Segmented b a (split a b) := by
  rw [split, if_neg (by simpa using hb)]
  exact segmented_between a hb 0

namespace Segmented

variable {pieces : List (List Char)}

theorem ne_nil (h : Segmented b a pieces) : pieces ≠ [] := by
  cases h <;> exact List.cons_ne_nil _ _

theorem intercalate_eq (h : Segmented b a pieces) : List.intercalate b pieces = a := by
  induction h with
  | whole => exact List.intercalate_singleton
  | cut h hrest ih => rw [List.intercalate_cons_of_ne_nil hrest.ne_nil, ih, h.eq_append]

theorem not_infix (h : Segmented b a pieces) (hb : b ≠ []) : ∀ piece ∈ pieces, ¬ b <:+: piece := by
  induction h with
  | whole h => simpa using h
  | @cut a before behind pieces h hrest ih =>
    refine List.forall_mem_cons.mpr ⟨?_, ih⟩
    rintro ⟨x, y, hxy⟩
    -- An occurrence inside the first piece would start further left.
    have hle := h.length_le x (y ++ b ++ behind) (by simp [h.eq_append, ← hxy])
    have hpos := List.length_pos_iff.mpr hb
    simp only [← hxy, List.length_append] at hle
    omega

end Segmented

theorem length_between (a : List Char) (width start : Nat) (places : List Nat) :
    (between a width start places).length = places.length + 1 := by
  induction places generalizing start with
  | nil => rfl
  | cons place places ih => rw [between, List.length_cons, ih, List.length_cons]

theorem substitute_eq (a : List Char) (width : Nat) (c : List Char) (start : Nat)
    (places : List Nat) :
    substitute a width c start places = List.intercalate c (between a width start places) := by
  induction places generalizing start with
  | nil => exact List.intercalate_singleton.symm
  | cons place places ih =>
    have hne : between a width (place + width) places ≠ [] :=
      List.ne_nil_of_length_pos (by simp [length_between])
    rw [substitute, between, List.intercalate_cons_of_ne_nil hne, ih]

theorem flatMap_zipIdx_eq_intersperse (b : List Char) (pieces : List (List Char)) :
    (pieces.zipIdx.flatMap fun (piece, i) => if 0 < i then [b, piece] else [piece]) =
      pieces.intersperse b := by
  have hbehind : ∀ (pieces : List (List Char)) (piece : List Char) (i : Nat),
      piece :: ((pieces.zipIdx (i + 1)).flatMap fun (piece, i) =>
        if 0 < i then [b, piece] else [piece]) = (piece :: pieces).intersperse b := by
    intro pieces
    induction pieces with
    | nil => simp
    | cons next pieces ih =>
      intro piece i
      rw [List.intersperse_cons_cons, ← ih next (i + 1)]
      simp
  cases pieces with
  | nil => rfl
  | cons piece pieces =>
    rw [← hbehind pieces piece 0]
    simp

theorem splitKeeping_eq (a : List Char) (hb : b ≠ []) :
    splitKeeping a b = (split a b).intersperse b := by
  rw [splitKeeping, if_neg (by simpa using hb), flatMap_zipIdx_eq_intersperse]

theorem removeFirst_cases (a : List Char) (hb : b ≠ []) :
    (¬ b <:+: a ∧ removeFirst a b = a) ∨
    ∃ before behind, Leftmost a b before behind ∧ removeFirst a b = before ++ behind := by
  rw [removeFirst, if_neg (by simpa using hb), occurrences]
  obtain ⟨heq, hno⟩ | ⟨before, behind, hleft, hbefore, hbehind, heq⟩ :=
    occurrencesFrom_cases a hb 0
  · exact .inl ⟨hno, by simp [heq, substitute]⟩
  · refine .inr ⟨before, behind, hleft, ?_⟩
    rw [heq, List.take_succ_cons, List.take_zero, substitute, substitute, hbefore, hbehind,
      List.append_nil]

/-- The pieces between the leftmost occurrences contain none, and joined they are the text. The
pieces with their separators, the number of occurrences and the replaced text come from the same
pieces, and the occurrence deleted alone is the leftmost one. -/
theorem commands_share_segmentation (a b c : List Char) (hb : b ≠ []) :
    Segmented b a (split a b) ∧
    (∀ piece ∈ split a b, ¬ b <:+: piece) ∧
    List.intercalate b (split a b) = a ∧
    (splitKeeping a b).flatten = a ∧
    (∀ i, (splitKeeping a b)[2 * i]? = (split a b)[i]?) ∧
    count a b + 1 = (split a b).length ∧
    replace a b c = List.intercalate c (split a b) ∧
    ((¬ b <:+: a ∧ removeFirst a b = a) ∨
      ∃ before behind, Leftmost a b before behind ∧ removeFirst a b = before ++ behind) := by
  have hempty : ¬ b.isEmpty = true := by simpa using hb
  have hsegmented := segmented_split a hb
  refine ⟨hsegmented, hsegmented.not_infix hb, hsegmented.intercalate_eq, ?_, ?_, ?_, ?_,
    removeFirst_cases a hb⟩
  · rw [splitKeeping_eq a hb]
    exact hsegmented.intercalate_eq
  · intro i
    rw [splitKeeping_eq a hb, List.getElem?_intersperse_two_mul]
  · rw [count, split, if_neg hempty, if_neg hempty, length_between]
  · rw [replace, split, if_neg hempty, if_neg hempty, substitute_eq]

theorem commands_share_segmentation_overlapping :
    ['a', 'a'] ≠ [] ∧
    split ['a', 'a', 'a', 'b', 'a', 'a'] ['a', 'a'] = [[], ['a', 'b'], []] ∧
    count ['a', 'a', 'a', 'b', 'a', 'a'] ['a', 'a'] + 1 = 3 ∧
    replace ['a', 'a', 'a', 'b', 'a', 'a'] ['a', 'a'] ['c'] = ['c', 'a', 'b', 'c'] := by
  have hsplit : split ['a', 'a', 'a', 'b', 'a', 'a'] ['a', 'a'] = [[], ['a', 'b'], []] := by
    decide +kernel
  obtain ⟨-, -, -, -, -, hcount, hreplace, -⟩ :=
    commands_share_segmentation ['a', 'a', 'a', 'b', 'a', 'a'] ['a', 'a'] ['c'] (by decide)
  rw [hsplit] at hcount hreplace
  exact ⟨by decide, hsplit, hcount, hreplace⟩

end Gridwalk.Text
