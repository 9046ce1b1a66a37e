import Gridwalk.Proofs.Labels
import Mathlib.Data.List.Nodup
import Mathlib.Data.List.Sort
import Mathlib.Data.Prod.Lex

/-! # All occurrences of a label

A search finds every place where the grid spells the label, once, and lists them in the strict order of
their keys. This determines the list, so it depends on what the grid reads and not on the box. Keys do
not change when the grid and the heading are turned together, so the search turns with them.
-/

namespace Gridwalk
set_option autoImplicit false

namespace Vec

/-- A map of the plane onto itself that keeps sums, lengths and the sense of turning. -/
structure IsRotation (f : Vec → Vec) : Prop where
  surjective : Function.Surjective f
  add : ∀ p q, f (p + q) = f p + f q
  dot : ∀ p q, (f p).dot (f q) = p.dot q
  cross : ∀ p q, (f p).cross (f q) = p.cross q

theorem isRotation_id : IsRotation id :=
  ⟨Function.surjective_id, fun _ _ => rfl, fun _ _ => rfl, fun _ _ => rfl⟩

def turn (p : Vec) : Vec := ⟨-p.y, p.x⟩

theorem isRotation_turn : IsRotation turn := by
  refine ⟨fun p => ⟨⟨p.y, -p.x⟩, ?_⟩, fun p q => ?_, fun p q => ?_, fun p q => ?_⟩
  · simp [turn]
  · ext <;> simp [turn]
    omega
  · simp only [dot, turn]
    ring
  · simp only [cross, turn]
    ring

end Vec

theorem Heading.vec_quarterRight (h : Heading) : h.quarterRight.vec = h.vec.turn := by
  cases h <;> rfl

namespace Label

def Before (v p q : Vec) : Prop := toLex (key v p) < toLex (key v q)

instance (v : Vec) : Std.Irrefl (Before v) := ⟨fun _ => lt_irrefl _⟩

instance (v : Vec) : Std.Antisymm (Before v) := ⟨fun _ _ hpq hqp => absurd hqp (lt_asymm hpq)⟩

theorem before_of_keyLe {h : Heading} {p q : Vec} (hle : keyLe h.vec p q = true) (hne : p ≠ q) :
    Before h.vec p q := by
  rw [keyLe_iff] at hle
  rw [Before, Prod.Lex.toLex_lt_toLex]
  rcases hle with hlt | ⟨heq, hle⟩
  · exact .inl hlt
  · refine .inr ⟨heq, lt_of_le_of_ne hle ?_⟩
    intro hdot
    exact hne (key_injective h (Prod.ext heq hdot))

theorem nodup_positions (b : Box) : (positions b).Nodup := by
  have hinj {i j i' j' : Nat} (h : b.position i j = b.position i' j') : i = i' ∧ j = j' := by
    simp only [Box.position, Vec.mk.injEq] at h
    omega
  refine List.nodup_flatMap.mpr ⟨fun j _ => ?_, List.nodup_range.imp fun {j j'} hne => ?_⟩
  · exact List.nodup_range.map fun i i' he => (hinj he).1
  · intro p hp hp'
    obtain ⟨i, -, rfl⟩ := List.mem_map.mp hp
    obtain ⟨i', -, he⟩ := List.mem_map.mp hp'
    exact hne (hinj he).2.symm

theorem nodup_occurrences (g : Grid) (needle : List Int) (h : Heading) :
    (occurrences g needle h).Nodup := by
  unfold occurrences
  split
  · exact List.nodup_nil
  · exact (List.mergeSort_perm _ _).nodup_iff.mpr ((nodup_positions g.box).filter _)

theorem pairwise_before_occurrences (g : Grid) (needle : List Int) (h : Heading) :
    (occurrences g needle h).Pairwise (Before h.vec) :=
  (pairwise_occurrences g needle h).imp₂ (fun _ _ hle hne => before_of_keyLe hle hne)
    (nodup_occurrences g needle h)

theorem eq_occurrences_iff {g : Grid} {needle : List Int} {h : Heading} {l : List Vec}
    (hne : needle ≠ []) (hblank : blank ∉ needle) :
    l = occurrences g needle h ↔
      (∀ p, p ∈ l ↔ spells g h.vec p needle = true) ∧ l.Pairwise (Before h.vec) := by
  constructor
  · rintro rfl
    exact ⟨fun p => mem_occurrences_iff_spells hne hblank, pairwise_before_occurrences g needle h⟩
  · rintro ⟨hmem, hsorted⟩
    refine hsorted.eq_of_mem_iff (pairwise_before_occurrences g needle h) fun p => ?_
    rw [hmem, mem_occurrences_iff_spells hne hblank]

section Rotation

variable {f : Vec → Vec} (hf : Vec.IsRotation f)
include hf

theorem before_rotate {v p q : Vec} : Before (f v) (f p) (f q) ↔ Before v p q := by
  simp only [Before, key, hf.cross, hf.dot]

theorem spells_rotate {g g' : Grid} (hget : ∀ p, g'.get (f p) = g.get p) (v p : Vec)
    (needle : List Int) : spells g' (f v) (f p) needle = spells g v p needle := by
  induction needle generalizing p with
  | nil => rfl
  | cons cell rest ih => rw [spells, spells, hget, ← hf.add, ih]

theorem occurrences_rotate {g g' : Grid} (hget : ∀ p, g'.get (f p) = g.get p) {h h' : Heading}
    (hvec : h'.vec = f h.vec) {needle : List Int} (hblank : blank ∉ needle) :
    occurrences g' needle h' = (occurrences g needle h).map f := by
  by_cases hne : needle = []
  · subst hne
    rfl
  · symm
    rw [eq_occurrences_iff hne hblank, hvec]
    constructor
    · intro q
      obtain ⟨p, rfl⟩ := hf.surjective q
      rw [List.mem_map, spells_rotate hf hget]
      constructor
      · rintro ⟨r, hr, he⟩
        rw [← spells_rotate hf hget, ← he, spells_rotate hf hget]
        exact (mem_occurrences_iff_spells hne hblank).mp hr
      · intro hp
        exact ⟨p, (mem_occurrences_iff_spells hne hblank).mpr hp, rfl⟩
    · rw [List.pairwise_map]
      exact (pairwise_before_occurrences g needle h).imp (before_rotate hf).mpr

end Rotation

/-- A label without blank cells is found in the turned grid, along the turned heading, at the turned
positions, in the same order. In two grids that read the same it is found at the same positions,
whatever their boxes. -/
theorem search_turns_with_grid {needle : List Int} (hblank : blank ∉ needle) (h : Heading)
    (g g' : Grid) :
    ((∀ p : Vec, g'.get ⟨-p.y, p.x⟩ = g.get p) →
      occurrences g' needle h.quarterRight = (occurrences g needle h).map fun p => ⟨-p.y, p.x⟩) ∧
    ((∀ p, g'.get p = g.get p) → occurrences g' needle h = occurrences g needle h) := by
  refine ⟨fun hget => ?_, fun hget => ?_⟩
  · exact occurrences_rotate Vec.isRotation_turn hget h.vec_quarterRight hblank
  · rw [occurrences_rotate Vec.isRotation_id hget rfl hblank, List.map_id]

/-- A row that spells the label twice, the column that it turns into with two blank columns beside it,
and the row with a blank margin. -/
theorem search_turns_with_grid_margin :
    let row := Grid.tabulate (.span ⟨0, 0⟩ ⟨3, 0⟩) fun p => 97 + p.x % 2
    let column := Grid.tabulate (.span ⟨-1, -2⟩ ⟨1, 5⟩) fun p => row.get ⟨p.y, -p.x⟩
    let wide := Grid.tabulate (.span ⟨-1, -1⟩ ⟨5, 1⟩) row.get
    occurrences row [97, 98] .east = [⟨0, 0⟩, ⟨2, 0⟩] ∧
    occurrences column [97, 98] .south = [⟨0, 0⟩, ⟨0, 2⟩] ∧
    occurrences wide [97, 98] .east = [⟨0, 0⟩, ⟨2, 0⟩] := by
  intro row column wide
  have hrow : occurrences row [97, 98] .east = [⟨0, 0⟩, ⟨2, 0⟩] := by
    have hfound : (positions row.box).filter (fun p => spells row Heading.east.vec p [97, 98]) =
        [⟨0, 0⟩, ⟨2, 0⟩] := by
      decide +kernel
    rw [occurrences, if_neg (by decide), hfound]
    exact List.mergeSort_of_pairwise (by decide)
  have hblank : blank ∉ [97, 98] := by decide
  have hinside (p : Vec) (h : row.get p ≠ blank) : (0 ≤ p.x ∧ p.x ≤ 3) ∧ p.y = 0 := by
    obtain ⟨h₁, h₂, h₃, h₄⟩ := Grid.contains_of_get_ne_blank h
    exact ⟨⟨h₁, h₂⟩, Int.le_antisymm h₄ h₃⟩
  have hcolumn (p : Vec) : column.get ⟨-p.y, p.x⟩ = row.get p := by
    rw [Grid.get_tabulate_of_covers, Int.neg_neg]
    intro q hq
    obtain ⟨hx, hy⟩ := hinside _ hq
    dsimp only at hx hy
    refine ⟨?_, ?_, ?_, ?_⟩ <;> simp only [Box.span] <;> omega
  have hwide (p : Vec) : wide.get p = row.get p := by
    apply Grid.get_tabulate_of_covers
    intro q hq
    obtain ⟨hx, hy⟩ := hinside q hq
    refine ⟨?_, ?_, ?_, ?_⟩ <;> simp only [Box.span] <;> omega
  refine ⟨hrow, ?_, ?_⟩
  · have hturned := (search_turns_with_grid hblank .east row column).1 hcolumn
    rw [hrow] at hturned
    exact hturned
  · rw [(search_turns_with_grid hblank .east row wide).2 hwide, hrow]

theorem keyLe_iff_toLex_le (v p q : Vec) :
    keyLe v p q = true ↔ toLex (key v p) ≤ toLex (key v q) := by
  rw [keyLe_iff, Prod.Lex.toLex_le_toLex]
  rfl

theorem end?_eq_some_iff {g : Grid} {needle : List Int} {h : Heading} {e : Vec} (hne : needle ≠ [])
    (hblank : blank ∉ needle) :
    Label.end? g needle h = some e ↔
      ∃ p, First g needle h p ∧ e = p + h.vec.scale (needle.length - 1) := by
  simp only [Label.end?, Option.map_eq_some_iff, head?_occurrences_iff hne hblank]
  constructor
  · rintro ⟨p, hp, rfl⟩
    exact ⟨p, hp, rfl⟩
  · rintro ⟨p, hp, rfl⟩
    exact ⟨p, hp, rfl⟩

theorem end?_eq_none_iff {g : Grid} {needle : List Int} {h : Heading} (hne : needle ≠ [])
    (hblank : blank ∉ needle) :
    Label.end? g needle h = none ↔ ∀ p, ¬ spells g h.vec p needle = true := by
  rw [Label.end?, Option.map_eq_none_iff, List.head?_eq_none_iff, List.eq_nil_iff_forall_not_mem]
  exact forall_congr' fun p => not_congr (mem_occurrences_iff_spells hne hblank)

def OccursAt (g : Grid) (needle : List Int) (v p : Vec) : Prop :=
  ∀ (i : Nat) (hi : i < needle.length), g.get (p + v.scale i) = needle[i]

instance (g : Grid) (needle : List Int) (v p : Vec) : Decidable (OccursAt g needle v p) :=
  inferInstanceAs (Decidable (∀ (i : Nat) (hi : i < needle.length), g.get (p + v.scale i) = needle[i]))

/-- The search for a label without blank cells lists every position where the label occurs, anywhere in
the plane, and no other one, each of them once and in the strict order of the keys. The last cell that
is found belongs to the occurrence with the least key, and none is found exactly if there is none. -/
theorem search_lists_occurrences (g : Grid) (h : Heading) {needle : List Int} (hne : needle ≠ [])
    (hblank : blank ∉ needle) :
    let v := h.vec
    let key (p : Vec) : Int ×ₗ Int := toLex (v.x * p.y - v.y * p.x, p.x * v.x + p.y * v.y)
    (∀ p, p ∈ occurrences g needle h ↔ OccursAt g needle v p) ∧
    (occurrences g needle h).Nodup ∧
    (occurrences g needle h).Pairwise (fun p q => key p < key q) ∧
    (∀ e, Label.end? g needle h = some e ↔
      ∃ p, (OccursAt g needle v p ∧ ∀ q, OccursAt g needle v q → key p ≤ key q) ∧
        e = p + v.scale (needle.length - 1)) ∧
    (Label.end? g needle h = none ↔ ∀ p, ¬ OccursAt g needle v p) := by
  intro v key
  have hspells (p : Vec) : spells g v p needle = true ↔ OccursAt g needle v p := spells_iff g v p needle
  have hfirst (p : Vec) : First g needle h p ↔
      OccursAt g needle v p ∧ ∀ q, OccursAt g needle v q → key p ≤ key q := by
    constructor
    · rintro ⟨hp, hleast⟩
      refine ⟨(hspells p).mp hp, fun q hq => ?_⟩
      exact (keyLe_iff_toLex_le v p q).mp (hleast q ((hspells q).mpr hq))
    · rintro ⟨hp, hleast⟩
      refine ⟨(hspells p).mpr hp, fun q hq => ?_⟩
      exact (keyLe_iff_toLex_le v p q).mpr (hleast q ((hspells q).mp hq))
  refine ⟨fun p => ?_, nodup_occurrences g needle h, pairwise_before_occurrences g needle h,
    fun e => ?_, ?_⟩
  · rw [mem_occurrences_iff_spells hne hblank, hspells]
  · simp only [end?_eq_some_iff hne hblank, hfirst]
    rfl
  · simp only [end?_eq_none_iff hne hblank, ← hspells]
    rfl

/-- In a row of three equal cells a label of two of them occurs twice, with one cell in common, and not
at the last cell. -/
theorem search_lists_occurrences_overlapping :
    let row := Grid.tabulate (.span ⟨0, 0⟩ ⟨2, 0⟩) fun _ => 97
    ⟨0, 0⟩ ∈ occurrences row [97, 97] .east ∧ ⟨1, 0⟩ ∈ occurrences row [97, 97] .east ∧
    ⟨2, 0⟩ ∉ occurrences row [97, 97] .east ∧ Label.end? row [97, 97] .east = some ⟨1, 0⟩ := by
  intro row
  have hsearch := search_lists_occurrences row .east (List.cons_ne_nil 97 [97]) (by decide)
  obtain ⟨hmem, -, -, hend, -⟩ := hsearch
  have hfirst : OccursAt row [97, 97] ⟨1, 0⟩ ⟨0, 0⟩ := by decide +kernel
  refine ⟨(hmem _).mpr hfirst, (hmem _).mpr (by decide +kernel), mt (hmem _).mp (by decide +kernel),
    (hend _).mpr ⟨⟨0, 0⟩, ⟨hfirst, fun q hq => ?_⟩, by decide⟩⟩
  have hget : row.get (q + Heading.east.vec.scale (0 : Nat)) = 97 := hq 0 (by decide)
  rw [Vec.add_scale_zero] at hget
  have hused : row.get q ≠ blank := by
    rw [hget]
    decide
  obtain ⟨h₁, -, h₂, h₃⟩ := Grid.contains_of_get_ne_blank hused
  have hx : (0 : Int) ≤ q.x := h₁
  have hy : q.y = 0 := Int.le_antisymm h₃ h₂
  simpa [Heading.vec, Prod.Lex.toLex_le_toLex, hy] using hx

end Label

end Gridwalk
