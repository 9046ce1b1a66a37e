import Gridwalk.Label
import Gridwalk.Proofs.GridReads
import Mathlib.Algebra.Ring.Int.Defs
import Mathlib.Tactic.Ring

/-! # The first occurrence of a label

The order of the occurrences has no ties, so the first one is determined by what the grid reads and
does not depend on the box. Cells that lie behind an occurrence on its own line belong to no earlier
occurrence; what is written there cannot bring another one to the front.
-/

namespace Gridwalk
set_option autoImplicit false

namespace Vec

theorem add_scale_zero (p v : Vec) : p + v.scale (0 : Nat) = p := by
  ext <;> simp [scale]

theorem add_scale_one (p v : Vec) : p + v.scale 1 = p + v := by
  ext <;> simp [scale]

theorem add_scale_add_scale (p v : Vec) (i j : Int) :
    p + v.scale i + v.scale j = p + v.scale (i + j) := by
  ext <;> simp [scale] <;> ring

theorem add_add_scale (p v : Vec) (i : Int) : p + v + v.scale i = p + v.scale (i + 1) := by
  ext <;> simp [scale] <;> ring

theorem cross_add_scale (p v : Vec) (k : Int) : v.cross (p + v.scale k) = v.cross p := by
  simp only [cross, scale, add_x, add_y]
  ring

theorem dot_add_scale (p v : Vec) (k : Int) : (p + v.scale k).dot v = p.dot v + k * v.dot v := by
  simp only [dot, scale, add_x, add_y]
  ring

end Vec

namespace Heading

theorem dot_vec_pos (h : Heading) : 0 < h.vec.dot h.vec := by cases h <;> decide

theorem add_scale_injective (h : Heading) (p : Vec) {i j : Int}
    (he : p + h.vec.scale i = p + h.vec.scale j) : i = j := by
  have hdot := congrArg (fun q => Vec.dot q h.vec) he
  simp only [Vec.dot_add_scale] at hdot
  exact Int.eq_of_mul_eq_mul_right (Int.ne_of_gt h.dot_vec_pos) (by omega)

end Heading

namespace Label

theorem key_injective (h : Heading) {p q : Vec} (he : key h.vec p = key h.vec q) : p = q := by
  simp only [key, Vec.cross, Vec.dot, Prod.mk.injEq] at he
  ext <;> cases h <;> simp only [Heading.vec] at he <;> omega

theorem keyLe_iff (v p q : Vec) : keyLe v p q = true ↔
    v.cross p < v.cross q ∨ v.cross p = v.cross q ∧ p.dot v ≤ q.dot v := by
  unfold keyLe key
  rw [Bool.or_eq_true, Bool.and_eq_true, decide_eq_true_iff, beq_iff_eq, decide_eq_true_iff]

theorem keyLe_antisymm {h : Heading} {p q : Vec} (hpq : keyLe h.vec p q = true)
    (hqp : keyLe h.vec q p = true) : p = q := by
  rw [keyLe_iff] at hpq hqp
  apply key_injective h
  simp only [key, Prod.mk.injEq]
  omega

theorem keyLe_trans (v p q r : Vec) (hpq : keyLe v p q = true) (hqr : keyLe v q r = true) :
    keyLe v p r = true := by
  rw [keyLe_iff] at *
  omega

theorem keyLe_total (v p q : Vec) : (keyLe v p q || keyLe v q p) = true := by
  rw [Bool.or_eq_true, keyLe_iff, keyLe_iff]
  omega

theorem spells_iff (g : Grid) (v p : Vec) (needle : List Int) : spells g v p needle = true ↔
    ∀ (i : Nat) (hi : i < needle.length), g.get (p + v.scale i) = needle[i] := by
  induction needle generalizing p with
  | nil => simp [spells]
  | cons cell rest ih =>
    simp only [spells, Bool.and_eq_true, beq_iff_eq, ih, Vec.add_add_scale]
    constructor
    · rintro ⟨hcell, hrest⟩ i hi
      cases i with
      | zero =>
        rw [Vec.add_scale_zero]
        exact hcell
      | succ i => exact hrest i (Nat.lt_of_succ_lt_succ hi)
    · intro h
      refine ⟨?_, fun i hi => h (i + 1) (Nat.succ_lt_succ hi)⟩
      have hfirst := h 0 (Nat.succ_pos _)
      rw [Vec.add_scale_zero] at hfirst
      exact hfirst

theorem mem_positions_iff (b : Box) (p : Vec) : p ∈ positions b ↔ b.Contains p := by
  simp only [positions, List.mem_flatMap, List.mem_range, List.mem_map]
  constructor
  · rintro ⟨j, hj, i, hi, rfl⟩
    have hX := b.high_x
    have hY := b.high_y
    refine ⟨?_, ?_, ?_, ?_⟩ <;> dsimp only [Box.position] <;> omega
  · intro h
    exact ⟨_, Grid.row_lt h, _, Grid.column_lt h, Box.position_toNat h⟩

theorem mem_occurrences_iff {g : Grid} {needle : List Int} {h : Heading} {p : Vec}
    (hne : needle ≠ []) :
    p ∈ occurrences g needle h ↔ g.box.Contains p ∧ spells g h.vec p needle = true := by
  simp [occurrences, hne, mem_positions_iff]

theorem pairwise_occurrences (g : Grid) (needle : List Int) (h : Heading) :
    (occurrences g needle h).Pairwise fun p q => keyLe h.vec p q = true := by
  unfold occurrences
  split
  · exact .nil
  · exact List.pairwise_mergeSort (keyLe_trans h.vec) (keyLe_total h.vec) _

structure First (g : Grid) (needle : List Int) (h : Heading) (p : Vec) : Prop where
  spells : spells g h.vec p needle = true
  least : ∀ q, Label.spells g h.vec q needle = true → keyLe h.vec p q = true

theorem contains_of_spells {g : Grid} {needle : List Int} {v p : Vec} (hne : needle ≠ [])
    (hblank : blank ∉ needle) (h : spells g v p needle = true) : g.box.Contains p := by
  apply Grid.contains_of_get_ne_blank
  have hlength : 0 < needle.length := List.length_pos_iff.mpr hne
  have hget := (spells_iff g v p needle).mp h 0 hlength
  rw [Vec.add_scale_zero] at hget
  rw [hget]
  intro he
  exact hblank (he ▸ List.getElem_mem hlength)

theorem mem_occurrences_iff_spells {g : Grid} {needle : List Int} {h : Heading} {p : Vec}
    (hne : needle ≠ []) (hblank : blank ∉ needle) :
    p ∈ occurrences g needle h ↔ spells g h.vec p needle = true := by
  rw [mem_occurrences_iff hne]
  exact and_iff_right_of_imp (contains_of_spells hne hblank)

theorem head?_occurrences_iff {g : Grid} {needle : List Int} {h : Heading} {p : Vec}
    (hne : needle ≠ []) (hblank : blank ∉ needle) :
    (occurrences g needle h).head? = some p ↔ First g needle h p := by
  have hmem {q : Vec} : q ∈ occurrences g needle h ↔ spells g h.vec q needle = true :=
    mem_occurrences_iff_spells hne hblank
  constructor
  · intro hhead
    obtain ⟨rest, hlist⟩ := List.head?_eq_some_iff.mp hhead
    have hsorted := pairwise_occurrences g needle h
    rw [hlist, List.pairwise_cons] at hsorted
    refine ⟨hmem.mp (hlist ▸ List.mem_cons_self), fun q hq => ?_⟩
    rcases List.mem_cons.mp (hlist ▸ hmem.mpr hq) with rfl | hrest
    · rw [keyLe_iff]
      omega
    · exact hsorted.1 q hrest
  · intro hfirst
    have hin := hmem.mpr hfirst.spells
    cases hlist : occurrences g needle h with
    | nil =>
      rw [hlist] at hin
      cases hin
    | cons a rest =>
      have hsorted := pairwise_occurrences g needle h
      rw [hlist, List.pairwise_cons] at hsorted
      rw [hlist] at hin
      rcases List.mem_cons.mp hin with rfl | hrest
      · rfl
      · have ha : Label.spells g h.vec a needle = true := hmem.mp (hlist ▸ List.mem_cons_self)
        rw [List.head?_cons, keyLe_antisymm (hsorted.1 p hrest) (hfirst.least a ha)]

theorem exists_first {g : Grid} {needle : List Int} {h : Heading} {q : Vec} (hne : needle ≠ [])
    (hblank : blank ∉ needle) (hq : spells g h.vec q needle = true) : ∃ p, First g needle h p := by
  have hmem : q ∈ occurrences g needle h := (mem_occurrences_iff_spells hne hblank).mpr hq
  obtain ⟨p, hp⟩ := Option.isSome_iff_exists.mp (List.isSome_head?.mpr (List.ne_nil_of_mem hmem))
  exact ⟨p, (head?_occurrences_iff hne hblank).mp hp⟩

theorem end?_of_first {g : Grid} {needle : List Int} {h : Heading} {p : Vec} (hne : needle ≠ [])
    (hblank : blank ∉ needle) (hfirst : First g needle h p) :
    Label.end? g needle h = some (p + h.vec.scale (needle.length - 1)) := by
  rw [end?, (head?_occurrences_iff hne hblank).mpr hfirst, Option.map_some]

/-- The first occurrence stays the first one if cells change only behind it on its line. -/
theorem First.of_agree {g g' : Grid} {needle : List Int} {h : Heading} {p : Vec}
    (hfirst : First g needle h p)
    (hagree : ∀ q, (∀ k : Nat, needle.length ≤ k → q ≠ p + h.vec.scale k) → g'.get q = g.get q) :
    First g' needle h p := by
  constructor
  · rw [spells_iff]
    intro i hi
    rw [hagree, (spells_iff g h.vec p needle).mp hfirst.spells i hi]
    intro k hk he
    have hik := h.add_scale_injective p he
    omega
  · intro q hq
    by_contra hlt
    refine hlt (hfirst.least q ?_)
    rw [keyLe_iff] at hlt
    rw [spells_iff] at hq ⊢
    intro i hi
    rw [← hq i hi, hagree]
    intro k hk he
    have hcross := congrArg h.vec.cross he
    have hdot := congrArg (fun r => Vec.dot r h.vec) he
    simp only [Vec.cross_add_scale, Vec.dot_add_scale] at hcross hdot
    have hle : (i : Int) * h.vec.dot h.vec ≤ k * h.vec.dot h.vec :=
      Int.mul_le_mul_of_nonneg_right (by omega) (Int.le_of_lt h.dot_vec_pos)
    omega

end Label

end Gridwalk
