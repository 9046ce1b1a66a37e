import Gridwalk.Proofs.Motion
import Mathlib.Data.Fintype.Pigeonhole
import Mathlib.Data.Finset.Prod
import Mathlib.Logic.Function.Iterate

/-! # Giving up a search

The search for the next command gives up after a fixed number of advances. It is shown here that it
never gives up too early. Every move ends inside the box, so from the first advance on the walk
stays among finitely many poses, and a walk among finitely many poses has seen all it will ever see
after as many advances. Nothing is said about how long a successful search takes.
-/

namespace Gridwalk
set_option autoImplicit false

section Orbit

variable {α : Type} {f : α → α} {x : α}

theorem exists_iterate_eq_of_repeat {i j : Nat} (hij : i < j) (h : f^[i] x = f^[j] x) (n : Nat) :
    ∃ k < j, f^[n] x = f^[k] x := by
  induction n using Nat.strong_induction_on with
  | _ n ih =>
    by_cases hn : n < j
    · exact ⟨n, hn, rfl⟩
    · obtain ⟨d, rfl⟩ := Nat.exists_eq_add_of_le (Nat.le_of_not_lt hn)
      obtain ⟨k, hk, he⟩ := ih (d + i) (by omega)
      refine ⟨k, hk, ?_⟩
      rw [← he, Nat.add_comm, Function.iterate_add_apply, ← h, ← Function.iterate_add_apply]

/-- An orbit inside a finite set is complete after as many steps as the set has elements. -/
theorem exists_iterate_lt_card {s : Finset α} (hs : ∀ n, f^[n] x ∈ s) (n : Nat) :
    ∃ k < s.card, f^[n] x = f^[k] x := by
  have hcard : s.card < (Finset.range (s.card + 1)).card := by simp
  obtain ⟨i, hi, j, hj, hne, he⟩ :=
    Finset.exists_ne_map_eq_of_card_lt_of_maps_to hcard fun k _ => hs k
  simp only [Finset.mem_range, Nat.lt_succ_iff] at hi hj
  rcases Nat.lt_or_gt_of_ne hne with hij | hji
  · obtain ⟨k, hk, hkn⟩ := exists_iterate_eq_of_repeat hij he n
    exact ⟨k, hk.trans_le hj, hkn⟩
  · obtain ⟨k, hk, hkn⟩ := exists_iterate_eq_of_repeat hji he.symm n
    exact ⟨k, hk.trans_le hi, hkn⟩

end Orbit

namespace Pose

def walk (g : Grid) (inLiteral : Bool) (pose : Pose) (n : Nat) : Pose :=
  (fun q => (q.advance g inLiteral).1)^[n] pose

def Finds (g : Grid) (inLiteral : Bool) (pose : Pose) (n : Nat) : Prop :=
  ((walk g inLiteral pose n).advance g inLiteral).2 = true

def FirstFinds (g : Grid) (inLiteral : Bool) (pose : Pose) (n : Nat) : Prop :=
  Finds g inLiteral pose n ∧ ∀ k < n, ¬ Finds g inLiteral pose k

variable {g : Grid} {inLiteral : Bool} {pose : Pose}

@[simp] theorem walk_zero : walk g inLiteral pose 0 = pose := rfl

theorem walk_succ (n : Nat) :
    walk g inLiteral pose (n + 1) = ((walk g inLiteral pose n).advance g inLiteral).1 :=
  Function.iterate_succ_apply' ..

theorem walk_advance (n : Nat) :
    walk g inLiteral (pose.advance g inLiteral).1 n = walk g inLiteral pose (n + 1) :=
  (Function.iterate_succ_apply ..).symm

theorem finds_advance_iff (n : Nat) :
    Finds g inLiteral (pose.advance g inLiteral).1 n ↔ Finds g inLiteral pose (n + 1) := by
  rw [Finds, Finds, walk_advance]

theorem finds_iff_executable (n : Nat) :
    Finds g inLiteral pose n ↔ (walk g inLiteral pose (n + 1)).Executable g inLiteral := by
  rw [walk_succ]
  exact found_advance_iff g inLiteral _

theorem exists_firstFinds (h : ∃ n, Finds g inLiteral pose n) :
    ∃ n, FirstFinds g inLiteral pose n := by
  classical
  exact ⟨Nat.find h, Nat.find_spec h, fun k hk => Nat.find_min h hk⟩

theorem FirstFinds.unique {n k : Nat} (hn : FirstFinds g inLiteral pose n)
    (hk : FirstFinds g inLiteral pose k) : n = k := by
  rcases Nat.lt_trichotomy n k with hlt | he | hgt
  · exact absurd hn.1 (hk.2 n hlt)
  · exact he
  · exact absurd hk.1 (hn.2 k hgt)

def posesIn (b : Box) : Finset Pose :=
  (Finset.range b.columns ×ˢ Finset.range b.rows ×ˢ Heading.all.toFinset ×ˢ
    ({.cardinal, .ordinal} : Finset Mode)).image
    fun (i, j, heading, mode) => ⟨b.position i j, heading, mode⟩

theorem mem_posesIn {b : Box} {q : Pose} (h : b.Contains q.position) : q ∈ posesIn b := by
  obtain ⟨p, heading, mode⟩ := q
  refine Finset.mem_image.mpr
    ⟨((p.x - b.low.x).toNat, (p.y - b.low.y).toNat, heading, mode), ?_, ?_⟩
  · have hHeading : heading ∈ Heading.all := by cases heading <;> decide
    have hMode : mode ∈ ({.cardinal, .ordinal} : Finset Mode) := by cases mode <;> decide
    simp only [Finset.mem_product, Finset.mem_range, List.mem_toFinset]
    exact ⟨Grid.column_lt h, Grid.row_lt h, hHeading, hMode⟩
  · simp only [Box.position_toNat h]

theorem card_posesIn_le (b : Box) : (posesIn b).card ≤ 16 * (b.columns * b.rows) := by
  refine Finset.card_image_le.trans ?_
  have hHeadings : Heading.all.toFinset.card = 8 := by decide
  have hModes : ({.cardinal, .ordinal} : Finset Mode).card = 2 := by decide
  simp only [Finset.card_product, Finset.card_range, hHeadings, hModes]
  rw [← Nat.mul_assoc, Nat.mul_comm]

theorem exists_walk_eq (g : Grid) (inLiteral : Bool) (pose : Pose) (n : Nat) :
    ∃ k < 16 * (g.width * g.height),
      walk g inLiteral pose (n + 1) = walk g inLiteral pose (k + 1) := by
  -- The pointer may start outside the box; the first advance brings it in for good.
  have hmem : ∀ i, walk g inLiteral (pose.advance g inLiteral).1 i ∈ posesIn g.box := by
    intro i
    refine mem_posesIn ?_
    rw [walk_advance, walk_succ]
    exact contains_advance g inLiteral _
  obtain ⟨k, hk, he⟩ := exists_iterate_lt_card hmem n
  refine ⟨k, hk.trans_le (card_posesIn_le g.box), ?_⟩
  rw [← walk_advance, ← walk_advance]
  exact he

theorem FirstFinds.lt_patience {n : Nat} (h : FirstFinds g inLiteral pose n) : n < patience g := by
  cases n with
  | zero => exact Nat.succ_pos _
  | succ n =>
    obtain ⟨k, hk, he⟩ := exists_walk_eq g inLiteral pose n
    have hfinds : Finds g inLiteral pose (k + 1) := by
      rw [Finds, ← he]
      exact h.1
    have hle : n ≤ k := by
      by_contra hlt
      exact h.2 (k + 1) (by omega) hfinds
    unfold patience
    omega

theorem seekWithin_of_firstFinds {n k : Nat} (h : FirstFinds g inLiteral pose k) (hk : k < n) :
    seekWithin g inLiteral n pose = (walk g inLiteral pose (k + 1), true) := by
  induction n generalizing pose k with
  | zero => exact absurd hk (Nat.not_lt_zero k)
  | succ n ih =>
    obtain ⟨hfinds, hfirst⟩ := h
    cases k with
    | zero =>
      have hfound : (pose.advance g inLiteral).2 = true := hfinds
      rw [seekWithin_succ, if_pos hfound, walk_succ, walk_zero]
    | succ k =>
      have hnot : ¬ (pose.advance g inLiteral).2 = true := hfirst 0 (Nat.succ_pos k)
      have hrest : FirstFinds g inLiteral (pose.advance g inLiteral).1 k := by
        refine ⟨(finds_advance_iff k).mpr hfinds, fun i hi => ?_⟩
        rw [finds_advance_iff]
        exact hfirst (i + 1) (by omega)
      rw [seekWithin_succ, if_neg hnot, ih hrest (by omega), walk_advance]

theorem seekWithin_of_not_finds {n : Nat} (h : ∀ k < n, ¬ Finds g inLiteral pose k) :
    seekWithin g inLiteral n pose = (walk g inLiteral pose n, false) := by
  induction n generalizing pose with
  | zero => rfl
  | succ n ih =>
    have hnot : ¬ (pose.advance g inLiteral).2 = true := h 0 (Nat.succ_pos n)
    have hrest : ∀ k < n, ¬ Finds g inLiteral (pose.advance g inLiteral).1 k := by
      intro k hk
      rw [finds_advance_iff]
      exact h (k + 1) (by omega)
    rw [seekWithin_succ, if_neg hnot, ih hrest, walk_advance]

end Pose

namespace Machine

def walked (m : Machine) (n : Nat) : Machine :=
  { m with pose := Pose.walk m.grid m.literal.isSome m.pose n }

def Finds (m : Machine) (n : Nat) : Prop := Pose.Finds m.grid m.literal.isSome m.pose n

end Machine

theorem seekCommand_of_firstFinds {m : Machine} {n : Nat}
    (h : Pose.FirstFinds m.grid m.literal.isSome m.pose n) :
    seekCommand m = .ok () (m.walked (n + 1)) := by
  rw [seekCommand_eq, Pose.seekWithin_of_firstFinds h h.lt_patience]
  rfl

theorem seekCommand_of_not_finds {m : Machine} (h : ∀ n, ¬ m.Finds n) :
    seekCommand m = .error
      (.noReachableCommand (m.walked (Pose.patience m.grid)).position (Pose.patience m.grid))
      (m.walked (Pose.patience m.grid)) := by
  rw [seekCommand_eq, Pose.seekWithin_of_not_finds fun k _ => h k]
  rfl

/-- The search succeeds exactly if some number of advances would find something to execute, and then
it stops at the first such advance. It gives up exactly if no number of advances would ever bring
the pointer to something to execute. -/
theorem seekCommand_exact (m : Machine) :
    ((∃ m', seekCommand m = .ok () m') ↔ ∃ n, m.Finds n) ∧
    (∀ m', seekCommand m = .ok () m' ↔
      ∃ n, m.Finds n ∧ (∀ k < n, ¬ m.Finds k) ∧ m' = m.walked (n + 1)) ∧
    (∀ fault m', seekCommand m = .error fault m' ↔
      (∀ n, ¬ (m.walked (n + 1)).pose.Executable m.grid m.literal.isSome) ∧
        m' = m.walked (Pose.patience m.grid) ∧
        fault = .noReachableCommand m'.position (Pose.patience m.grid)) := by
  have hrests (n : Nat) : m.Finds n ↔
      (m.walked (n + 1)).pose.Executable m.grid m.literal.isSome := Pose.finds_iff_executable n
  by_cases hfinds : ∃ n, m.Finds n
  · obtain ⟨n, hn⟩ := Pose.exists_firstFinds hfinds
    have hseek := seekCommand_of_firstFinds hn
    refine ⟨⟨fun _ => hfinds, fun _ => ⟨_, hseek⟩⟩, fun m' => ?_, fun fault m' => ?_⟩
    · rw [hseek]
      constructor
      · rintro ⟨⟩
        exact ⟨n, hn.1, hn.2, rfl⟩
      · rintro ⟨k, hk, hfirst, rfl⟩
        rw [hn.unique ⟨hk, hfirst⟩]
    · rw [hseek]
      constructor
      · intro h
        cases h
      · rintro ⟨hnever, -⟩
        exact absurd ((hrests n).mp hn.1) (hnever n)
  · have hnever : ∀ n, ¬ m.Finds n := fun n hn => hfinds ⟨n, hn⟩
    have hseek := seekCommand_of_not_finds hnever
    refine ⟨⟨?_, fun h => absurd h hfinds⟩, fun m' => ?_, fun fault m' => ?_⟩
    · rintro ⟨m', h⟩
      rw [hseek] at h
      cases h
    · rw [hseek]
      constructor
      · intro h
        cases h
      · rintro ⟨n, hn, -⟩
        exact absurd hn (hnever n)
    · rw [hseek]
      constructor
      · rintro ⟨⟩
        exact ⟨fun n hn => hnever n ((hrests n).mpr hn), rfl, rfl⟩
      · rintro ⟨-, rfl, rfl⟩
        rfl

end Gridwalk
