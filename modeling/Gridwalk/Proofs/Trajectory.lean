import Gridwalk.Proofs.HeadingFamily
import Mathlib.Logic.Function.Iterate
import Mathlib.Tactic.LinearCombination
import Mathlib.Tactic.Ring

/-! # Where many moves lead

In cardinal mode the moves add up and only their sum is wrapped. In ordinal mode the two axes do not
see each other: along each of them the pointer goes to and fro, and its place is told by a phase
that grows by one with every move and repeats after twice the length of the axis. The heading takes
part in the phase, so a bounce needs no case of its own.
-/

namespace Gridwalk
set_option autoImplicit false

/-! ## Cardinal mode -/

theorem Box.wrap_wrap_add (b : Box) (p v : Vec) : b.wrap (b.wrap p + v) = b.wrap (p + v) := by
  have hx : b.low.x + (p.x - b.low.x) % b.columns + v.x - b.low.x =
      (p.x - b.low.x) % b.columns + v.x := by omega
  have hy : b.low.y + (p.y - b.low.y) % b.rows + v.y - b.low.y =
      (p.y - b.low.y) % b.rows + v.y := by omega
  ext
  · simp only [wrap, Vec.add_x, hx, Int.emod_add_emod]
    congr 2
    omega
  · simp only [wrap, Vec.add_y, hy, Int.emod_add_emod]
    congr 2
    omega

namespace Pose

theorem iterate_move_cardinal (b : Box) {pose : Pose} (h : pose.mode = .cardinal) (n : Nat) :
    (move b)^[n + 1] pose =
      { pose with position := b.wrap (pose.position + pose.heading.vec.scale (n + 1 : Nat)) } := by
  induction n with
  | zero => simp [move, h, Vec.scale]
  | succ n ih =>
    have hsum : pose.position + pose.heading.vec.scale (n + 1 : Nat) + pose.heading.vec =
        pose.position + pose.heading.vec.scale (n + 1 + 1 : Nat) := by
      ext <;> simp [Vec.scale] <;> ring
    rw [Function.iterate_succ_apply', ih]
    simp only [move, h, Box.wrap_wrap_add, hsum]

end Pose

/-! ## One axis in ordinal mode -/

/-- An axis with some number of cells, walked to and fro: the place, counted from the low end, and
the speed after one move. -/
def bounceAlong (size : Nat) (c : Int × Int) : Int × Int :=
  let speed := if 1 < size ∧ (c.1 + c.2 < 0 ∨ size - 1 < c.1 + c.2) then -c.2 else c.2
  (c.1 + if size = 1 then 0 else speed, speed)

/-- The place on an axis of length `L` in a phase. The way up is walked in the first half of the
period and the way down in the second. -/
def placeInPhase (L : Nat) (phase : Int) : Int :=
  let r := phase % (2 * L)
  if r ≤ L then r else 2 * L - r

/-- The place `u` is on the axis, and a walk that comes by it with speed `s` is in the phase `k`. -/
structure InPhase (L : Nat) (k u s : Int) : Prop where
  speed : s = 1 ∨ s = -1
  low : 0 ≤ u
  high : u ≤ L
  phase : ∃ q : Int, s * u = k + 2 * L * q

variable {L : Nat} {k u s : Int}

theorem InPhase.start (hs : s = 1 ∨ s = -1) (hlow : 0 ≤ u) (hhigh : u ≤ L) :
    InPhase L (s * u) u s :=
  ⟨hs, hlow, hhigh, 0, by simp⟩

theorem InPhase.step (h : InPhase L k u s) (hL : 0 < L) :
    InPhase L (k + 1) (bounceAlong (L + 1) (u, s)).1 (bounceAlong (L + 1) (u, s)).2 := by
  obtain ⟨hs, hlow, hhigh, q, hq⟩ := h
  have hsize : L + 1 ≠ 1 := by omega
  simp only [bounceAlong, if_neg hsize]
  split
  · rename_i hout
    rcases hs with rfl | rfl
    · have hend : u = L := by omega
      refine ⟨.inr rfl, by omega, by omega, q - 1, ?_⟩
      rw [hend] at hq ⊢
      linear_combination hq
    · have hend : u = 0 := by omega
      refine ⟨.inl rfl, by omega, by omega, q, ?_⟩
      linear_combination hq + 2 * hend
  · rename_i hin
    refine ⟨hs, ?_, ?_, q, ?_⟩
    · rcases hs with rfl | rfl <;> omega
    · rcases hs with rfl | rfl <;> omega
    · rcases hs with rfl | rfl <;> linear_combination hq

theorem InPhase.eq_place (h : InPhase L k u s) (hL : 0 < L) : u = placeInPhase L k := by
  obtain ⟨hs, hlow, hhigh, q, hq⟩ := h
  have hphase (r q' : Int) (hk : k = r + 2 * L * q') (hr : 0 ≤ r) (hr' : r < 2 * L) :
      k % (2 * L) = r := by
    rw [hk, Int.add_mul_emod_self_left, Int.emod_eq_of_lt hr hr']
  unfold placeInPhase
  rcases hs with rfl | rfl
  · rw [hphase u (-q) (by linear_combination -hq) hlow (by omega)]
    exact (if_pos hhigh).symm
  · by_cases hzero : u = 0
    · rw [hphase 0 (-q) (by linear_combination -hq - hzero) (Int.le_refl 0) (by omega)]
      rw [hzero]
      simp
    · rw [hphase (2 * L - u) (-q - 1) (by linear_combination -hq) (by omega) (by omega)]
      dsimp only
      split <;> omega

theorem InPhase.iterate (h : InPhase L k u s) (hL : 0 < L) (n : Nat) :
    InPhase L (k + n) ((bounceAlong (L + 1))^[n] (u, s)).1
      ((bounceAlong (L + 1))^[n] (u, s)).2 := by
  induction n with
  | zero => simpa using h
  | succ n ih =>
    rw [Function.iterate_succ_apply']
    have hnext := ih.step hL
    rw [Int.natCast_succ, ← Int.add_assoc]
    exact hnext

theorem iterate_bounceAlong_one (c : Int × Int) (n : Nat) : (bounceAlong 1)^[n] c = c :=
  Function.iterate_fixed (by simp [bounceAlong]) n

section Axis

variable {size : Nat} {c : Int × Int} (hs : c.2 = 1 ∨ c.2 = -1)
include hs

theorem bounceAlong_inside (hlow : 0 ≤ c.1) (hhigh : c.1 < size) :
    0 ≤ (bounceAlong size c).1 ∧ (bounceAlong size c).1 < size := by
  simp only [bounceAlong]
  rcases hs with h | h <;> rw [h] <;> split_ifs <;> omega

theorem natAbs_bounceAlong_sub_le : ((bounceAlong size c).1 - c.1).natAbs ≤ 1 := by
  simp only [bounceAlong]
  rcases hs with h | h <;> rw [h] <;> split_ifs <;> omega

theorem iterate_bounceAlong (hlow : 0 ≤ c.1) (hhigh : c.1 < size) (n : Nat) :
    (size = 1 → ((bounceAlong size)^[n] c).1 = c.1) ∧
      ∀ L : Nat, 0 < L → size = L + 1 →
        ((bounceAlong size)^[n] c).1 = placeInPhase L (c.2 * c.1 + n) := by
  constructor
  · rintro rfl
    rw [iterate_bounceAlong_one]
  · rintro L hL rfl
    exact ((InPhase.start hs hlow (by omega)).iterate hL n).eq_place hL

end Axis

/-! ## Both axes -/

namespace Heading

@[simp] theorem vec_reflect_pillar (h : Heading) :
    (h.reflect .pillar).vec = ⟨-h.vec.x, h.vec.y⟩ := by
  cases h <;> rfl

@[simp] theorem vec_reflect_floor (h : Heading) :
    (h.reflect .floor).vec = ⟨h.vec.x, -h.vec.y⟩ := by
  cases h <;> rfl

theorem vec_of_isDiagonal {h : Heading} (hh : h.isDiagonal = true) :
    (h.vec.x = 1 ∨ h.vec.x = -1) ∧ (h.vec.y = 1 ∨ h.vec.y = -1) := by
  cases h with
  | northEast | southEast | southWest | northWest => exact ⟨by decide, by decide⟩
  | north | east | south | west => cases hh

end Heading

namespace Pose

def alongX (b : Box) (pose : Pose) : Int × Int := (pose.position.x - b.low.x, pose.heading.vec.x)

def alongY (b : Box) (pose : Pose) : Int × Int := (pose.position.y - b.low.y, pose.heading.vec.y)

structure Bounces (b : Box) (pose : Pose) : Prop where
  mode : pose.mode = .ordinal
  inside : b.Contains pose.position
  diagonal : pose.heading.isDiagonal = true

variable {b : Box} {pose : Pose}

theorem Bounces.alongX (h : pose.Bounces b) :
    ((pose.alongX b).2 = 1 ∨ (pose.alongX b).2 = -1) ∧
      0 ≤ (pose.alongX b).1 ∧ (pose.alongX b).1 < b.columns := by
  obtain ⟨h₁, h₂, -, -⟩ := h.inside
  have hX := b.high_x
  refine ⟨(Heading.vec_of_isDiagonal h.diagonal).1, ?_, ?_⟩ <;> dsimp only [Pose.alongX] <;> omega

theorem Bounces.alongY (h : pose.Bounces b) :
    ((pose.alongY b).2 = 1 ∨ (pose.alongY b).2 = -1) ∧
      0 ≤ (pose.alongY b).1 ∧ (pose.alongY b).1 < b.rows := by
  obtain ⟨-, -, h₃, h₄⟩ := h.inside
  have hY := b.high_y
  refine ⟨(Heading.vec_of_isDiagonal h.diagonal).2, ?_, ?_⟩ <;> dsimp only [Pose.alongY] <;> omega

theorem vec_bounce (b : Box) (pose : Pose) :
    (bounce b pose.position pose.heading).vec =
      ⟨(bounceAlong b.columns (pose.alongX b)).2, (bounceAlong b.rows (pose.alongY b)).2⟩ := by
  have hX := b.high_x
  have hY := b.high_y
  have hx : ((pose.alongX b).1 + (pose.alongX b).2 < 0 ∨
        (b.columns : Int) - 1 < (pose.alongX b).1 + (pose.alongX b).2) ↔
      ((pose.position + pose.heading.vec).x < b.low.x ∨
        b.high.x < (pose.position + pose.heading.vec).x) := by
    rw [Vec.add_x, alongX]
    omega
  have hy : ((pose.alongY b).1 + (pose.alongY b).2 < 0 ∨
        (b.rows : Int) - 1 < (pose.alongY b).1 + (pose.alongY b).2) ↔
      ((pose.position + pose.heading.vec).y < b.low.y ∨
        b.high.y < (pose.position + pose.heading.vec).y) := by
    rw [Vec.add_y, alongY]
    omega
  simp only [bounceAlong, bounce, hx, hy]
  split_ifs <;> simp [alongX, alongY]

theorem add_stepWithin_bounce (b : Box) (pose : Pose) :
    pose.position + stepWithin b (bounce b pose.position pose.heading) =
      ⟨b.low.x + (bounceAlong b.columns (pose.alongX b)).1,
        b.low.y + (bounceAlong b.rows (pose.alongY b)).1⟩ := by
  ext
  · simp only [Vec.add_x, stepWithin, vec_bounce, bounceAlong, alongX]
    omega
  · simp only [Vec.add_y, stepWithin, vec_bounce, bounceAlong, alongY]
    omega

theorem Bounces.move (h : pose.Bounces b) : (pose.move b).Bounces b := by
  refine ⟨?_, pose.contains_move b, ?_⟩
  · rw [mode_move, h.mode]
  · simp only [Pose.move, h.mode, isDiagonal_bounce]
    exact h.diagonal

theorem Bounces.position_move (h : pose.Bounces b) :
    (pose.move b).position = ⟨b.low.x + (bounceAlong b.columns (pose.alongX b)).1,
      b.low.y + (bounceAlong b.rows (pose.alongY b)).1⟩ := by
  obtain ⟨hspeedX, hlowX, hhighX⟩ := h.alongX
  obtain ⟨hspeedY, hlowY, hhighY⟩ := h.alongY
  have hinX := bounceAlong_inside hspeedX hlowX hhighX
  have hinY := bounceAlong_inside hspeedY hlowY hhighY
  have hX := b.high_x
  have hY := b.high_y
  simp only [Pose.move, h.mode, add_stepWithin_bounce]
  apply Box.wrap_of_contains
  refine ⟨?_, ?_, ?_, ?_⟩ <;> dsimp only <;> omega

theorem Bounces.natAbs_step_le (h : pose.Bounces b) :
    ((pose.move b).position.x - pose.position.x).natAbs ≤ 1 ∧
      ((pose.move b).position.y - pose.position.y).natAbs ≤ 1 := by
  have hx : ((bounceAlong b.columns (pose.alongX b)).1 - (pose.alongX b).1).natAbs ≤ 1 :=
    natAbs_bounceAlong_sub_le h.alongX.1
  have hy : ((bounceAlong b.rows (pose.alongY b)).1 - (pose.alongY b).1).natAbs ≤ 1 :=
    natAbs_bounceAlong_sub_le h.alongY.1
  rw [h.position_move]
  dsimp only [Pose.alongX, Pose.alongY] at hx hy ⊢
  constructor <;> omega

theorem Bounces.along_move (h : pose.Bounces b) :
    (pose.move b).alongX b = bounceAlong b.columns (pose.alongX b) ∧
      (pose.move b).alongY b = bounceAlong b.rows (pose.alongY b) := by
  have hvec := vec_bounce b pose
  have hheading : (pose.move b).heading = bounce b pose.position pose.heading := by
    simp only [Pose.move, h.mode]
  rw [← hheading] at hvec
  constructor
  · rw [Pose.alongX, h.position_move, hvec]
    simp
  · rw [Pose.alongY, h.position_move, hvec]
    simp

theorem Bounces.iterate (h : pose.Bounces b) (n : Nat) : ((Pose.move b)^[n] pose).Bounces b := by
  induction n with
  | zero => exact h
  | succ n ih =>
    rw [Function.iterate_succ_apply']
    exact ih.move

theorem Bounces.along_iterate (h : pose.Bounces b) (n : Nat) :
    ((Pose.move b)^[n] pose).alongX b = (bounceAlong b.columns)^[n] (pose.alongX b) ∧
      ((Pose.move b)^[n] pose).alongY b = (bounceAlong b.rows)^[n] (pose.alongY b) := by
  induction n with
  | zero => exact ⟨rfl, rfl⟩
  | succ n ih =>
    obtain ⟨hx, hy⟩ := (h.iterate n).along_move
    simp only [Function.iterate_succ_apply', ← ih.1, ← ih.2]
    exact ⟨hx, hy⟩

/-- The place after some number of moves. In cardinal mode, whatever the heading and the place
before, the moves are added up and wrapped once. In ordinal mode a diagonal walk inside the box
stays where it is along an axis with one cell and goes to and fro along any other; no move is by
more than one cell along an axis. -/
theorem moves_in_closed_form (b : Box) (pose : Pose) (n : Nat) :
    (pose.mode = .cardinal → 0 < n → ((move b)^[n] pose).position =
      ⟨b.low.x + (pose.position.x + n * pose.heading.vec.x - b.low.x) % b.columns,
        b.low.y + (pose.position.y + n * pose.heading.vec.y - b.low.y) % b.rows⟩) ∧
    (pose.mode = .ordinal → b.Contains pose.position → pose.heading.isDiagonal = true →
      ((b.columns = 1 → ((move b)^[n] pose).position.x = pose.position.x) ∧
        ∀ L : Nat, 0 < L → b.columns = L + 1 → ((move b)^[n] pose).position.x - b.low.x =
          placeInPhase L (pose.heading.vec.x * (pose.position.x - b.low.x) + n)) ∧
      ((b.rows = 1 → ((move b)^[n] pose).position.y = pose.position.y) ∧
        ∀ L : Nat, 0 < L → b.rows = L + 1 → ((move b)^[n] pose).position.y - b.low.y =
          placeInPhase L (pose.heading.vec.y * (pose.position.y - b.low.y) + n)) ∧
      (((move b)^[n + 1] pose).position.x - ((move b)^[n] pose).position.x).natAbs ≤ 1 ∧
      (((move b)^[n + 1] pose).position.y - ((move b)^[n] pose).position.y).natAbs ≤ 1) := by
  constructor
  · intro hmode hn
    obtain ⟨n, rfl⟩ := Nat.exists_eq_succ_of_ne_zero (Nat.ne_of_gt hn)
    rw [Nat.succ_eq_add_one, iterate_move_cardinal b hmode]
    simp only [Box.wrap, Vec.add_x, Vec.add_y, Vec.scale, Int.mul_comm]
  · intro hmode hinside hdiagonal
    have h : pose.Bounces b := ⟨hmode, hinside, hdiagonal⟩
    obtain ⟨hx, hy⟩ := h.along_iterate n
    obtain ⟨hspeedX, hlowX, hhighX⟩ := h.alongX
    obtain ⟨hspeedY, hlowY, hhighY⟩ := h.alongY
    have hX := iterate_bounceAlong hspeedX hlowX hhighX n
    have hY := iterate_bounceAlong hspeedY hlowY hhighY n
    rw [← hx] at hX
    rw [← hy] at hY
    rw [Function.iterate_succ_apply']
    dsimp only [alongX] at hX
    dsimp only [alongY] at hY
    refine ⟨⟨fun h₁ => ?_, hX.2⟩, ⟨fun h₁ => ?_, hY.2⟩, (h.iterate n).natAbs_step_le⟩
    · have hsame := hX.1 h₁
      omega
    · have hsame := hY.1 h₁
      omega

/-- From outside the box three moves to the south, and five bounces in a box with four columns and
two rows. -/
theorem moves_in_closed_form_two_rows :
    let b := Box.span ⟨-1, 5⟩ ⟨2, 6⟩
    ((move b)^[3] ⟨⟨10, -7⟩, .south, .cardinal⟩).position = ⟨2, 6⟩ ∧
    ((move b)^[5] ⟨⟨1, 5⟩, .northEast, .ordinal⟩).position.x - b.low.x = 1 ∧
    ((move b)^[5] ⟨⟨1, 5⟩, .northEast, .ordinal⟩).position.y - b.low.y = 1 := by
  intro b
  have hwrapped := (moves_in_closed_form b ⟨⟨10, -7⟩, .south, .cardinal⟩ 3).1 rfl (by decide)
  obtain ⟨hx, hy, -⟩ :=
    (moves_in_closed_form b ⟨⟨1, 5⟩, .northEast, .ordinal⟩ 5).2 rfl (by decide) rfl
  exact ⟨hwrapped.trans (by decide), (hx.2 3 (by decide) rfl).trans (by decide),
    (hy.2 1 (by decide) rfl).trans (by decide)⟩

end Pose

end Gridwalk
