import Gridwalk.Machine.Step

/-! # Single moves

What one move and one advance do, whatever the pose before: the pointer may be outside the box, and
the heading need not belong to the mode. Of the search for a command it is only said that it changes
nothing but the pose; how far it gets is left to the modules that need it.
-/

namespace Gridwalk
set_option autoImplicit false

theorem Box.wrap_of_contains {b : Box} {p : Vec} (h : b.Contains p) : b.wrap p = p := by
  obtain ⟨h₁, h₂, h₃, h₄⟩ := h
  have hX := b.high_x
  have hY := b.high_y
  ext
  · dsimp only [wrap]
    rw [Int.emod_eq_of_lt (by omega) (by omega)]
    omega
  · dsimp only [wrap]
    rw [Int.emod_eq_of_lt (by omega) (by omega)]
    omega

namespace Pose

theorem contains_move (b : Box) (pose : Pose) : b.Contains (pose.move b).position := by
  unfold move
  split
  · exact b.contains_wrap _
  · exact b.contains_wrap _

@[simp] theorem mode_move (b : Box) (pose : Pose) : (pose.move b).mode = pose.mode := by
  unfold move
  split <;> rfl

@[simp] theorem position_meet (pose : Pose) (t : Terrain) :
    (pose.meet t).position = pose.position := rfl

theorem advance_of_terrain {g : Grid} {inLiteral : Bool} {pose : Pose} {t : Terrain}
    (h : Terrain.ofCell? (g.get (pose.move g.box).position) = some t) :
    pose.advance g inLiteral = ((pose.move g.box).meet t, false) := by
  simp only [advance, h]

theorem advance_of_no_terrain {g : Grid} {inLiteral : Bool} {pose : Pose}
    (h : Terrain.ofCell? (g.get (pose.move g.box).position) = none) :
    pose.advance g inLiteral = (pose.move g.box,
      inLiteral || (Command.ofCell? (g.get (pose.move g.box).position) pose.mode).isSome) := by
  simp only [advance, h, mode_move]

theorem position_advance (g : Grid) (inLiteral : Bool) (pose : Pose) :
    (pose.advance g inLiteral).1.position = (pose.move g.box).position := by
  cases h : Terrain.ofCell? (g.get (pose.move g.box).position) with
  | some t => rw [advance_of_terrain h, position_meet]
  | none => rw [advance_of_no_terrain h]

theorem contains_advance (g : Grid) (inLiteral : Bool) (pose : Pose) :
    g.box.Contains (pose.advance g inLiteral).1.position := by
  rw [position_advance]
  exact contains_move g.box pose

/-- Whether there is something to execute under the pointer: a command of the mode or, inside a
literal, any cell that is not terrain. -/
def Executable (g : Grid) (inLiteral : Bool) (pose : Pose) : Prop :=
  Terrain.ofCell? (g.get pose.position) = none ∧
    (inLiteral = true ∨ (Command.ofCell? (g.get pose.position) pose.mode).isSome = true)

theorem found_advance_iff (g : Grid) (inLiteral : Bool) (pose : Pose) :
    (pose.advance g inLiteral).2 = true ↔ (pose.advance g inLiteral).1.Executable g inLiteral := by
  cases h : Terrain.ofCell? (g.get (pose.move g.box).position) with
  | some t => simp [advance_of_terrain h, Executable, h]
  | none => simp [advance_of_no_terrain h, Executable, h]

theorem seekWithin_succ (g : Grid) (inLiteral : Bool) (n : Nat) (pose : Pose) :
    seekWithin g inLiteral (n + 1) pose =
      if (pose.advance g inLiteral).2 = true then ((pose.advance g inLiteral).1, true)
      else seekWithin g inLiteral n (pose.advance g inLiteral).1 :=
  rfl

end Pose

theorem seekCommand_eq (m : Machine) :
    seekCommand m =
      let (pose, found) := Pose.seekWithin m.grid m.literal.isSome (Pose.patience m.grid) m.pose
      if found = true then .ok () { m with pose }
      else .error (.noReachableCommand pose.position (Pose.patience m.grid)) { m with pose } := by
  rw [seekCommand, Act.get_bind]
  generalize Pose.seekWithin m.grid m.literal.isSome (Pose.patience m.grid) m.pose = result
  obtain ⟨pose, found⟩ := result
  cases found <;> rfl

end Gridwalk
