import Gridwalk.Proofs.Reachable

/-! # Straight and diagonal headings

In every reachable machine the heading is diagonal exactly in ordinal mode. A repeated command runs
in the mode in which it was found, since no elementary change of a command touches the mode; only
the walk does, and then it changes the family of the heading with it.
-/

namespace Gridwalk
set_option autoImplicit false

open Act

namespace Pose

def Aligned (pose : Pose) : Prop := pose.heading.isDiagonal = decide (pose.mode = .ordinal)

theorem isDiagonal_bounce (b : Box) (p : Vec) (h : Heading) :
    (bounce b p h).isDiagonal = h.isDiagonal := by
  have hwall (h : Heading) (t : Terrain) (ht : t.switchesMode = false) :
      (h.reflect t).isDiagonal = h.isDiagonal := by
    rw [Heading.isDiagonal_reflect, ht, Bool.bne_false]
  unfold bounce
  dsimp only
  split_ifs
  · rw [hwall _ .floor rfl, hwall _ .pillar rfl]
  · rw [hwall _ .floor rfl]
  · rw [hwall _ .pillar rfl]
  · rfl

theorem Aligned.move {pose : Pose} (h : pose.Aligned) (b : Box) : (pose.move b).Aligned := by
  unfold Pose.move
  split
  · exact h
  · exact (isDiagonal_bounce b pose.position pose.heading).trans h

theorem Aligned.meet {pose : Pose} (h : pose.Aligned) (t : Terrain) : (pose.meet t).Aligned := by
  unfold Aligned at h
  unfold Aligned Pose.meet
  rw [Heading.isDiagonal_reflect, h]
  cases pose.mode <;> cases t.switchesMode <;> rfl

theorem Aligned.advance {pose : Pose} (h : pose.Aligned) (g : Grid) (inLiteral : Bool) :
    (pose.advance g inLiteral).1.Aligned := by
  cases ht : Terrain.ofCell? (g.get (pose.move g.box).position) with
  | some t =>
    rw [advance_of_terrain ht]
    exact (h.move g.box).meet t
  | none =>
    rw [advance_of_no_terrain ht]
    exact h.move g.box

theorem Aligned.seekWithin {pose : Pose} (h : pose.Aligned) (g : Grid) (inLiteral : Bool)
    (n : Nat) : (pose.seekWithin g inLiteral n).1.Aligned := by
  induction n generalizing pose with
  | zero => exact h
  | succ n ih =>
    rw [seekWithin_succ]
    split
    · exact h.advance g inLiteral
    · exact ih (h.advance g inLiteral)

end Pose

theorem Effect.aligned {mode : Mode} {m m' : Machine} (h : Effect mode m m')
    (hm : m.mode = mode ∧ m.pose.Aligned) : m'.mode = mode ∧ m'.pose.Aligned := by
  obtain ⟨hmode, haligned⟩ := hm
  cases h with
  | move => exact ⟨(Pose.mode_move _ _).trans hmode, haligned.move _⟩
  | turn h hh => exact ⟨hmode, hh.trans haligned⟩
  | face h hc hh =>
    refine ⟨hmode, hh.trans ?_⟩
    have hcardinal : m.pose.mode = .cardinal := hmode.trans hc
    rw [hcardinal]
    rfl
  | stack | tape | returns | queue | literal | stop | arguments | input | output | dice | wait
  | write | jump => exact ⟨hmode, haligned⟩

theorem Effects.aligned {mode : Mode} {m m' : Machine} (h : Effects mode m m')
    (hm : m.mode = mode ∧ m.pose.Aligned) : m'.mode = mode ∧ m'.pose.Aligned := by
  induction h with
  | refl => exact hm
  | tail _ hlast ih => exact hlast.aligned ih

theorem Reachable.aligned {start m : Machine} (h : Reachable start m) (hs : start.pose.Aligned) :
    m.pose.Aligned := by
  induction h with
  | start => exact hs
  | push _ v ih => exact ih
  | enqueue _ r ih => exact ih
  | outside _ input output dice clock waiting ih => exact ih
  | step _ ih =>
    refine step_preserves (I := (·.pose.Aligned)) (fun m hm => ?_) (fun m hm => ?_)
      (fun m n hm => hm) ih
    · rw [last_seekCommand]
      exact hm.seekWithin _ _ _
    · exact ((effects_executeCell m).aligned ⟨rfl, hm⟩).2

/-- Mode and family of the heading never drift apart in a run, whatever the program, the streams,
the arguments, the values pushed and the repetitions enqueued, and whether the ticks succeed or
fail. -/
theorem heading_matches_mode (grid : Grid) (arguments : List String) (input : Input)
    (output : Output) (dice : Dice) (clock : String) {m : Machine}
    (h : Reachable (.load grid arguments input output dice clock) m) :
    (m.heading ∈ [.north, .east, .south, .west] ↔ m.mode = .cardinal) ∧
    (m.heading ∈ [.northEast, .southEast, .southWest, .northWest] ↔ m.mode = .ordinal) := by
  have haligned : m.heading.isDiagonal = decide (m.mode = .ordinal) := h.aligned rfl
  revert haligned
  cases m.heading <;> cases m.mode <;> decide

/-- The first tick of a row with a slash before a digit ends in ordinal mode. -/
theorem heading_matches_mode_after_slash :
    let m := step.last (.load
      (.tabulate (.span ⟨0, 0⟩ ⟨1, 0⟩) fun p => if p.x = 0 then Text.code '/' else Text.code '1')
      [] (.ofBytes []) .empty .first "")
    m.mode = .ordinal ∧ m.heading ∈ [.northEast, .southEast, .southWest, .northWest] := by
  intro m
  have hmode : m.mode = .ordinal := by decide +kernel
  exact ⟨hmode, (heading_matches_mode _ _ _ _ _ _ (.step .start)).2.mpr hmode⟩

end Gridwalk
