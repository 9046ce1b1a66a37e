import Gridwalk.Proofs.Effects
import Gridwalk.Proofs.Motion

/-! # Reachable machines

A machine is reached by ticks, successful or failed, and by what the outer layer may do between
them: push a value, enqueue a repetition, and exchange the streams, the dice, the clock and the time
still to wait. An invariant of all these is an invariant of every run.
-/

namespace Gridwalk
set_option autoImplicit false

open Act

inductive Reachable (start : Machine) : Machine → Prop where
  | start : Reachable start start
  | push {m : Machine} (h : Reachable start m) (v : Value) : Reachable start ((push v).last m)
  | enqueue {m : Machine} (h : Reachable start m) (r : Repetition) :
    Reachable start ((enqueue r).last m)
  | outside {m : Machine} (h : Reachable start m) (input : Input) (output : Output) (dice : Dice)
    (clock : String) (waiting : Nat) :
    Reachable start { m with input, output, dice, clock, waiting }
  | step {m : Machine} (h : Reachable start m) : Reachable start (step.last m)

theorem last_seekCommand (m : Machine) :
    seekCommand.last m = { m with
      pose := (Pose.seekWithin m.grid m.literal.isSome (Pose.patience m.grid) m.pose).1 } := by
  rw [last, seekCommand_eq]
  dsimp only
  split_ifs <;> rfl

/-- A tick leaves what the walk, the execution and the count of ticks leave. -/
theorem step_preserves {I : Machine → Prop} (hseek : ∀ m, I m → I (seekCommand.last m))
    (hexecute : ∀ m, I m → I (executeCell.last m)) (htick : ∀ m n, I m → I { m with tick := n })
    {m : Machine} (h : I m) : I (step.last m) := by
  rw [step, last_get_bind]
  split
  · exact h
  · have hwalked := hseek m h
    rw [last_bind]
    unfold last at hwalked
    cases hs : seekCommand m with
    | error fault m' =>
      rw [hs] at hwalked
      exact hwalked
    | ok a m' =>
      rw [hs] at hwalked
      have hexecuted := hexecute m' hwalked
      dsimp only
      rw [last_bind]
      unfold last at hexecuted
      cases he : executeCell m' with
      | error fault m'' =>
        rw [he] at hexecuted
        exact hexecuted
      | ok a m'' =>
        rw [he] at hexecuted
        exact htick m'' _ hexecuted

end Gridwalk
