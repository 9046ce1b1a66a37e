import Gridwalk.Proofs.Landing

/-! # What a failed tick leaves

A tick that fails, other than through a stream, leaves the machine as it was but for the walk, the
repetition at the front of the queue and the operands of the command. Only a text that is written
behind a label can be left half done. The queue must not ask for more than one execution, since
those before the failed one have their effects.
-/

namespace Gridwalk
set_option autoImplicit false

open Act

/-- Whether everything but the walk, the stack, the queue and the grid is the same. -/
structure Machine.Intact (m m' : Machine) : Prop where
  tape : m'.tape = m.tape
  returns : m'.returns = m.returns
  literal : m'.literal = m.literal
  tick : m'.tick = m.tick
  done : m'.done = m.done
  arguments : m'.arguments = m.arguments
  input : m'.input = m.input
  output : m'.output = m.output
  dice : m'.dice = m.dice
  clock : m'.clock = m.clock
  waiting : m'.waiting = m.waiting

theorem Machine.intact (m : Machine) (grid : Grid) (pose : Pose) (stack : Stack)
    (queue : List Repetition) : m.Intact { m with grid, pose, stack, queue } :=
  ⟨rfl, rfl, rfl, rfl, rfl, rfl, rfl, rfl, rfl, rfl, rfl⟩

/-- Whether the next tick walks to a machine in which the cell under the pointer is a command. -/
structure Machine.Reaches (m : Machine) (op : Command) (w : Machine) : Prop where
  seek : seekCommand m = .ok () w
  literal : w.literal = none
  command : Command.ofCell? w.cell w.mode = some op

theorem Machine.Reaches.unique {m w w' : Machine} {op op' : Command} (h : m.Reaches op w)
    (h' : m.Reaches op' w') : w = w' ∧ op = op' := by
  obtain ⟨hseek, -, hop⟩ := h
  obtain ⟨hseek', -, hop'⟩ := h'
  cases hseek.symm.trans hseek'
  exact ⟨rfl, Option.some.inj (hop.symm.trans hop')⟩

theorem step_eq_error_of_once {m m' : Machine} {fault : Fault}
    (honce : m.queue = [] ∨ m.queue.head? = some (.times 1)) (h : step m = .error fault m') :
    (∃ pose, seekCommand m = .error fault m' ∧ m' = { m with pose }) ∨
      ∃ op pose, m.Reaches op { m with pose } ∧
        op.perform { m with pose, queue := m.queue.drop 1 } = .error fault m' := by
  obtain ⟨hdone, hseek | ⟨w, hseek, hexecute⟩⟩ := step_eq_error h
  · exact .inl ⟨m'.pose, hseek, (seekCommand_eq_error hseek).1⟩
  · obtain ⟨hw, hexecutable, -⟩ := seekCommand_eq_ok hseek
    obtain ⟨hliteral, op, hop, hperform⟩ := executeCell_eq_error hexecutable hexecute
    obtain ⟨pose, rfl⟩ : ∃ pose, w = { m with pose } := ⟨w.pose, hw⟩
    have honce' : m.queue.headD (.times 1) = .times 1 := by
      rcases honce with hempty | hfirst
      · rw [hempty]
        rfl
      · rw [List.headD_eq_head?_getD, hfirst]
        rfl
    have hrepeated := repeated_of_once (m := { m with pose }) op.perform honce' hdone
    exact .inr ⟨op, pose, ⟨hseek, hliteral, hop⟩, hrepeated.symm.trans hperform⟩

/-- If a tick that executes its command once fails, other than through a stream, then nothing is
lost but the front of the queue and the operands. The grid is the same, too, unless a text was
written behind a label; then a proper prefix of the text is there. -/
theorem failed_tick_takes_operands_only {m m' : Machine} {fault : Fault}
    (honce : m.queue = [] ∨ m.queue.head? = some (.times 1))
    (hfails : step m = .error fault m') (hstream : ∀ cause, fault ≠ .stream cause) :
    m.Intact m' ∧ m.stack.Leaves m'.stack ∧
    (m'.queue = m.queue ∨ m'.queue = m.queue.drop 1) ∧
    ((∀ w, ¬ m.Reaches (.ordinal .writeAfterLabel) w) → m'.grid = m.grid) ∧
    ∀ w, m.Reaches (.ordinal .writeAfterLabel) w →
      ∃ (text name : Value) (p : Vec) (k : Nat),
        m.stack = text :: name :: m'.stack ∧
        Label.end? m.grid (Text.codes name.chars) w.heading = some p ∧ k < text.chars.length ∧
        m.grid.effective (cellsBehind w.heading.vec p (text.chars.take k)) =
          cellsBehind w.heading.vec p (text.chars.take k) ∧
        m'.grid = m.grid.setAll (cellsBehind w.heading.vec p (text.chars.take k)) := by
  rcases step_eq_error_of_once honce hfails with ⟨pose, hseek, rfl⟩ | ⟨op, pose, hreaches, hperform⟩
  · refine ⟨m.intact _ _ _ _, .refl, .inl rfl, fun _ => rfl, fun w hw => ?_⟩
    cases hseek.symm.trans hw.seek
  · by_cases hop : op = .ordinal .writeAfterLabel
    · subst hop
      obtain ⟨text, name, below, p, k, hstack, hend, hk, -, heffective, rfl⟩ :=
        perform_writeAfterLabel_eq_error hperform
      refine ⟨m.intact _ _ _ _, ?_, .inr rfl, fun hnone => absurd hreaches (hnone _),
        fun w hw => ?_⟩
      · have htop : m.stack = text :: name :: below := hstack
        rw [htop]
        exact .head (.text (text :: name :: below)) (.single (.text (name :: below)))
      · obtain ⟨rfl, -⟩ := hreaches.unique hw
        exact ⟨text, name, p, k, hstack, hend, hk, heffective, rfl⟩
    · cases op.cleanly_perform hop _ fault m' hperform with
      | stream cause => exact absurd rfl (hstream cause)
      | operands _ hs =>
        refine ⟨m.intact _ _ _ _, hs, .inr rfl, fun _ => rfl, fun w hw => ?_⟩
        exact absurd (hreaches.unique hw).2 hop

/-- Next to the lowest coordinate there is room for the first character of a text, but not for the
second one. -/
theorem failed_tick_takes_operands_only_at_the_border :
    let place : Vec := ⟨-0x7FFFFFFFFFFFFFFE, 0⟩
    let m : Machine := { Machine.load (.tabulate (.span place place) fun _ => Text.code 'p') []
      (.ofBytes []) .empty .first "" with
      pose := ⟨place, .northWest, .ordinal⟩
      stack := [.text "xy", .text "p", .integer 3]
      queue := [.times 1, .times 5] }
    ∃ m' : Machine, step m = .error (.positionOutOfRange ⟨-0x8000000000000000, -2⟩ place) m' ∧
      m.Intact m' ∧ m'.stack = [.integer 3] ∧ ∃ k < 2, m'.grid =
        m.grid.setAll ([(⟨-0x7FFFFFFFFFFFFFFF, -1⟩, Text.code 'x'),
          (⟨-0x8000000000000000, -2⟩, Text.code 'y')].take k) := by
  intro place m
  have hfails :
      step m = .error (.positionOutOfRange ⟨-0x8000000000000000, -2⟩ place) (step.last m) :=
    eq_error_last_of_fault? (by decide +kernel)
  have hseek : seekCommand m = .ok () (seekCommand.last m) :=
    eq_ok_last_of_run' (by decide +kernel)
  have hreaches : m.Reaches (.ordinal .writeAfterLabel) (seekCommand.last m) :=
    ⟨hseek, by decide +kernel, by decide +kernel⟩
  obtain ⟨hintact, -, -, -, hcut⟩ :=
    failed_tick_takes_operands_only (.inr rfl) hfails fun cause h => by cases h
  obtain ⟨text, name, p, k, hstack, hend, hk, -, hgrid⟩ := hcut _ hreaches
  have hheading : (seekCommand.last m).heading = .northWest := by decide +kernel
  have hoccurs : Label.end? m.grid (Text.codes (Value.text "p").chars) .northWest = some place := by
    decide +kernel
  have htext : (Value.text "xy").chars = ['x', 'y'] := by decide +kernel
  injection hstack with htop hrest
  injection hrest with hname hbelow
  subst htop hname
  rw [hheading] at hend hgrid
  cases hoccurs.symm.trans hend
  rw [htext] at hk hgrid
  refine ⟨_, hfails, hintact, hbelow.symm, k, hk, hgrid.trans (congrArg m.grid.setAll ?_)⟩
  obtain rfl | rfl : k = 0 ∨ k = 1 := Nat.le_one_iff_eq_zero_or_eq_one.mp (Nat.le_of_lt_succ hk)
  · rfl
  · decide +kernel

end Gridwalk
