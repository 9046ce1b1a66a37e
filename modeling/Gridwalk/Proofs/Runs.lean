import Gridwalk.Machine.Run
import Gridwalk.Proofs.Reachable

/-! # Runs and their budgets

A run is taken apart into ticks, and two runs of one machine with different budgets are compared: the
longer one goes on from where the shorter one has stopped. What a single tick does to the streams
and to the count of ticks is read off the list of elementary changes.
-/

namespace Gridwalk
set_option autoImplicit false

open Act

section Step

variable {m m₁ m₂ : Machine}

theorem step_of_execute (hdone : m.done = false) (hseek : seekCommand m = .ok () m₁)
    (hexecute : executeCell m₁ = .ok () m₂) :
    step m = .ok (!m₂.done) { m₂ with tick := m₂.tick + 1 } := by
  rw [step, get_bind, hdone, if_neg Bool.false_ne_true, bind_of_ok hseek, bind_of_ok hexecute]
  rfl

theorem step_of_execute_error {fault : Fault} (hdone : m.done = false)
    (hseek : seekCommand m = .ok () m₁) (hexecute : executeCell m₁ = .error fault m₂) :
    step m = .error fault m₂ := by
  rw [step, get_bind, hdone, if_neg Bool.false_ne_true, bind_of_ok hseek, bind_of_error hexecute]

theorem step_of_seek_error {fault : Fault} (hdone : m.done = false)
    (hseek : seekCommand m = .error fault m₁) : step m = .error fault m₁ := by
  rw [step, get_bind, hdone, if_neg Bool.false_ne_true, bind_of_error hseek]

theorem last_of_ok {α : Type} {act : Act α} {a : α} {m' : Machine} (h : act m = .ok a m') :
    act.last m = m' := by
  rw [last, h]

theorem last_of_error {α : Type} {act : Act α} {fault : Fault} {m' : Machine}
    (h : act m = .error fault m') : act.last m = m' := by
  rw [last, h]

theorem Effects.tick_eq {mode : Mode} {m m' : Machine} (h : Effects mode m m') :
    m'.tick = m.tick := by
  induction h with
  | refl => rfl
  | tail _ hlast ih =>
    rw [← ih]
    cases hlast <;> rfl

theorem tick_step {b : Bool} {m' : Machine} (hdone : m.done = false) (h : step m = .ok b m') :
    m'.tick = m.tick + 1 := by
  cases hseek : seekCommand m with
  | error fault m₁ =>
    rw [step_of_seek_error hdone hseek] at h
    cases h
  | ok _ m₁ =>
    have hwalked : m₁.tick = m.tick := by
      rw [← last_of_ok hseek, last_seekCommand]
    cases hexecute : executeCell m₁ with
    | error fault m₂ =>
      rw [step_of_execute_error hdone hseek hexecute] at h
      cases h
    | ok _ m₂ =>
      rw [step_of_execute hdone hseek hexecute] at h
      cases h
      have hexecuted := (effects_executeCell m₁).tick_eq
      rw [last_of_ok hexecute, hwalked] at hexecuted
      exact congrArg (· + 1) hexecuted

end Step

section RunFor

variable {m m' : Machine} {n : Nat}

theorem runFor_of_done (h : m.done = true) (n : Nat) : runFor n m = .ok .terminated m := by
  cases n with
  | zero =>
    rw [runFor, get_bind, h]
    rfl
  | succ n =>
    rw [runFor, get_bind, h]
    rfl

theorem runFor_zero (h : m.done = false) : runFor 0 m = .ok .budgetSpent m := by
  rw [runFor, get_bind, h]
  rfl

theorem runFor_succ_of_ok {b : Bool} (h : m.done = false) (hstep : step m = .ok b m') (n : Nat) :
    runFor (n + 1) m = runFor n m' := by
  rw [runFor, get_bind, h, if_neg Bool.false_ne_true, bind_of_ok hstep]

theorem runFor_succ_of_error {fault : Fault} (h : m.done = false)
    (hstep : step m = .error fault m') (n : Nat) : runFor (n + 1) m = .error fault m' := by
  rw [runFor, get_bind, h, if_neg Bool.false_ne_true, bind_of_error hstep]

def resume (n : Nat) : Ending → Act Ending
  | .terminated => return .terminated
  | .budgetSpent => runFor n

/-- A run by its ticks: the program has stopped, the budget is used up, or there is a tick, which
fails or is followed by the rest of the run. -/
@[elab_as_elim]
theorem runFor_induction {motive : Nat → Machine → Prop}
    (stopped : ∀ n m, m.done = true → motive n m)
    (spent : ∀ m, m.done = false → motive 0 m)
    (failed : ∀ n m fault m', m.done = false → step m = .error fault m' → motive (n + 1) m)
    (goesOn : ∀ n m b m', m.done = false → step m = .ok b m' → motive n m' → motive (n + 1) m)
    (n : Nat) (m : Machine) : motive n m := by
  induction n generalizing m with
  | zero =>
    cases hdone : m.done with
    | true => exact stopped 0 m hdone
    | false => exact spent m hdone
  | succ n ih =>
    cases hdone : m.done with
    | true => exact stopped (n + 1) m hdone
    | false =>
      cases hstep : step m with
      | error fault m' => exact failed n m fault m' hdone hstep
      | ok b m' => exact goesOn n m b m' hdone hstep (ih m')

theorem bind_eq_of_eq {α β : Type} {x y : Act α} (f : α → Act β) (h : x m = y m') :
    (x >>= f) m = (y >>= f) m' := by
  simp only [bind, EStateM.bind, h]

theorem runFor_add (n k : Nat) (m : Machine) : runFor (n + k) m = (runFor n >>= resume k) m := by
  induction n, m using runFor_induction with
  | stopped n m hdone =>
    rw [runFor_of_done hdone, bind_of_ok (runFor_of_done hdone n)]
    rfl
  | spent m hdone =>
    rw [Nat.zero_add, bind_of_ok (runFor_zero hdone)]
    rfl
  | failed n m fault m' hdone hstep =>
    rw [Nat.add_right_comm, runFor_succ_of_error hdone hstep,
      bind_of_error (runFor_succ_of_error hdone hstep n)]
  | goesOn n m b m' hdone hstep ih =>
    rw [Nat.add_right_comm, runFor_succ_of_ok hdone hstep, ih,
      bind_eq_of_eq (resume k) (runFor_succ_of_ok hdone hstep n)]

theorem tick_runFor (h : runFor n m = .ok .budgetSpent m') : m'.tick = m.tick + n := by
  induction n, m using runFor_induction with
  | stopped n m hdone =>
    rw [runFor_of_done hdone] at h
    cases h
  | spent m hdone =>
    rw [runFor_zero hdone] at h
    cases h
    rfl
  | failed n m fault m₁ hdone hstep =>
    rw [runFor_succ_of_error hdone hstep] at h
    cases h
  | goesOn n m b m₁ hdone hstep ih =>
    rw [runFor_succ_of_ok hdone hstep] at h
    rw [ih h, tick_step hdone hstep]
    omega

end RunFor

namespace Machine

structure Precedes (m m' : Machine) : Prop where
  output : m.output.Extends m'.output
  input : m'.input.unread <:+ m.input.unread

theorem Precedes.refl (m : Machine) : m.Precedes m := ⟨.refl _, List.suffix_refl _⟩

theorem Precedes.trans {m m' m'' : Machine} (h : m.Precedes m') (h' : m'.Precedes m'') :
    m.Precedes m'' :=
  ⟨h.output.trans h'.output, h'.input.trans h.input⟩

end Machine

theorem Effect.precedes {mode : Mode} {m m' : Machine} (h : Effect mode m m') : m.Precedes m' := by
  cases h with
  | input i h => exact ⟨.refl _, h⟩
  | output o h => exact ⟨h, List.suffix_refl _⟩
  | stack | tape | returns | queue | literal | stop | arguments | dice | wait | write | jump | move
  | turn | face => exact ⟨.refl _, List.suffix_refl _⟩

theorem Effects.precedes {mode : Mode} {m m' : Machine} (h : Effects mode m m') :
    m.Precedes m' := by
  induction h with
  | refl => exact .refl m
  | tail _ hlast ih => exact ih.trans hlast.precedes

theorem precedes_step (m : Machine) : m.Precedes (step.last m) := by
  refine step_preserves (I := m.Precedes) (fun m' h => ?_) (fun m' h => ?_) (fun m' n h => ?_)
    (.refl m)
  · rw [last_seekCommand]
    exact ⟨h.output, h.input⟩
  · exact h.trans (effects_executeCell m').precedes
  · exact ⟨h.output, h.input⟩

theorem precedes_runFor (n : Nat) (m : Machine) : m.Precedes ((runFor n).last m) := by
  induction n, m using runFor_induction with
  | stopped n m hdone =>
    rw [last_of_ok (runFor_of_done hdone n)]
    exact .refl m
  | spent m hdone =>
    rw [last_of_ok (runFor_zero hdone)]
    exact .refl m
  | failed n m fault m' hdone hstep =>
    rw [last_of_error (runFor_succ_of_error hdone hstep n), ← last_of_error hstep]
    exact precedes_step m
  | goesOn n m b m' hdone hstep ih =>
    have hfirst := precedes_step m
    rw [last_of_ok hstep] at hfirst
    have hrest : (runFor (n + 1)).last m = (runFor n).last m' := by
      rw [last, runFor_succ_of_ok hdone hstep, last]
    rw [hrest]
    exact hfirst.trans ih

section Run

variable {m m' : Machine} {budget : Nat}

theorem run_of_ok {ending : Ending} (h : runFor (budget - m.tick) m = .ok ending m')
    (hflush : m'.output.flushFails = false) : run budget m = .ok ending m' := by
  have hwrite : writing Output.flush m' = .ok () m' := by
    rw [writing, Output.flush, hflush]
    rfl
  rw [run, get_bind, bind_of_ok h, bind_of_ok hwrite]
  rfl

theorem run_of_ok_of_unflushable {ending : Ending}
    (h : runFor (budget - m.tick) m = .ok ending m') (hflush : m'.output.flushFails = true) :
    run budget m = .error (.stream .unflushable) m' := by
  have hwrite : writing Output.flush m' = .error (.stream .unflushable) m' := by
    rw [writing, Output.flush, hflush]
    rfl
  rw [run, get_bind, bind_of_ok h, bind_of_error hwrite]

theorem run_of_error {fault : Fault} (h : runFor (budget - m.tick) m = .error fault m') :
    run budget m = .error fault m' := by
  rw [run, get_bind, bind_of_error h]

theorem run_eq_runFor (hflush : m.output.flushFails = false) (budget : Nat) :
    run budget m = runFor (budget - m.tick) m := by
  cases h : runFor (budget - m.tick) m with
  | error fault m' => exact run_of_error h
  | ok ending m' =>
    have hkept := (precedes_runFor (budget - m.tick) m).output.flushFails
    rw [last_of_ok h] at hkept
    exact run_of_ok h (hkept.trans hflush)

theorem precedes_run (hflush : m.output.flushFails = false) (budget : Nat) :
    m.Precedes ((run budget).last m) := by
  have hlast : (run budget).last m = (runFor (budget - m.tick)).last m := by
    rw [last, run_eq_runFor hflush, last]
  rw [hlast]
  exact precedes_runFor _ m

end Run

section Budgets

variable {start m : Machine} {small large : Nat}

theorem run_eq_resume (hflush : start.output.flushFails = false) (hle : small ≤ large) :
    run large start =
      (runFor (small - start.tick) >>= resume (large - max start.tick small)) start := by
  have hticks : large - start.tick = small - start.tick + (large - max start.tick small) := by
    omega
  rw [run_eq_runFor hflush, hticks, runFor_add]

theorem run_of_terminated (hflush : start.output.flushFails = false) (hle : small ≤ large)
    (h : run small start = .ok .terminated m) : run large start = .ok .terminated m := by
  rw [run_eq_runFor hflush] at h
  rw [run_eq_resume hflush hle, bind_of_ok h]
  rfl

theorem run_of_failed {fault : Fault} (hflush : start.output.flushFails = false)
    (hle : small ≤ large) (h : run small start = .error fault m) :
    run large start = .error fault m := by
  rw [run_eq_runFor hflush] at h
  rw [run_eq_resume hflush hle, bind_of_error h]

theorem run_of_budgetSpent (hflush : start.output.flushFails = false) (hle : small ≤ large)
    (h : run small start = .ok .budgetSpent m) :
    m.tick = max start.tick small ∧ run large m = run large start := by
  have hkept := (precedes_run hflush small).output.flushFails
  rw [last_of_ok h] at hkept
  rw [run_eq_runFor hflush] at h
  have htick : m.tick = max start.tick small := by
    have hspent := tick_runFor h
    omega
  refine ⟨htick, ?_⟩
  rw [run_eq_resume hflush hle, bind_of_ok h, run_eq_runFor (hkept.trans hflush), htick]
  rfl

theorem precedes_of_le (hflush : start.output.flushFails = false) (hle : small ≤ large) :
    ((run small).last start).Precedes ((run large).last start) := by
  cases h : run small start with
  | error fault m =>
    rw [last_of_error h, last_of_error (run_of_failed hflush hle h)]
    exact .refl m
  | ok ending m =>
    cases ending with
    | terminated =>
      rw [last_of_ok h, last_of_ok (run_of_terminated hflush hle h)]
      exact .refl m
    | budgetSpent =>
      have hkept := (precedes_run hflush small).output.flushFails
      rw [last_of_ok h] at hkept
      have hlast : (run large).last start = (run large).last m := by
        rw [last, ← (run_of_budgetSpent hflush hle h).2, last]
      rw [last_of_ok h, hlast]
      exact precedes_run (hkept.trans hflush) large

/-- A larger budget changes nothing about a run that has ended by itself. A run that has used up its
budget has executed exactly that many ticks, and going on from there with the larger budget is the
run with the larger budget. So the bytes written with the small budget are a prefix of those written
with the large one, and what the large one leaves unread is a suffix of what the small one does. -/
theorem run_stable_under_budget (hflush : start.output.flushFails = false) (hle : small ≤ large) :
    ((run small).last start).output.written.toList <+:
      ((run large).last start).output.written.toList ∧
    ((run large).last start).input.unread <:+ ((run small).last start).input.unread ∧
    (∀ m, run small start = .ok .terminated m → run large start = .ok .terminated m) ∧
    (∀ fault m, run small start = .error fault m → run large start = .error fault m) ∧
    ∀ m, run small start = .ok .budgetSpent m →
      m.tick = max start.tick small ∧ run large m = run large start := by
  have hprecedes := precedes_of_le hflush hle
  exact ⟨hprecedes.output.written, hprecedes.input, fun m h => run_of_terminated hflush hle h,
    fun fault m h => run_of_failed hflush hle h, fun m h => run_of_budgetSpent hflush hle h⟩

/-- The one-cell program `o` writes a byte in every tick and never stops. -/
theorem run_stable_under_budget_bytes :
    let start := Machine.load (.tabulate (.span ⟨0, 0⟩ ⟨0, 0⟩) fun _ => Text.code 'o') []
      (.ofBytes []) .empty .first ""
    ∃ m, run 2 start = .ok .budgetSpent m ∧ m.output.written.toList = [0, 0] ∧ m.tick = 2 ∧
      run 3 m = run 3 start := by
  intro start
  have hspent : run 2 start = .ok .budgetSpent ((run 2).last start) :=
    eq_ok_last_of_run' (by decide +kernel)
  have hwritten : ((run 2).last start).output.written.toList = [0, 0] := by decide +kernel
  have hflush : start.output.flushFails = false := rfl
  obtain ⟨htick, hgoes⟩ := (run_stable_under_budget hflush (Nat.le_succ 2)).2.2.2.2 _ hspent
  exact ⟨_, hspent, hwritten, htick, hgoes⟩

end Budgets

end Gridwalk
