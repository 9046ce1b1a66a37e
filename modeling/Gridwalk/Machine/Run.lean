import Gridwalk.Machine.Step

/-! # Runs

A run goes on until the program stops or a budget of ticks is used up. Every tick counts, also those
of earlier runs of the same machine.
-/

namespace Gridwalk
set_option autoImplicit false

open Act

inductive Ending where
  | terminated
  | budgetSpent
deriving DecidableEq, Repr

/-- Ticks are counted in 64 bits, so this budget is never used up. -/
def unlimited : Nat := 0x10000000000000000

def runFor : Nat → Act Ending
  | 0 => do return if (← get).done then .terminated else .budgetSpent
  | n + 1 => do
    if (← get).done then return .terminated
    let _ ← step
    runFor n

/-- Run until the program has stopped or the tick counter has reached the budget, then flush the
output. -/
def run (budget : Nat) : Act Ending := do
  let ending ← runFor (budget - (← get).tick)
  writing Output.flush
  return ending

def ticksFor : Nat → Machine → List Machine
  | 0, _ => []
  | n + 1, m =>
    if m.done then []
    else
      match step m with
      | .ok _ m' => m' :: ticksFor n m'
      | .error _ _ => []

def ticks (budget : Nat) (m : Machine) : List Machine := ticksFor (budget - m.tick) m

end Gridwalk
