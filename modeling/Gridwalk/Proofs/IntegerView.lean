import Gridwalk.Machine.State
import Mathlib.Data.List.DropRight

/-! # The stack as seen by integer pops

A text on the stack stands for the decimal numbers in it. It is expanded only when an integer is
taken, and then the stack may become longer. Taking integers one after the other is nevertheless the
same as taking them from the stack in which all texts are expanded beforehand.
-/

namespace Gridwalk
set_option autoImplicit false

def Value.integers : Value → List Int
  | integer n => [n]
  | text s => if Text.decimalRuns s.toList = [] then [0] else Text.decimalRuns s.toList

namespace Stack

/-- The integers that a stack stands for, the bottom one first. -/
def integers (s : Stack) : List Int := s.reverse.flatMap Value.integers

@[simp] theorem integers_nil : integers [] = [] := rfl

@[simp] theorem integers_cons (v : Value) (s : Stack) :
    integers (v :: s) = integers s ++ v.integers := by
  simp [integers]

theorem integers_map_append (ns : List Int) (s : Stack) :
    integers (ns.map .integer ++ s) = integers s ++ ns.reverse := by
  induction ns with
  | nil => simp
  | cons n ns ih =>
    rw [List.map_cons, List.cons_append, integers_cons, ih]
    simp [Value.integers]

theorem exists_popInt_cons (v : Value) (rest : Stack) :
    ∃ (earlier : List Int) (n : Int), v.integers = earlier ++ [n] ∧
      popInt (v :: rest) = (n, earlier.reverse.map .integer ++ rest) := by
  cases v with
  | integer n => exact ⟨[], n, rfl, rfl⟩
  | text t =>
    rw [popInt]
    cases hruns : (Text.decimalRuns t.toList).reverse with
    | nil =>
      have hnone : Text.decimalRuns t.toList = [] := List.reverse_eq_nil_iff.mp hruns
      exact ⟨[], 0, by rw [Value.integers, if_pos hnone]; rfl, rfl⟩
    | cons n earlier =>
      have hsome : Text.decimalRuns t.toList = earlier.reverse ++ [n] := by
        rw [← List.reverse_reverse (Text.decimalRuns t.toList), hruns, List.reverse_cons]
      refine ⟨earlier.reverse, n, ?_, by rw [List.reverse_reverse]⟩
      rw [Value.integers, if_neg (by simp [hsome]), hsome]

theorem integers_popInt {s : Stack} (h : s ≠ []) :
    integers s = integers s.popInt.2 ++ [s.popInt.1] := by
  cases s with
  | nil => exact absurd rfl h
  | cons v rest =>
    obtain ⟨earlier, n, hintegers, hpop⟩ := exists_popInt_cons v rest
    rw [hpop, integers_cons, hintegers, integers_map_append, List.reverse_reverse,
      List.append_assoc]

end Stack

namespace Act

def popInts : Nat → Act (List Int)
  | 0 => return []
  | k + 1 => do
    let n ← popInt
    let later ← popInts k
    return n :: later

theorem popInts_succ {k : Nat} {m m' : Machine} {later : List Int}
    (h : popInts k { m with stack := m.stack.popInt.2 } = .ok later m') :
    popInts (k + 1) m = .ok (m.stack.popInt.1 :: later) m' := by
  have hfirst : popInt m = .ok m.stack.popInt.1 { m with stack := m.stack.popInt.2 } := rfl
  rw [popInts, bind_of_ok hfirst, bind_of_ok h]
  rfl

/-- Taking `k` integers gives the last `k` integers of the expanded stack from the last one on, and
0 for each one that is missing. What is left stands for the integers before them. -/
theorem popInts_takes_last (k : Nat) (m : Machine) :
    ∃ rest : Stack,
      popInts k m = .ok
        ((m.stack.integers.rtake k).reverse ++ List.replicate (k - m.stack.integers.length) 0)
        { m with stack := rest } ∧
      rest.integers = m.stack.integers.rdrop k := by
  induction k generalizing m with
  | zero =>
    refine ⟨m.stack, ?_, by rw [List.rdrop_zero]⟩
    rw [List.rtake_zero, Nat.zero_sub]
    rfl
  | succ k ih =>
    obtain ⟨rest, hlater, hrest⟩ := ih { m with stack := m.stack.popInt.2 }
    refine ⟨rest, (popInts_succ hlater).trans ?_, hrest.trans ?_⟩
    · by_cases hempty : m.stack = []
      · simp [hempty, Stack.popInt, List.replicate_succ]
      · rw [Stack.integers_popInt hempty, List.rtake_concat_succ]
        simp
    · by_cases hempty : m.stack = []
      · simp [hempty, Stack.popInt]
      · rw [Stack.integers_popInt hempty, List.rdrop_concat_succ]

end Act

end Gridwalk
