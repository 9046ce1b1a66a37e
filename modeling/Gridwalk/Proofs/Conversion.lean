import Gridwalk.Machine.Shared
import Gridwalk.Proofs.IntegerView

/-! # What conversion does to the stack

Conversion takes values in the form of the mode and puts them back in their order. A text taken as
an integer becomes all the integers that it stands for, even if fewer were asked for. The values
below those reached stay as they are. A count that does not fit 64 bits is not considered here.
-/

namespace Gridwalk
set_option autoImplicit false

namespace Stack

theorem convert_zero (mode : Mode) (s : Stack) : s.convert mode 0 = s := rfl

theorem convertOnto_succ (mode : Mode) (n : Nat) (taken : List Value) (s : Stack) :
    convertOnto mode (n + 1) taken s =
      convertOnto mode n ((s.popValue mode).1 :: taken) (s.popValue mode).2 := rfl

theorem convertOnto_eq (mode : Mode) (n : Nat) (taken : List Value) (s : Stack) :
    convertOnto mode n taken s = taken.reverse ++ s.convert mode n := by
  induction n generalizing taken s with
  | zero => rfl
  | succ n ih =>
    have hone : s.convert mode (n + 1) =
        [(s.popValue mode).1].reverse ++ (s.popValue mode).2.convert mode n := ih [_] _
    rw [convertOnto_succ, ih, hone, List.reverse_cons, List.append_assoc, List.reverse_singleton]

theorem convert_succ (mode : Mode) (n : Nat) (s : Stack) :
    s.convert mode (n + 1) = (s.popValue mode).1 :: (s.popValue mode).2.convert mode n := by
  rw [convert, convertOnto_succ, convertOnto_eq, List.reverse_singleton, List.singleton_append]

theorem convert_ordinal (n : Nat) (s : Stack) :
    s.convert .ordinal n = (s.take n).map (fun v => .ofChars v.chars) ++ s.drop n ++
      List.replicate (n - s.length) (.text "") := by
  induction n generalizing s with
  | zero => simp [convert_zero]
  | succ n ih =>
    rw [convert_succ, ih]
    cases s with
    | nil => simp [popValue, popText, Value.ofChars, List.replicate_succ]
    | cons v rest => simp [popValue, popText]

/-! ## Conversion to integers, from the top slot down -/

theorem convert_integers (n : Nat) (ns : List Int) (s : Stack) :
    convert .cardinal n (ns.map .integer ++ s) =
      ns.map .integer ++ s.convert .cardinal (n - ns.length) := by
  induction ns generalizing n with
  | nil => rfl
  | cons k ns ih =>
    cases n with
    | zero => rw [convert_zero, Nat.zero_sub, convert_zero]
    | succ n =>
      rw [convert_succ, List.length_cons, Nat.add_sub_add_right, List.map_cons, List.cons_append,
        List.cons_append, ← ih]
      rfl

theorem convert_nil (n : Nat) : convert .cardinal n [] = (List.replicate n 0).map .integer := by
  induction n with
  | zero => rfl
  | succ n ih =>
    rw [convert_succ, List.replicate_succ, List.map_cons, ← ih]
    rfl

theorem convert_cons (n : Nat) (v : Value) (rest : Stack) :
    convert .cardinal (n + 1) (v :: rest) = v.integers.reverse.map .integer ++
      rest.convert .cardinal (n + 1 - v.integers.length) := by
  obtain ⟨earlier, k, hintegers, hpop⟩ := exists_popInt_cons v rest
  have hvalue : popValue .cardinal (v :: rest) =
      (.integer k, earlier.reverse.map .integer ++ rest) := by
    rw [popValue, hpop]
  rw [convert_succ, hvalue, convert_integers, hintegers]
  simp

theorem integers_convert (n : Nat) (s : Stack) :
    (s.convert .cardinal n).integers = List.replicate (n - s.integers.length) 0 ++ s.integers := by
  induction s generalizing n with
  | nil =>
    have hzeros := integers_map_append (List.replicate n 0) []
    rw [List.append_nil] at hzeros
    rw [convert_nil, hzeros, List.reverse_replicate, integers_nil]
    simp
  | cons v rest ih =>
    cases n with
    | zero => rw [convert_zero, Nat.zero_sub, List.replicate_zero, List.nil_append]
    | succ n =>
      have hmissing : n + 1 - v.integers.length - (integers rest).length =
          n + 1 - (integers (v :: rest)).length := by
        rw [integers_cons, List.length_append]
        omega
      rw [convert_cons, integers_map_append, List.reverse_reverse, ih, hmissing, integers_cons,
        List.append_assoc]

/-- The slots that are reached become integers, at least as many as were asked for. A slot is
reached only if those above it stand for fewer. -/
theorem exists_convert_eq (n : Nat) (s : Stack) :
    ∃ reached ≤ s.length, ∃ upper : List Int,
      s.convert .cardinal n = upper.map .integer ++ s.drop reached ∧ n ≤ upper.length ∧
      ∀ j < reached, (Stack.integers (s.take j)).length < n := by
  induction s generalizing n with
  | nil =>
    refine ⟨0, Nat.le_refl 0, List.replicate n 0, ?_, by simp, fun j hj => absurd hj (by simp)⟩
    rw [convert_nil, List.drop_zero, List.append_nil]
  | cons v rest ih =>
    cases n with
    | zero => exact ⟨0, Nat.zero_le _, [], rfl, Nat.le_refl 0, fun j hj => absurd hj (by simp)⟩
    | succ n =>
      -- What is below the top slot is asked only for what that slot does not stand for.
      obtain ⟨reached, hle, upper, heq, hupper, habove⟩ := ih (n + 1 - v.integers.length)
      refine ⟨reached + 1, Nat.succ_le_succ hle, v.integers.reverse ++ upper, ?_, ?_, ?_⟩
      · rw [convert_cons, heq, List.map_append, List.append_assoc, List.drop_succ_cons]
      · rw [List.length_append, List.length_reverse]
        omega
      · intro j hj
        cases j with
        | zero => exact Nat.succ_pos n
        | succ j =>
          have hrest := habove j (by omega)
          rw [List.take_succ_cons, integers_cons, List.length_append]
          omega

end Stack

theorem perform_convert {m : Machine} {n : Nat} {s : Stack} (hpop : m.stack.popInt = ((n : Int), s))
    (hn : n < 0x10000000000000000) :
    Shared.convert.perform m = .ok () { m with stack := s.convert m.mode n } := by
  have hcount : Act.popInt m = .ok (n : Int) { m with stack := s } := by
    change EStateM.Result.ok m.stack.popInt.1 { m with stack := m.stack.popInt.2 } = _
    rw [hpop]
  rw [Shared.perform, Act.bind_of_ok hcount, Act.get_bind, Act.clampCount_natCast hn]
  rfl

/-- Conversion of `n` values changes the stack only. In ordinal mode the top `n` slots become texts,
and empty texts are put below all if there are fewer. In cardinal mode the integers that the stack
stands for stay the same, with zeros put below all if there are fewer than `n`; the top `n` slots
become integers, and the slots below those that had to be reached stay as they are. -/
theorem convert_retypes_top {m : Machine} {n : Nat} {s : Stack}
    (hpop : m.stack.popInt = ((n : Int), s)) (hn : n < 0x10000000000000000) :
    ∃ s' : Stack, Shared.convert.perform m = .ok () { m with stack := s' } ∧
      (m.mode = .ordinal →
        s' = (s.take n).map (fun v => .ofChars v.chars) ++ s.drop n ++
          List.replicate (n - s.length) (.text "")) ∧
      (m.mode = .cardinal →
        s'.integers = List.replicate (n - s.integers.length) 0 ++ s.integers ∧
        ∃ reached ≤ s.length, ∃ upper : List Int,
          s' = upper.map .integer ++ s.drop reached ∧ n ≤ upper.length ∧
          ∀ j < reached, (Stack.integers (s.take j)).length < n) := by
  refine ⟨_, perform_convert hpop hn, fun hmode => ?_, fun hmode => ?_⟩
  · rw [hmode]
    exact s.convert_ordinal n
  · rw [hmode]
    exact ⟨s.integers_convert n, s.exists_convert_eq n⟩

/-- The count is itself the last number in a text, and one integer is missing. In ordinal mode two
texts are. -/
theorem convert_retypes_top_below_the_bottom :
    let s : Stack := [.integer 7, .text "x5-6y", .text "ab"]
    let m := { Machine.load (.ofSource "@") [] (.ofBytes []) .empty .first "" with
      stack := [.text "7 5", .text "x5-6y", .text "ab"] }
    let diagonal := { m with pose := ⟨⟨0, 0⟩, .southEast, .ordinal⟩ }
    m.stack.popInt = (5, s) ∧
    (∃ s' : Stack, Shared.convert.perform m = .ok () { m with stack := s' } ∧
      s'.integers = [0, 0, 5, -6, 7] ∧
      ∃ reached ≤ s.length, ∃ upper : List Int,
        s' = upper.map .integer ++ s.drop reached ∧ 5 ≤ upper.length) ∧
    Shared.convert.perform diagonal = .ok () { diagonal with
      stack := [.text "7", .text "x5-6y", .text "ab", .text "", .text ""] } := by
  intro s m diagonal
  have hpop : m.stack.popInt = (((5 : Nat) : Int), s) := by decide +kernel
  have hintegers : s.integers = [0, 5, -6, 7] := by decide +kernel
  have htexts : (s.take 5).map (fun v => Value.ofChars v.chars) ++ s.drop 5 ++
      List.replicate (5 - s.length) (.text "") =
        [.text "7", .text "x5-6y", .text "ab", .text "", .text ""] := by decide +kernel
  obtain ⟨s', hperform, -, hcardinal⟩ := convert_retypes_top hpop (by decide)
  obtain ⟨hview, reached, hle, upper, hs', hupper, -⟩ := hcardinal rfl
  rw [hintegers] at hview
  obtain ⟨t, hperform', hordinal, -⟩ := convert_retypes_top (m := diagonal) hpop (by decide)
  rw [hordinal rfl, htexts] at hperform'
  exact ⟨hpop, ⟨s', hperform, hview, reached, hle, upper, hs', hupper⟩, hperform'⟩

end Gridwalk
