/-! # Numbers of fixed width

Coordinates, cells and tape addresses are signed 64-bit numbers. They are kept here as integers, and
a result that leaves the range is reported together with the operation that produced it. Nothing
wraps around. Where a sum may turn out too large it is first computed in 128 bits.
-/

namespace Gridwalk
set_option autoImplicit false

inductive Overflow where
  | add
  | subtract
  | multiply
  | negate
deriving DecidableEq, Repr

def Overflow.message : Overflow → String
  | .add => "attempt to add with overflow"
  | .subtract => "attempt to subtract with overflow"
  | .multiply => "attempt to multiply with overflow"
  | .negate => "attempt to negate with overflow"

namespace Word

def least : Int := -0x8000000000000000

def greatest : Int := 0x7FFFFFFFFFFFFFFF

def Fits (n : Int) : Prop := least ≤ n ∧ n ≤ greatest

instance (n : Int) : Decidable (Fits n) := inferInstanceAs (Decidable (_ ∧ _))

/-- Whether a number lies in the middle half of the range, where no sum or difference leaves it. -/
def Central (n : Int) : Prop := -0x4000000000000000 < n ∧ n < 0x4000000000000000

instance (n : Int) : Decidable (Central n) := inferInstanceAs (Decidable (_ ∧ _))

def check (cause : Overflow) (n : Int) : Except Overflow Int :=
  if Fits n then .ok n else .error cause

theorem check_eq_ok_iff {cause : Overflow} {n m : Int} :
    check cause n = .ok m ↔ Fits n ∧ m = n := by
  unfold check
  split <;> simp_all [eq_comm]

theorem check_eq_error_iff {cause c : Overflow} {n : Int} :
    check cause n = .error c ↔ ¬ Fits n ∧ c = cause := by
  unfold check
  split <;> simp_all [eq_comm]

def add (a b : Int) : Except Overflow Int := check .add (a + b)

def sub (a b : Int) : Except Overflow Int := check .subtract (a - b)

def mul (a b : Int) : Except Overflow Int := check .multiply (a * b)

def neg (a : Int) : Except Overflow Int := check .negate (-a)

theorem add_of_fits {a b : Int} (h : Fits (a + b)) : add a b = .ok (a + b) := if_pos h

theorem sub_of_fits {a b : Int} (h : Fits (a - b)) : sub a b = .ok (a - b) := if_pos h

theorem mul_of_fits {a b : Int} (h : Fits (a * b)) : mul a b = .ok (a * b) := if_pos h

theorem bind_eq_ok_iff {α β : Type} {x : Except Overflow α} {f : α → Except Overflow β} {b : β} :
    (x >>= f) = .ok b ↔ ∃ a, x = .ok a ∧ f a = .ok b := by
  cases x with
  | error cause => simp [bind, Except.bind]
  | ok a => simp [bind, Except.bind]

end Word

namespace Wide

def least : Int := -0x80000000000000000000000000000000

def greatest : Int := 0x7FFFFFFFFFFFFFFFFFFFFFFFFFFFFFFF

def Fits (n : Int) : Prop := least ≤ n ∧ n ≤ greatest

instance (n : Int) : Decidable (Fits n) := inferInstanceAs (Decidable (_ ∧ _))

def check (cause : Overflow) (n : Int) : Except Overflow Int :=
  if Fits n then .ok n else .error cause

def add (a b : Int) : Except Overflow Int := check .add (a + b)

def sub (a b : Int) : Except Overflow Int := check .subtract (a - b)

/-- The last 64 bits. -/
def narrow (n : Int) : Int := n.bmod 0x10000000000000000

theorem add_of_fits {a b : Int} (h : Fits (a + b)) : add a b = .ok (a + b) := if_pos h

theorem sub_of_fits {a b : Int} (h : Fits (a - b)) : sub a b = .ok (a - b) := if_pos h

theorem narrow_of_fits {n : Int} (h : Word.Fits n) : narrow n = n := by
  obtain ⟨h₁, h₂⟩ := h
  unfold Word.least at h₁
  unfold Word.greatest at h₂
  exact Int.bmod_eq_of_le (by omega) (by omega)

end Wide

end Gridwalk
