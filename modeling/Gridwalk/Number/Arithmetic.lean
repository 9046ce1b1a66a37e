/-! # Division, powers, factorials and binomial coefficients

The quotient is rounded toward negative infinity and the remainder has the sign of the divisor. A
zero divisor has neither. A negative exponent gives the reciprocal rounded down, which is 0 or -1
unless the base is 1 or -1.
-/

namespace Gridwalk.Number
set_option autoImplicit false

def quotient? (a b : Int) : Option Int := if b = 0 then none else some (a.fdiv b)

def remainder? (a b : Int) : Option Int := if b = 0 then none else some (a.fmod b)

def gcd (a b : Int) : Int := Int.gcd a b

def lcm (a b : Int) : Int := Int.lcm a b

/-- `b` if it divides `a`, otherwise 0. Zero divides nothing here. -/
def divisorOrZero (a b : Int) : Int := if b ≠ 0 ∧ a % b = 0 then b else 0

/-! ## Powers -/

inductive PowerFault where
  | divisionByZero
  | tooLarge
deriving DecidableEq, Repr

def minusOnePower (b : Int) : Int := if b % 2 = 0 then 1 else -1

/-- `a` to the power `b`, rounded down. An exponent of 2^32 or more needs a base of -1, 0 or 1. -/
def power (a b : Int) : Except PowerFault Int :=
  if b < 0 then
    if a = 0 then .error .divisionByZero
    else if a = 1 then .ok 1
    else if a = -1 then .ok (minusOnePower b)
    else if a < 0 ∧ b % 2 ≠ 0 then .ok (-1)
    else .ok 0
  else if b < 0x100000000 then .ok (Int.pow a b.toNat)
  else if a = 0 ∨ a = 1 then .ok a
  else if a = -1 then .ok (minusOnePower b)
  else .error .tooLarge

/-! ## Factorials and binomial coefficients -/

def natFactorial (n : Nat) : Nat := n.fold (fun i _ product => product * (i + 1)) 1

/-- The product of all integers from 1 to `n`, or from `n` to -1 if `n` is negative. -/
def factorial (n : Int) : Int :=
  if n < 0 ∧ n % 2 ≠ 0 then -(natFactorial n.natAbs : Int) else natFactorial n.natAbs

/-- The product of `(n - i) / (i + 1)` for `i < k`, divided step by step and toward zero. Every
division is exact. -/
def risingQuotient (n : Int) (k : Nat) : Int :=
  k.fold (fun i _ product => (product * (n - i)).tdiv (i + 1)) 1

/-- The coefficient of `x ^ k` in `(1 + x) ^ n`; it is 0 for negative `k`. -/
def binomial (n k : Int) : Int :=
  if k < 0 then 0
  else if n < 0 then risingQuotient n k.toNat
  else if n < k then 0
  else risingQuotient n (min k (n - k)).toNat

@[simp] theorem natFactorial_zero : natFactorial 0 = 1 := rfl

theorem natFactorial_succ (n : Nat) : natFactorial (n + 1) = natFactorial n * (n + 1) := by
  simp [natFactorial, Nat.fold_succ]

@[simp] theorem risingQuotient_zero (n : Int) : risingQuotient n 0 = 1 := rfl

theorem risingQuotient_succ (n : Int) (k : Nat) :
    risingQuotient n (k + 1) = (risingQuotient n k * (n - k)).tdiv (k + 1) := by
  simp [risingQuotient, Nat.fold_succ]

end Gridwalk.Number
