import Gridwalk.Number.Arithmetic
import Gridwalk.Number.Bits
import Gridwalk.Number.Factor
import Gridwalk.Number.Pairing

/-! # Commands that compute with integers

Each command takes its operands from the stack and puts its results back, and looks at nothing
else. They are grouped by the number of operands, and by whether they can fail.
-/

namespace Gridwalk.Arithmetic
set_option autoImplicit false

open Number

inductive Unary where
  | increment
  | decrement
  | magnitude
  | negate
  | complement
  | highestBit
  | fillBits
  | factorial
  | radical
  | isZero
deriving DecidableEq, Repr

def Unary.apply : Unary → Int → Int
  | increment, n => n + 1
  | decrement, n => n - 1
  | magnitude, n => n.natAbs
  | negate, n => -n
  | complement, n => Number.complement n
  | highestBit, n => Number.highestBit n
  | fillBits, n => Number.fillBits n
  | factorial, n => Number.factorial n
  | radical, n => Number.radical n
  | isZero, n => if n = 0 then 1 else 0

inductive Binary where
  | add
  | subtract
  | multiply
  | bitAnd
  | bitOr
  | bitXor
  | binomial
  | gcd
  | lcm
  | divisorOrZero
  | pack
deriving DecidableEq, Repr

def Binary.apply : Binary → Int → Int → Int
  | add, a, b => a + b
  | subtract, a, b => a - b
  | multiply, a, b => a * b
  | bitAnd, a, b => Number.bitAnd a b
  | bitOr, a, b => Number.bitOr a b
  | bitXor, a, b => Number.bitXor a b
  | binomial, a, b => Number.binomial a b
  | gcd, a, b => Number.gcd a b
  | lcm, a, b => Number.lcm a b
  | divisorOrZero, a, b => Number.divisorOrZero a b
  | pack, a, b => Number.pack a b

/-- Two operands and results that need not exist. -/
inductive Division where
  | quotient
  | remainder
  | both
  | multiple
  | power
deriving DecidableEq, Repr

/-- The results in the order in which they are pushed. `multiple` is the divisor times the
quotient. -/
def Division.apply (f : Division) (a b : Int) : Except PowerFault (List Int) :=
  match f with
  | quotient => results do return [← quotient? a b]
  | remainder => results do return [← remainder? a b]
  | both => results do return [← quotient? a b, ← remainder? a b]
  | multiple => results do return [a - (← remainder? a b)]
  | power => (Number.power a b).map ([·])
where
  results : Option (List Int) → Except PowerFault (List Int)
    | some values => .ok values
    | none => .error .divisionByZero

inductive Listing where
  | primeFactors
  | factorPairs
  | divisors
  | unpack
deriving DecidableEq, Repr

def Listing.apply : Listing → Int → List Int
  | primeFactors, n => Number.primeFactors n
  | factorPairs, n => (Number.factorPairs n).flatMap fun (p, e) => [p, (e : Int)]
  | divisors, n => Number.divisors n
  | unpack, n => [(Number.unpack n).1, (Number.unpack n).2]

end Gridwalk.Arithmetic
