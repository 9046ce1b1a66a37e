/-! # Bits of integers

Integers are read in two's complement with infinitely many sign bits, so that a negative number is
the complement of a natural number. Every operation is reduced to natural numbers that way.
-/

namespace Gridwalk.Number
set_option autoImplicit false

def complement : Int → Int
  | .ofNat n => .negSucc n
  | .negSucc n => .ofNat n

def bitsWithout (m n : Nat) : Nat := m ^^^ (m &&& n)

def bitAnd : Int → Int → Int
  | .ofNat m, .ofNat n => .ofNat (m &&& n)
  | .ofNat m, .negSucc n => .ofNat (bitsWithout m n)
  | .negSucc m, .ofNat n => .ofNat (bitsWithout n m)
  | .negSucc m, .negSucc n => .negSucc (m ||| n)

def bitOr (a b : Int) : Int := complement (bitAnd (complement a) (complement b))

def bitXor : Int → Int → Int
  | .ofNat m, .ofNat n => .ofNat (m ^^^ n)
  | .ofNat m, .negSucc n => .negSucc (m ^^^ n)
  | .negSucc m, .ofNat n => .negSucc (m ^^^ n)
  | .negSucc m, .negSucc n => .ofNat (m ^^^ n)

def topBit (n : Nat) : Nat := if n = 0 then 0 else 1 <<< n.log2

def filled (n : Nat) : Nat := if n = 0 then 0 else (1 <<< (n.log2 + 1)) - 1

/-- Only the most significant set bit; for a negative number only the most significant clear bit. -/
def highestBit : Int → Int
  | .ofNat n => .ofNat (topBit n)
  | .negSucc n => .negSucc (topBit n)

/-- Every bit below the most significant one is set; for a negative number cleared. -/
def fillBits : Int → Int
  | .ofNat n => .ofNat (filled n)
  | .negSucc n => .negSucc (filled n)

@[simp] theorem complement_complement (a : Int) : complement (complement a) = a := by
  cases a <;> rfl

theorem complement_eq (a : Int) : complement a = -a - 1 := by
  cases a with
  | ofNat n => simp only [complement, Int.negSucc_eq, Int.ofNat_eq_natCast]; omega
  | negSucc n => simp only [complement, Int.negSucc_eq, Int.ofNat_eq_natCast]; omega

end Gridwalk.Number
