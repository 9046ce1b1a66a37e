/-! # Pairs of integers as integers

The integers are laid out as 0, -1, 1, -2, 2, … and pairs of natural numbers along the diagonals of
the quarter plane. Together that numbers the pairs of integers by integers.
-/

namespace Gridwalk.Number
set_option autoImplicit false

/-- The place of an integer in 0, -1, 1, -2, 2, … -/
def place : Int → Nat
  | .ofNat n => 2 * n
  | .negSucc n => 2 * n + 1

def atPlace (n : Nat) : Int := if n % 2 = 0 then .ofNat (n / 2) else .negSucc (n / 2)

/-- The number of pairs before the diagonal `w`. -/
def triangle (w : Nat) : Nat := w * (w + 1) / 2

def diagonal (m : Nat) : Nat := ((8 * m + 1).sqrt - 1) / 2

def pack (a b : Int) : Int := atPlace (triangle (place a + place b) + place b)

def unpack (n : Int) : Int × Int :=
  let m := place n
  let w := diagonal m
  let q := m - triangle w
  (atPlace (w - q), atPlace q)

theorem atPlace_place (z : Int) : atPlace (place z) = z := by
  cases z with
  | ofNat n => simp [place, atPlace]
  | negSucc n =>
    have h : (2 * n + 1) % 2 = 1 := by omega
    have h' : (2 * n + 1) / 2 = n := by omega
    simp [place, atPlace, h, h']

theorem place_atPlace (n : Nat) : place (atPlace n) = n := by
  unfold atPlace
  split <;> simp only [place] <;> omega

end Gridwalk.Number
