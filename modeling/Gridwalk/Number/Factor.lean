/-! # Factors and divisors

Factors are found by trial division, first by 2 and then by odd numbers. The search stops at the
square root of what is left, which is then 1 or prime.
-/

namespace Gridwalk.Number
set_option autoImplicit false

/-- The prime factors of `rest` in ascending order, if none of them is below `d`. -/
def factorsFrom (d rest : Nat) (hd : 2 ≤ d) : List Nat :=
  if h : d * d ≤ rest then
    if rest % d = 0 then d :: factorsFrom d (rest / d) hd
    else factorsFrom (if d = 2 then 3 else d + 2) rest (by split <;> omega)
  else if 1 < rest then [rest]
  else []
termination_by 2 * rest - d
decreasing_by
  · have hdr : d ≤ rest := Nat.le_trans (Nat.le_mul_self d) h
    have hq : rest / d ≤ rest / 2 := Nat.div_le_div_left hd (by decide)
    omega
  · have hdr : d ≤ rest := Nat.le_trans (Nat.le_mul_self d) h
    split <;> omega

/-- The prime factors with multiplicity, after -1 for a negative number. Zero has the factor 0. -/
def primeFactors (n : Int) : List Int :=
  if n = 0 then [0]
  else (if n < 0 then [-1] else []) ++ (factorsFrom 2 n.natAbs (by decide)).map Int.ofNat

def runLengths : List Int → List (Int × Nat)
  | [] => []
  | p :: ps =>
    match runLengths ps with
    | [] => [(p, 1)]
    | (q, k) :: rest => if p = q then (q, k + 1) :: rest else (p, 1) :: (q, k) :: rest

def factorPairs (n : Int) : List (Int × Nat) := runLengths (primeFactors n)

/-- The product of the distinct prime factors, with the sign of the number. -/
def radical (n : Int) : Int :=
  n.sign * ((factorPairs n.natAbs).map Prod.fst).foldr (· * ·) 1

theorem tdiv_of_emod_eq_zero {rest b : Int} (hb : 1 < b.natAbs) (hrest : rest ≠ 0)
    (h : rest % b = 0) : rest.tdiv b ≠ 0 ∧ (rest.tdiv b).natAbs < rest.natAbs := by
  have hpos : 0 < rest.natAbs := Int.natAbs_pos.2 hrest
  obtain ⟨quotient, rfl⟩ := Int.dvd_of_emod_eq_zero h
  constructor
  · rw [Int.mul_tdiv_cancel_left quotient (by omega)]
    rintro rfl
    exact hrest (Int.mul_zero b)
  · rw [Int.natAbs_tdiv]
    exact Nat.div_lt_self hpos hb

/-- `rest * acc` after every factor `b` of `rest` was replaced by `c`. -/
def replaceFrom (b c rest acc : Int) (hb : 1 < b.natAbs) (hrest : rest ≠ 0) : Int :=
  if h : rest % b = 0 then
    replaceFrom b c (rest.tdiv b) (acc * c) hb (tdiv_of_emod_eq_zero hb hrest h).1
  else rest * acc
termination_by rest.natAbs
decreasing_by exact (tdiv_of_emod_eq_zero hb hrest h).2

/-- `a` with every factor `b` replaced by `c`. Zero, and the units as `b`, change nothing. -/
def replaceFactor (a b c : Int) : Int :=
  if h : a = 0 ∨ b.natAbs ≤ 1 then a else replaceFrom b c a 1 (by omega) (by omega)

/-- The divisors of `n` that are at least `d` and whose cofactor is so too, in ascending order. -/
def divisorsFrom (n d : Nat) (hd : 0 < d) : List Nat :=
  if h : d * d ≤ n then
    if n % d = 0 then
      if d * d = n then [d]
      else d :: (divisorsFrom n (d + 1) (by omega) ++ [n / d])
    else divisorsFrom n (d + 1) (by omega)
  else []
termination_by n + 1 - d
decreasing_by
  all_goals
    have hdn : d ≤ n := Nat.le_trans (Nat.le_mul_self d) h
    omega

def divisors (n : Int) : List Int := (divisorsFrom n.natAbs 1 (by decide)).map Int.ofNat

end Gridwalk.Number
