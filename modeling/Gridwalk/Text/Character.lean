/-! # Characters and their code points

A cell or an integer stands for a character when it is a Unicode scalar value. Neighbouring
characters are joined by all characters between them; code points that are not characters are left
out, so U+D7FF and U+E000 are next to each other.
-/

namespace Gridwalk.Text
set_option autoImplicit false

def scalar? (n : Int) : Option Char :=
  if 0 ≤ n ∧ n.toNat.isValidChar then some (Char.ofNat n.toNat) else none

def code (c : Char) : Int := c.toNat

def codes (s : List Char) : List Int := s.map code

@[simp] theorem scalar?_code (c : Char) : scalar? (code c) = some c := by
  have h : c.toNat.isValidChar := c.valid
  simp [scalar?, code, h]

theorem code_of_scalar? {n : Int} {c : Char} (h : scalar? n = some c) : code c = n := by
  unfold scalar? at h
  split at h
  · rename_i hn
    cases h
    have hv : (Char.ofNat n.toNat).toNat = n.toNat := by
      rw [Char.ofNat, dif_pos hn.2]
      rfl
    simp [code, hv, Int.toNat_of_nonneg hn.1]
  · cases h

theorem scalar?_eq_some_iff {n : Int} {c : Char} : scalar? n = some c ↔ n = code c :=
  ⟨fun h => (code_of_scalar? h).symm, fun h => h ▸ scalar?_code c⟩

/-! ## Ranges of characters -/

/-- The code points behind `m` on the way to `n`, up or down, `n` included. -/
def pointsTo (m n : Nat) : List Nat :=
  if m ≤ n then List.range' (m + 1) (n - m) else (List.range' n (m - n)).reverse

def scalars (points : List Nat) : List Char := points.filterMap fun n : Nat => scalar? n

def walk (c d : Char) : List Char := scalars (pointsTo c.toNat d.toNat)

def walkThrough (c : Char) : List Char → List Char
  | [] => []
  | d :: rest => walk c d ++ walkThrough d rest

def expandRanges : List Char → List Char
  | [] => []
  | c :: rest => c :: walkThrough c rest

/-! ## Sets of code points

A set is written as the ascending list of the code points at which membership changes, starting
outside: `[a, b, c, d]` holds the code points from `a` to `b - 1` and from `c` to `d - 1`.
-/

def isInside : List Nat → Nat → Bool
  | [], _ => false
  | b :: bs, n => if n < b then false else !isInside bs n

/-! ## White space -/

def isBlank (c : Char) : Bool :=
  let n := c.toNat
  (0x9 ≤ n && n ≤ 0xD) || n == 0x20 || n == 0x85 || n == 0xA0 || n == 0x1680
    || (0x2000 ≤ n && n ≤ 0x200A) || n == 0x2028 || n == 0x2029 || n == 0x202F || n == 0x205F
    || n == 0x3000

def trim (s : List Char) : List Char := ((s.dropWhile isBlank).reverse.dropWhile isBlank).reverse

end Gridwalk.Text
