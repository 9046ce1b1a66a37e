import Gridwalk.Vec

/-! # Boxes

A box is a rectangle of positions given by its corners, both included. It is never empty.
-/

namespace Gridwalk
set_option autoImplicit false

@[ext] structure Box where
  low : Vec
  high : Vec
  x_le : low.x ≤ high.x
  y_le : low.y ≤ high.y
deriving DecidableEq, Repr

namespace Box

def columns (b : Box) : Nat := (b.high.x - b.low.x).toNat + 1

def rows (b : Box) : Nat := (b.high.y - b.low.y).toNat + 1

def Contains (b : Box) (p : Vec) : Prop :=
  b.low.x ≤ p.x ∧ p.x ≤ b.high.x ∧ b.low.y ≤ p.y ∧ p.y ≤ b.high.y

instance (b : Box) (p : Vec) : Decidable (b.Contains p) := inferInstanceAs (Decidable (_ ∧ _))

def OnEdge (b : Box) (p : Vec) : Prop :=
  b.Contains p ∧ (p.x = b.low.x ∨ p.y = b.low.y ∨ p.x = b.high.x ∨ p.y = b.high.y)

instance (b : Box) (p : Vec) : Decidable (b.OnEdge p) := inferInstanceAs (Decidable (_ ∧ _))

def span (p q : Vec) : Box where
  low := ⟨min p.x q.x, min p.y q.y⟩
  high := ⟨max p.x q.x, max p.y q.y⟩
  x_le := by dsimp only; omega
  y_le := by dsimp only; omega

/-- The least box that contains another box and a position. -/
def hull (b : Box) (p : Vec) : Box where
  low := ⟨min b.low.x p.x, min b.low.y p.y⟩
  high := ⟨max b.high.x p.x, max b.high.y p.y⟩
  x_le := by have := b.x_le; dsimp only; omega
  y_le := by have := b.y_le; dsimp only; omega

/-- The position in column `i` and row `j`, counted from the low corner. -/
def position (b : Box) (i j : Nat) : Vec := ⟨b.low.x + i, b.low.y + j⟩

/-- Whether the extents, and the distance of the low corner from the origin, fit 64 bits. -/
def Addressable (b : Box) : Prop :=
  Word.Fits (-b.low.x) ∧ Word.Fits b.columns ∧ Word.Fits (-b.low.y) ∧ Word.Fits b.rows

instance (b : Box) : Decidable b.Addressable := inferInstanceAs (Decidable (_ ∧ _))

/-- Whether a grid over the box can be stored: the extents, the distance of the low corner from the
origin and the high corner fit 64 bits. -/
structure Storable (b : Box) : Prop where
  addressable : b.Addressable
  high_x : Word.Fits b.high.x
  high_y : Word.Fits b.high.y

/-- A position brought back into the box, as if the box were repeated in all directions. -/
def wrap (b : Box) (p : Vec) : Vec :=
  ⟨b.low.x + (p.x - b.low.x) % b.columns, b.low.y + (p.y - b.low.y) % b.rows⟩

theorem columns_pos (b : Box) : 0 < b.columns := Nat.succ_pos _

theorem rows_pos (b : Box) : 0 < b.rows := Nat.succ_pos _

theorem high_x (b : Box) : b.high.x = b.low.x + b.columns - 1 := by
  have := b.x_le
  unfold columns
  omega

theorem high_y (b : Box) : b.high.y = b.low.y + b.rows - 1 := by
  have := b.y_le
  unfold rows
  omega

theorem position_toNat {b : Box} {p : Vec} (h : b.Contains p) :
    b.position (p.x - b.low.x).toNat (p.y - b.low.y).toNat = p := by
  obtain ⟨h₁, -, h₂, -⟩ := h
  ext <;> simp only [position] <;> omega

theorem contains_wrap (b : Box) (p : Vec) : b.Contains (b.wrap p) := by
  have hx : (0 : Int) < b.columns := by exact_mod_cast b.columns_pos
  have hy : (0 : Int) < b.rows := by exact_mod_cast b.rows_pos
  have h₁ := Int.emod_nonneg (p.x - b.low.x) (Int.ne_of_gt hx)
  have h₂ := Int.emod_lt_of_pos (p.x - b.low.x) hx
  have h₃ := Int.emod_nonneg (p.y - b.low.y) (Int.ne_of_gt hy)
  have h₄ := Int.emod_lt_of_pos (p.y - b.low.y) hy
  have hX := b.high_x
  have hY := b.high_y
  refine ⟨?_, ?_, ?_, ?_⟩ <;> dsimp only [wrap] <;> omega

theorem contains_hull_self (b : Box) (p : Vec) : (b.hull p).Contains p := by
  refine ⟨?_, ?_, ?_, ?_⟩ <;> dsimp only [hull] <;> omega

theorem contains_hull_of_contains {b : Box} {q : Vec} (h : b.Contains q) (p : Vec) :
    (b.hull p).Contains q := by
  obtain ⟨h₁, h₂, h₃, h₄⟩ := h
  refine ⟨?_, ?_, ?_, ?_⟩ <;> dsimp only [hull] <;> omega

theorem hull_of_contains {b : Box} {p : Vec} (h : b.Contains p) : b.hull p = b := by
  obtain ⟨h₁, h₂, h₃, h₄⟩ := h
  ext <;> dsimp only [hull] <;> omega

end Box

end Gridwalk
