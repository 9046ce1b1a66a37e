import Gridwalk.Word

/-! # Positions and displacements

`x` grows to the east and `y` to the south. The plain operations are exact; the operations in
`Vec.Checked` stay in the 64-bit range and name the first operation that would leave it, the
`x` component before the `y` component.
-/

namespace Gridwalk
set_option autoImplicit false

@[ext] structure Vec where
  x : Int
  y : Int
deriving DecidableEq, Repr, Inhabited

namespace Vec

def zero : Vec := ⟨0, 0⟩

instance : Add Vec := ⟨fun a b => ⟨a.x + b.x, a.y + b.y⟩⟩

instance : Sub Vec := ⟨fun a b => ⟨a.x - b.x, a.y - b.y⟩⟩

instance : Neg Vec := ⟨fun a => ⟨-a.x, -a.y⟩⟩

@[simp] theorem add_x (a b : Vec) : (a + b).x = a.x + b.x := rfl
@[simp] theorem add_y (a b : Vec) : (a + b).y = a.y + b.y := rfl
@[simp] theorem sub_x (a b : Vec) : (a - b).x = a.x - b.x := rfl
@[simp] theorem sub_y (a b : Vec) : (a - b).y = a.y - b.y := rfl
@[simp] theorem neg_x (a : Vec) : (-a).x = -a.x := rfl
@[simp] theorem neg_y (a : Vec) : (-a).y = -a.y := rfl

def Fits (p : Vec) : Prop := Word.Fits p.x ∧ Word.Fits p.y

instance (p : Vec) : Decidable p.Fits := inferInstanceAs (Decidable (_ ∧ _))

def Central (p : Vec) : Prop := Word.Central p.x ∧ Word.Central p.y

instance (p : Vec) : Decidable p.Central := inferInstanceAs (Decidable (_ ∧ _))

def scale (a : Vec) (k : Int) : Vec := ⟨a.x * k, a.y * k⟩

def dot (a b : Vec) : Int := a.x * b.x + a.y * b.y

def cross (a b : Vec) : Int := a.x * b.y - a.y * b.x

/-- Half of a vector, each component rounded down. -/
def half (a : Vec) : Vec := ⟨a.x.fdiv 2, a.y.fdiv 2⟩

def text (a : Vec) : String := s!"({a.x}, {a.y})"

namespace Checked

def add (a b : Vec) : Except Overflow Vec := do
  let x ← Word.add a.x b.x
  let y ← Word.add a.y b.y
  return ⟨x, y⟩

theorem add_of_fits {a b : Vec} (h : (a + b).Fits) : add a b = .ok (a + b) := by
  simp only [add, Word.add_of_fits h.1, Word.add_of_fits h.2, bind, Except.bind, pure, Except.pure]
  rfl

def sub (a b : Vec) : Except Overflow Vec := do
  let x ← Word.sub a.x b.x
  let y ← Word.sub a.y b.y
  return ⟨x, y⟩

def neg (a : Vec) : Except Overflow Vec := do
  let x ← Word.neg a.x
  let y ← Word.neg a.y
  return ⟨x, y⟩

def scale (a : Vec) (k : Int) : Except Overflow Vec := do
  let x ← Word.mul a.x k
  let y ← Word.mul a.y k
  return ⟨x, y⟩

def dot (a b : Vec) : Except Overflow Int := do
  let p ← Word.mul a.x b.x
  let q ← Word.mul a.y b.y
  Word.add p q

def cross (a b : Vec) : Except Overflow Int := do
  let p ← Word.mul a.x b.y
  let q ← Word.mul a.y b.x
  Word.sub p q

end Checked

end Vec

end Gridwalk
