import Gridwalk.Box
import Gridwalk.Text.Arrangement
import Gridwalk.Text.Character

/-! # The program grid

A grid is a box with a cell at each of its positions. Every other position reads as blank, so a grid
is also a map from all positions to cells. A write outside the box makes the box grow; erasing a cell
of its edge makes it shrink to the cells in use.
-/

namespace Gridwalk
set_option autoImplicit false

/-- The first of the `k` numbers from `i` on that satisfies `p`. -/
def firstFrom? (p : Nat → Bool) (i : Nat) : Nat → Option Nat
  | 0 => none
  | k + 1 => if p i then some i else firstFrom? p (i + 1) k

def firstBelow? (p : Nat → Bool) (n : Nat) : Option Nat := firstFrom? p 0 n

def lastBelow? (p : Nat → Bool) : Nat → Option Nat
  | 0 => none
  | n + 1 => if p n then some n else lastBelow? p n

def existsBelow (p : Nat → Bool) (n : Nat) : Bool := (firstBelow? p n).isSome

/-- What every position outside a grid reads as. -/
def blank : Int := -1

structure Grid where
  box : Box
  cells : Vector (Vector Int box.columns) box.rows

namespace Grid

def width (g : Grid) : Nat := g.box.columns

def height (g : Grid) : Nat := g.box.rows

theorem column_lt {b : Box} {p : Vec} (h : b.Contains p) : (p.x - b.low.x).toNat < b.columns := by
  obtain ⟨h₁, h₂, -, -⟩ := h
  unfold Box.columns
  omega

theorem row_lt {b : Box} {p : Vec} (h : b.Contains p) : (p.y - b.low.y).toNat < b.rows := by
  obtain ⟨-, -, h₁, h₂⟩ := h
  unfold Box.rows
  omega

def get (g : Grid) (p : Vec) : Int :=
  if h : g.box.Contains p then
    have := column_lt h
    have := row_lt h
    g.cells[(p.y - g.box.low.y).toNat][(p.x - g.box.low.x).toNat]
  else blank

def tabulate (b : Box) (f : Vec → Int) : Grid where
  box := b
  cells := Vector.ofFn fun j => Vector.ofFn fun i => f (b.position i j)

theorem get_tabulate (b : Box) (f : Vec → Int) (p : Vec) :
    (tabulate b f).get p = if b.Contains p then f p else blank := by
  unfold get tabulate
  dsimp only
  split
  · rename_i h
    simp [Box.position_toNat h]
  · rfl

theorem get_mk_of_contains {b : Box} (cells : Vector (Vector Int b.columns) b.rows) {p : Vec}
    (h : b.Contains p) :
    (Grid.mk b cells).get p =
      have := column_lt h
      have := row_lt h
      cells[(p.y - b.low.y).toNat][(p.x - b.low.x).toNat] :=
  dif_pos h

theorem get_of_not_contains {g : Grid} {p : Vec} (h : ¬ g.box.Contains p) : g.get p = blank := by
  simp [get, h]

def overwrite (g : Grid) (p : Vec) (h : g.box.Contains p) (cell : Int) : Grid where
  box := g.box
  cells :=
    have := column_lt h
    have := row_lt h
    g.cells.set (p.y - g.box.low.y).toNat
      (g.cells[(p.y - g.box.low.y).toNat].set (p.x - g.box.low.x).toNat cell)

theorem getElem_set_set {m n : Nat} (cells : Vector (Vector Int n) m) {i j i' j' : Nat}
    (hi : i < n) (hj : j < m) (hi' : i' < n) (hj' : j' < m) (cell : Int) :
    (cells.set j (cells[j].set i cell))[j'][i'] =
      if i' = i ∧ j' = j then cell else cells[j'][i'] := by
  by_cases h : j' = j
  · subst h
    by_cases h' : i' = i
    · subst h'
      simp
    · simp [h', Vector.getElem_set_ne _ _ (Ne.symm h')]
  · simp [h, Vector.getElem_set_ne _ _ (Ne.symm h)]

theorem get_overwrite (g : Grid) {p : Vec} (h : g.box.Contains p) (cell : Int) (q : Vec) :
    (g.overwrite p h cell).get q = if q = p then cell else g.get q := by
  obtain ⟨b, cells⟩ := g
  dsimp only at h
  by_cases hq : b.Contains q
  · refine (get_mk_of_contains _ hq).trans ?_
    refine (getElem_set_set cells (column_lt h) (row_lt h) (column_lt hq) (row_lt hq) cell).trans ?_
    rw [get_mk_of_contains cells hq]
    obtain ⟨h₁, -, h₂, -⟩ := h
    obtain ⟨h₃, -, h₄, -⟩ := hq
    have hiff : ((q.x - b.low.x).toNat = (p.x - b.low.x).toNat ∧
        (q.y - b.low.y).toNat = (p.y - b.low.y).toNat) ↔ q = p := by
      constructor
      · rintro ⟨hx, hy⟩
        ext <;> omega
      · rintro rfl
        exact ⟨rfl, rfl⟩
    simp only [hiff]
  · have he : q ≠ p := fun he => hq (he ▸ h)
    rw [if_neg he, get_of_not_contains (g := ⟨b, cells⟩) hq]
    exact get_of_not_contains hq

/-- The extents that the grid would have if it grew to a position, if these can be addressed. Inside
the box it need not grow. -/
def sizeCovering? (g : Grid) (p : Vec) : Option (Nat × Nat) :=
  let b := g.box.hull p
  if g.box.Contains p ∨ b.Addressable then some (b.columns, b.rows) else none

def rowInUse (g : Grid) (j : Nat) : Bool :=
  existsBelow (fun i => g.get (g.box.position i j) != blank) g.width

def columnInUse (g : Grid) (i : Nat) : Bool :=
  existsBelow (fun j => g.get (g.box.position i j) != blank) g.height

/-- The least box around the cells in use. If there are none it is the middle cell. -/
def usedBox (g : Grid) : Box :=
  match firstBelow? g.columnInUse g.width, firstBelow? g.rowInUse g.height,
      lastBelow? g.columnInUse g.width, lastBelow? g.rowInUse g.height with
  | some left, some top, some right, some bottom =>
    Box.span (g.box.position left top) (g.box.position right bottom)
  | _, _, _, _ =>
    let middle := g.box.position (g.width / 2) (g.height / 2)
    Box.span middle middle

def shrink (g : Grid) : Grid := if g.usedBox = g.box then g else tabulate g.usedBox g.get

def grow (g : Grid) (p : Vec) (cell : Int) : Grid :=
  tabulate (g.box.hull p) fun q => if q = p then cell else g.get q

/-- Write a cell. Erasing never grows the grid. A write that would need a box that cannot be addressed
is dropped. -/
def set (g : Grid) (p : Vec) (cell : Int) : Grid :=
  if cell = blank then
    if h : g.box.Contains p then
      if g.box.OnEdge p then (g.overwrite p h cell).shrink else g.overwrite p h cell
    else g
  else if (g.sizeCovering? p).isSome then
    if h : g.box.Contains p then g.overwrite p h cell else g.grow p cell
  else g

def rows (g : Grid) : List (List Int) := g.cells.toList.map (·.toList)

/-! ## Loading a program

The lines of a program are the rows of its grid, ended by a line feed or by a carriage return and a
line feed. Empty lines at the end do not count, and short lines are filled up with spaces.
-/

def dropReturn (line : List Char) : List Char :=
  if line.getLast? = some '\r' then line.dropLast else line

/-- The lines of a program without the empty ones at its end. -/
def sourceLines (source : List Char) : List (List Char) :=
  (((Text.lines source).map dropReturn).reverse.dropWhile List.isEmpty).reverse

def padding : Int := Text.code ' '

def ofLines (lines : List (List Char)) : Grid :=
  let width := (lines.map List.length).foldr max 1
  let height := max lines.length 1
  let table := (lines.map fun line => (Text.codes line).toArray).toArray
  tabulate (Box.span ⟨0, 0⟩ ⟨width - 1, height - 1⟩) fun p =>
    (table[p.y.toNat]?.bind (·[p.x.toNat]?)).getD padding

def ofSource (source : String) : Grid := ofLines (sourceLines source.toList)

end Grid

end Gridwalk
