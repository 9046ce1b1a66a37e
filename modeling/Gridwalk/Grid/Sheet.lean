import Gridwalk.Grid.Basic

/-! # Stored grids

A grid can be kept as a list of rows with an offset that is added to a position to find its place in
them. All numbers then have to fit a fixed width: 64 bits, and 128 bits where an extent is computed
that may turn out too large. Every operation of a sheet checks its results.

A sheet grows by whole rows and columns, in front or behind. It is trimmed in passes that drop the
blank row or column of each side in turn, until a pass drops nothing.
-/

namespace Gridwalk
set_option autoImplicit false

structure Sheet where
  rows : List (List Int)
  offset : Vec

def Grid.sheet (g : Grid) : Sheet := ⟨g.rows, -g.box.low⟩

/-- What makes room on an axis: so many places in front, or as many behind as a new extent needs. -/
inductive Growth where
  | before (extra : Nat)
  | behind (extent : Nat)
  | unneeded

def Growth.apply {α : Type} (fill : α) : Growth → List α → List α
  | before extra, l => List.replicate extra fill ++ l
  | behind extent, l => l.take extent ++ List.replicate (extent - l.length) fill
  | unneeded, l => l

inductive Side where
  | north
  | south
  | west
  | east

namespace Sheet

def width (s : Sheet) : Nat := (s.rows.head?.map List.length).getD 0

def height (s : Sheet) : Nat := s.rows.length

def low (s : Sheet) : Except Overflow Vec := Vec.Checked.neg s.offset

def high (s : Sheet) : Except Overflow Vec := do
  let x ← Word.sub s.width 1
  let y ← Word.sub s.height 1
  Vec.Checked.sub ⟨x, y⟩ s.offset

/-- The column and the row of a position. A position so far away that the sum with the offset leaves
the range is outside. -/
def index? (s : Sheet) (p : Vec) : Option (Nat × Nat) :=
  let i := p.x + s.offset.x
  let j := p.y + s.offset.y
  if (Word.Fits i ∧ 0 ≤ i ∧ i < s.width) ∧ Word.Fits j ∧ 0 ≤ j ∧ j < s.height then
    some (i.toNat, j.toNat)
  else none

/-- Read a cell. There is none where a row is shorter than the first. -/
def get? (s : Sheet) (p : Vec) : Option Int :=
  match s.index? p with
  | none => some blank
  | some (i, j) => s.rows[j]?.bind (·[i]?)

def onEdge (s : Sheet) (p : Vec) : Except Overflow Bool := do
  let low ← s.low
  let high ← s.high
  return (s.index? p).isSome &&
    decide (p.x = low.x ∨ p.y = low.y ∨ p.x = high.x ∨ p.y = high.y)

/-! ## Growth -/

/-- The extent of an axis that has to reach from `low` to `high` and to `n`, if it can be addressed.
-/
def extentCovering? (low high n : Int) : Except Overflow (Option Int) :=
  if Word.Fits (-min low n) then do
    let length ← Wide.sub (max high n) (min low n)
    let extent ← Wide.add length 1
    return if Word.Fits extent then some extent else none
  else .ok none

def sizeCovering? (s : Sheet) (p : Vec) : Except Overflow (Option (Int × Int)) := do
  let low ← s.low
  let high ← s.high
  match ← extentCovering? low.x high.x p.x with
  | none => return none
  | some width => return (← extentCovering? low.y high.y p.y).map (width, ·)

/-- How an axis grows to have a place `i`, and its offset then. -/
def growth (extent : Nat) (offset i : Int) : Except Overflow (Growth × Int) := do
  if i < 0 then
    let extra ← Word.neg i
    return (.before extra.toNat, ← Word.add offset extra)
  else if extent ≤ i then
    return (.behind (← Word.add i 1).toNat, offset)
  else
    return (.unneeded, offset)

def growColumns (s : Sheet) (i : Int) : Except Overflow Sheet := do
  let (columns, x) ← growth s.width s.offset.x i
  return ⟨s.rows.map (columns.apply blank), ⟨x, s.offset.y⟩⟩

def growRows (s : Sheet) (j : Int) : Except Overflow Sheet := do
  let (rows, y) ← growth s.height s.offset.y j
  return ⟨rows.apply (List.replicate s.width blank) s.rows, ⟨s.offset.x, y⟩⟩

def growTo (s : Sheet) (p : Vec) : Except Overflow Sheet := do
  let place ← Vec.Checked.add p s.offset
  let wide ← s.growColumns place.x
  wide.growRows place.y

/-! ## Trimming -/

def extent (s : Sheet) : Side → Nat
  | .north | .south => s.height
  | .west | .east => s.width

def isBlank (s : Sheet) : Side → Bool
  | .north => s.rows.head?.any (·.all (· == blank))
  | .south => s.rows.getLast?.any (·.all (· == blank))
  | .west => s.rows.all (·.head? == some blank)
  | .east => s.rows.all (·.getLast? == some blank)

def drop (s : Sheet) : Side → Except Overflow Sheet
  | .north => return ⟨s.rows.tail, ⟨s.offset.x, ← Word.sub s.offset.y 1⟩⟩
  | .south => return { s with rows := s.rows.dropLast }
  | .west => return ⟨s.rows.map List.tail, ⟨← Word.sub s.offset.x 1, s.offset.y⟩⟩
  | .east => return { s with rows := s.rows.map List.dropLast }

/-- Drop the row or column of a side if it is blank and not the only one, and tell whether it was
dropped. -/
def trim (s : Sheet) (side : Side) : Except Overflow (Sheet × Bool) := do
  if 1 < s.extent side ∧ s.isBlank side = true then
    return (← s.drop side, true)
  else
    return (s, false)

def pass (s : Sheet) : Except Overflow (Sheet × Bool) := do
  let (s, north) ← s.trim .north
  let (s, south) ← s.trim .south
  let (s, west) ← s.trim .west
  let (s, east) ← s.trim .east
  return (s, north || south || west || east)

/-- The number of cells, and one for each row. -/
def area (s : Sheet) : Nat := s.rows.flatten.length + s.rows.length

section Area

variable {s s' : Sheet} {side : Side} {trimmed : Bool}

theorem length_flatten_map_le (cut : List Int → List Int)
    (hcut : ∀ row, (cut row).length ≤ row.length) (rows : List (List Int)) :
    (rows.map cut).flatten.length ≤ rows.flatten.length := by
  induction rows with
  | nil => exact Nat.le_refl _
  | cons row rest ih =>
    have hrow := hcut row
    simp only [List.map_cons, List.flatten_cons, List.length_append]
    omega

theorem area_drop (hextent : 1 < s.extent side) (h : s.drop side = .ok s') : s'.area < s.area := by
  obtain ⟨rows, offset⟩ := s
  cases side with
  | north =>
    obtain ⟨y, -, hdrop⟩ := Word.bind_eq_ok_iff.mp h
    cases hdrop
    cases rows with
    | nil => cases hextent
    | cons row rest =>
      simp only [area, List.tail_cons, List.flatten_cons, List.length_append, List.length_cons]
      omega
  | south =>
    cases h
    have hne : rows ≠ [] := by
      rintro rfl
      cases hextent
    have hcells : rows.flatten = rows.dropLast.flatten ++ rows.getLast hne := by
      rw [← List.flatten_concat, List.dropLast_concat_getLast hne]
    have hrows := List.length_pos_iff.mpr hne
    simp only [area, hcells, List.length_append, List.length_dropLast]
    omega
  | west =>
    obtain ⟨x, -, hdrop⟩ := Word.bind_eq_ok_iff.mp h
    cases hdrop
    cases rows with
    | nil => cases hextent
    | cons row rest =>
      have hrow : 1 < row.length := hextent
      have hrest := length_flatten_map_le List.tail (by simp) rest
      simp only [area, List.map_cons, List.flatten_cons, List.length_append, List.length_tail,
        List.length_cons, List.length_map]
      omega
  | east =>
    cases h
    cases rows with
    | nil => cases hextent
    | cons row rest =>
      have hrow : 1 < row.length := hextent
      have hrest := length_flatten_map_le List.dropLast (by simp) rest
      simp only [area, List.map_cons, List.flatten_cons, List.length_append, List.length_dropLast,
        List.length_cons, List.length_map]
      omega

theorem area_trim (h : s.trim side = .ok (s', trimmed)) :
    s'.area ≤ s.area ∧ (trimmed = true → s'.area < s.area) := by
  rw [trim] at h
  split at h
  · rename_i hside
    obtain ⟨dropped, hdrop, hresult⟩ := Word.bind_eq_ok_iff.mp h
    cases hresult
    have hlt := area_drop hside.1 hdrop
    exact ⟨Nat.le_of_lt hlt, fun _ => hlt⟩
  · cases h
    exact ⟨Nat.le_refl _, fun h => absurd h Bool.false_ne_true⟩

theorem area_pass (h : s.pass = .ok (s', true)) : s'.area < s.area := by
  obtain ⟨⟨s₁, north⟩, h₁, h⟩ := Word.bind_eq_ok_iff.mp h
  obtain ⟨⟨s₂, south⟩, h₂, h⟩ := Word.bind_eq_ok_iff.mp h
  obtain ⟨⟨s₃, west⟩, h₃, h⟩ := Word.bind_eq_ok_iff.mp h
  obtain ⟨⟨s₄, east⟩, h₄, h⟩ := Word.bind_eq_ok_iff.mp h
  obtain ⟨hle₁, hlt₁⟩ := area_trim h₁
  obtain ⟨hle₂, hlt₂⟩ := area_trim h₂
  obtain ⟨hle₃, hlt₃⟩ := area_trim h₃
  obtain ⟨hle₄, hlt₄⟩ := area_trim h₄
  simp only [pure, Except.pure, Except.ok.injEq, Prod.mk.injEq, Bool.or_eq_true] at h
  obtain ⟨rfl, ((hsome | hsome) | hsome) | hsome⟩ := h
  · have := hlt₁ hsome
    omega
  · have := hlt₂ hsome
    omega
  · have := hlt₃ hsome
    omega
  · have := hlt₄ hsome
    omega

end Area

def shrink (s : Sheet) : Except Overflow Sheet :=
  match _hpass : s.pass with
  | .error cause => .error cause
  | .ok (s', true) => s'.shrink
  | .ok (s', false) => .ok s'
termination_by s.area
decreasing_by exact area_pass _hpass

theorem shrink_of_trimmed {s s' : Sheet} (h : s.pass = .ok (s', true)) : s.shrink = s'.shrink := by
  rw [shrink]
  split <;> simp_all

theorem shrink_of_kept {s s' : Sheet} (h : s.pass = .ok (s', false)) : s.shrink = .ok s' := by
  rw [shrink]
  split <;> simp_all

/-! ## Writing -/

def write (s : Sheet) (i j : Nat) (cell : Int) : Sheet :=
  { s with rows := s.rows.modify j (·.set i cell) }

/-- Write a cell. The edge is looked at before the cell is erased. -/
def set (s : Sheet) (p : Vec) (cell : Int) : Except Overflow Sheet := do
  if cell = blank then
    match s.index? p with
    | none => return s
    | some (i, j) =>
      let edge ← s.onEdge p
      let erased := s.write i j cell
      if edge then erased.shrink else return erased
  else
    match ← s.sizeCovering? p with
    | none => return s
    | some _ =>
      let grown ← s.growTo p
      match grown.index? p with
      | none => return grown
      | some (i, j) => return grown.write i j cell

end Sheet

end Gridwalk
