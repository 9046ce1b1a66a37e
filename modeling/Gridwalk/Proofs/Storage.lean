import Gridwalk.Grid.Sheet
import Gridwalk.Proofs.GridSize
import Gridwalk.Proofs.Landing

/-! # A stored grid is the grid

What a sheet holds is a table: a box, and for each of its positions what is read there. It is shown
that no check of a sheet fails on a table, that reading, corners, places, the size of a hull and
growth are those of the grid, and that the two axes grow in the same way. How a sheet shrinks, row by
row, is in the module on trimming.
-/

namespace Gridwalk
set_option autoImplicit false

namespace Box

def Covers (b : Box) (f : Vec → Int) : Prop := ∀ q, f q ≠ blank → b.Contains q

def widened (b : Box) (x : Int) : Box where
  low := ⟨min b.low.x x, b.low.y⟩
  high := ⟨max b.high.x x, b.high.y⟩
  x_le := by have := b.x_le; dsimp only; omega
  y_le := b.y_le

def heightened (b : Box) (y : Int) : Box where
  low := ⟨b.low.x, min b.low.y y⟩
  high := ⟨b.high.x, max b.high.y y⟩
  x_le := b.x_le
  y_le := by have := b.y_le; dsimp only; omega

theorem columns_widened (b : Box) (x : Int) :
    ((b.widened x).columns : Int) = max b.high.x x - min b.low.x x + 1 := by
  have := b.x_le
  simp only [columns, widened]
  omega

theorem rows_heightened (b : Box) (y : Int) :
    ((b.heightened y).rows : Int) = max b.high.y y - min b.low.y y + 1 := by
  have := b.y_le
  simp only [rows, heightened]
  omega

end Box

namespace Sheet

/-! ## One axis -/

def along {α : Type} (low : Int) (n : Nat) (h : Int → α) : List α :=
  (List.range n).map fun i : Nat => h (low + i)

section Along

variable {α β : Type} {low : Int} {m n : Nat} {h : Int → α} {fill : α}

@[simp] theorem length_along : (along low n h).length = n := by
  rw [along, List.length_map, List.length_range]

theorem getElem?_along {i : Nat} (hi : i < n) : (along low n h)[i]? = some (h (low + i)) := by
  rw [along, List.getElem?_map, List.getElem?_range hi, Option.map_some]

theorem map_along (f : α → β) : (along low n h).map f = along low n fun k => f (h k) := by
  rw [along, List.map_map]
  rfl

theorem forall_mem_along {P : α → Prop} :
    (∀ a ∈ along low n h, P a) ↔ ∀ k, low ≤ k → k < low + n → P (h k) := by
  simp only [along, List.forall_mem_map, List.mem_range]
  constructor
  · intro hall k hk hk'
    have hplace := hall (k - low).toNat (by omega)
    rwa [show low + ((k - low).toNat : Int) = k by omega] at hplace
  · intro hall i hi
    exact hall _ (by omega) (by omega)

theorem along_congr {h' : Int → α} (heq : ∀ k, low ≤ k → k < low + n → h k = h' k) :
    along low n h = along low n h' := by
  refine List.map_congr_left fun i hi => heq _ (by omega) ?_
  have hlt := List.mem_range.mp hi
  omega

theorem along_eq_replicate (low : Int) (n : Nat) (hfill : ∀ k, low ≤ k → k < low + n → h k = fill) :
    along low n h = List.replicate n fill := by
  rw [along_congr hfill, along, List.map_const', List.length_range]

theorem along_add (low : Int) (m n : Nat) (h : Int → α) :
    along low (m + n) h = along low m h ++ along (low + m) n h := by
  simp only [along, List.range_add, List.map_append, List.map_map, Function.comp_def,
    Int.natCast_add, Int.add_assoc]

theorem head?_along (hn : 0 < n) : (along low n h).head? = some (h low) := by
  rw [List.head?_eq_getElem?, getElem?_along hn, Int.natCast_zero, Int.add_zero]

theorem getLast?_along (hn : 0 < n) : (along low n h).getLast? = some (h (low + n - 1)) := by
  rw [List.getLast?_eq_getElem?, length_along, getElem?_along (by omega)]
  congr 2
  omega

theorem tail_along : (along low (n + 1) h).tail = along (low + 1) n h := by
  rw [Nat.add_comm, along_add]
  rfl

theorem dropLast_along : (along low (n + 1) h).dropLast = along low n h := by
  rw [along_add]
  exact List.dropLast_concat

end Along

theorem add_neg_low {low high n : Int} (hle : low ≤ high)
    (hextent : Word.Fits (max high n - min low n + 1)) : Word.add n (-low) = .ok (n - low) := by
  unfold Word.Fits Word.least Word.greatest at hextent
  refine Word.check_eq_ok_iff.mpr ⟨?_, Int.sub_eq_add_neg⟩
  unfold Word.Fits Word.least Word.greatest
  omega

/-- An axis from `low` to `high` that needs a place for `n` grows to the interval of all three, and
what is outside the old interval is filled. -/
theorem exists_growth {low high n : Int} (hle : low ≤ high) (hlow : Word.Fits (-min low n))
    (hextent : Word.Fits (max high n - min low n + 1)) :
    ∃ g, growth ((high - low).toNat + 1) (-low) (n - low) = .ok (g, -min low n) ∧
      ∀ {α : Type} {h : Int → α} {fill : α}, (∀ k, ¬(low ≤ k ∧ k ≤ high) → h k = fill) →
        g.apply fill (along low ((high - low).toNat + 1) h) =
          along (min low n) ((max high n - min low n).toNat + 1) h := by
  unfold Word.Fits Word.least Word.greatest at hlow hextent
  rcases Int.lt_or_le n low with hbefore | hbefore
  · have hneg : Word.neg (n - low) = .ok (low - n) := by
      refine Word.check_eq_ok_iff.mpr ⟨?_, by omega⟩
      unfold Word.Fits Word.least Word.greatest
      omega
    have hadd : Word.add (-low) (low - n) = .ok (-min low n) := by
      refine Word.check_eq_ok_iff.mpr ⟨?_, by omega⟩
      unfold Word.Fits Word.least Word.greatest
      omega
    refine ⟨.before (low - n).toNat, ?_, fun {α h fill} hfill => ?_⟩
    · rw [growth, if_pos (by omega), hneg]
      simp only [hadd, bind, Except.bind, pure, Except.pure]
    · have hextents : (max high n - min low n).toNat + 1 =
          (low - n).toNat + ((high - low).toNat + 1) := by omega
      have hlow' : min low n + ((low - n).toNat : Int) = low := by omega
      rw [hextents, along_add (min low n), hlow', Growth.apply,
        along_eq_replicate (min low n) _ fun k _ _ => hfill k (by omega)]
  · have hlow' : min low n = low := by omega
    rw [growth, if_neg (by omega), hlow']
    rcases Int.lt_or_le high n with hbehind | hbehind
    · have hadd : Word.add (n - low) 1 = .ok (n - low + 1) := by
        apply Word.add_of_fits
        unfold Word.Fits Word.least Word.greatest
        omega
      refine ⟨.behind (n - low + 1).toNat, ?_, fun {α h fill} hfill => ?_⟩
      · rw [if_pos (by omega), hadd]
        rfl
      · have hextents : (max high n - low).toNat + 1 =
            (high - low).toNat + 1 + (n - high).toNat := by omega
        have hadded : (n - low + 1).toNat - ((high - low).toNat + 1) = (n - high).toNat := by omega
        rw [hextents, along_add low ((high - low).toNat + 1), Growth.apply,
          List.take_of_length_le (by rw [length_along]; omega), length_along, hadded,
          along_eq_replicate _ (n - high).toNat fun k _ _ => hfill k (by omega)]
    · have hsame : max high n = high := by omega
      rw [if_neg (by omega), hsame]
      exact ⟨.unneeded, rfl, fun _ => rfl⟩

/-! ## Tables -/

/-- The sheet over a box that holds what `f` reads there. -/
def table (b : Box) (f : Vec → Int) : Sheet where
  rows := along b.low.y b.rows fun y => along b.low.x b.columns fun x => f ⟨x, y⟩
  offset := -b.low

section Table

variable {b : Box} {f : Vec → Int} {p : Vec}

@[simp] theorem width_table (b : Box) (f : Vec → Int) : (table b f).width = b.columns := by
  simp [width, table, head?_along b.rows_pos]

@[simp] theorem height_table (b : Box) (f : Vec → Int) : (table b f).height = b.rows := by
  rw [height, table, length_along]

@[simp] theorem offset_table (b : Box) (f : Vec → Int) : (table b f).offset = -b.low := rfl

/-! ## Growth -/

section Growth

variable (hf : b.Covers f)
include hf

theorem eq_blank_of_not_contains {q : Vec} (h : ¬ b.Contains q) : f q = blank := by
  by_contra hne
  exact h (hf q hne)

theorem growColumns_table {x : Int} (hlow : Word.Fits (-(b.widened x).low.x))
    (hextent : Word.Fits (b.widened x).columns) :
    (table b f).growColumns (x - b.low.x) = .ok (table (b.widened x) f) := by
  rw [b.columns_widened x] at hextent
  obtain ⟨g, hgrowth, happly⟩ := exists_growth b.x_le hlow hextent
  have hrows : (table b f).rows.map (g.apply blank) = (table (b.widened x) f).rows := by
    rw [table, map_along]
    refine along_congr fun y _ _ => happly fun k hk => eq_blank_of_not_contains hf fun hin => ?_
    exact hk ⟨hin.1, hin.2.1⟩
  simp only [growColumns, width_table, offset_table, Vec.neg_x, Vec.neg_y, Box.columns, hgrowth,
    hrows, bind, Except.bind, pure, Except.pure]
  rfl

theorem growRows_table {y : Int} (hlow : Word.Fits (-(b.heightened y).low.y))
    (hextent : Word.Fits (b.heightened y).rows) :
    (table b f).growRows (y - b.low.y) = .ok (table (b.heightened y) f) := by
  rw [b.rows_heightened y] at hextent
  obtain ⟨g, hgrowth, happly⟩ := exists_growth b.y_le hlow hextent
  have hrows : g.apply (List.replicate b.columns blank) (table b f).rows =
      (table (b.heightened y) f).rows := by
    refine happly (h := fun y => along b.low.x b.columns fun x => f ⟨x, y⟩) fun k hk => ?_
    exact along_eq_replicate _ _ fun x _ _ => eq_blank_of_not_contains hf fun hin => hk hin.2.2
  simp only [growRows, width_table, height_table, offset_table, Vec.neg_x, Vec.neg_y, Box.rows,
    hgrowth, hrows, bind, Except.bind, pure, Except.pure]
  rfl

theorem growTo_table (haddress : (b.hull p).Addressable) :
    (table b f).growTo p = .ok (table (b.hull p) f) := by
  obtain ⟨hlowX, hcolumns, hlowY, hrows⟩ := haddress
  have hcovers : (b.widened p.x).Covers f := by
    intro q hq
    obtain ⟨h₁, h₂, h₃, h₄⟩ := hf q hq
    refine ⟨?_, ?_, h₃, h₄⟩ <;> dsimp only [Box.widened] <;> omega
  have hx : Word.add p.x (-b.low.x) = .ok (p.x - b.low.x) :=
    add_neg_low b.x_le (b.columns_widened p.x ▸ hcolumns)
  have hy : Word.add p.y (-b.low.y) = .ok (p.y - b.low.y) :=
    add_neg_low b.y_le (b.rows_heightened p.y ▸ hrows)
  have hadd : Vec.Checked.add p (-b.low) = .ok ⟨p.x - b.low.x, p.y - b.low.y⟩ := by
    simp only [Vec.Checked.add, Vec.neg_x, Vec.neg_y, hx, hy, bind, Except.bind, pure, Except.pure]
  have hwide := growColumns_table hf hlowX hcolumns
  have hhigh := growRows_table hcovers hlowY hrows
  simp only [growTo, offset_table, hadd, hwide, bind, Except.bind]
  exact hhigh

end Growth

/-! ## Corners, places and the size of a hull -/

theorem corners_table (h : b.Storable) (f : Vec → Int) :
    (table b f).low = .ok b.low ∧ (table b f).high = .ok b.high := by
  obtain ⟨low, hlow, hrest⟩ := Word.bind_eq_ok_iff.mp (Wide.corners_of_storable h)
  obtain ⟨width, hwidth, hrest⟩ := Word.bind_eq_ok_iff.mp hrest
  obtain ⟨height, hheight, hrest⟩ := Word.bind_eq_ok_iff.mp hrest
  obtain ⟨high, hhigh, hcorners⟩ := Word.bind_eq_ok_iff.mp hrest
  cases hcorners
  refine ⟨hlow, ?_⟩
  simp only [Sheet.high, width_table, height_table, hwidth, hheight, bind, Except.bind]
  exact hhigh

theorem index?_table (hb : b.Addressable) : (table b f).index? p =
    if b.Contains p then some ((p.x - b.low.x).toNat, (p.y - b.low.y).toNat) else none := by
  obtain ⟨-, ⟨-, hcolumns⟩, -, ⟨-, hrows⟩⟩ := hb
  have hX := b.high_x
  have hY := b.high_y
  simp only [index?, width_table, height_table, offset_table, Vec.neg_x, Vec.neg_y,
    ← Int.sub_eq_add_neg]
  have hinside : ((Word.Fits (p.x - b.low.x) ∧ 0 ≤ p.x - b.low.x ∧ p.x - b.low.x < b.columns) ∧
      Word.Fits (p.y - b.low.y) ∧ 0 ≤ p.y - b.low.y ∧ p.y - b.low.y < b.rows) ↔ b.Contains p := by
    unfold Box.Contains Word.Fits Word.least
    omega
  simp only [hinside]

theorem onEdge_table (h : b.Storable) : (table b f).onEdge p = .ok (decide (b.OnEdge p)) := by
  have hinside : ((table b f).index? p).isSome = decide (b.Contains p) := by
    rw [index?_table h.addressable]
    split <;> simp [*]
  obtain ⟨hlow, hhigh⟩ := corners_table h f
  simp only [onEdge, hlow, hhigh, hinside, bind, Except.bind, pure, Except.pure]
  exact congrArg Except.ok (Bool.decide_and _ _).symm

theorem extentCovering?_of_fits {low high n : Int} (hlow : Word.Fits low) (hhigh : Word.Fits high)
    (hn : Word.Fits n) : extentCovering? low high n =
      .ok (if Word.Fits (-min low n) ∧ Word.Fits (max high n - min low n + 1) then
        some (max high n - min low n + 1) else none) := by
  have hlength : Wide.Fits (max high n - min low n) := by
    unfold Wide.Fits Wide.least Wide.greatest
    unfold Word.Fits Word.least Word.greatest at *
    omega
  have hextent : Wide.Fits (max high n - min low n + 1) := by
    unfold Wide.Fits Wide.least Wide.greatest
    unfold Word.Fits Word.least Word.greatest at *
    omega
  rw [extentCovering?]
  split
  · rename_i hneg
    simp only [Wide.sub_of_fits hlength, Wide.add_of_fits hextent, hneg, true_and, bind,
      Except.bind, pure, Except.pure]
  · rename_i hneg
    rw [if_neg fun h => hneg h.1]

theorem sizeCovering?_table (h : b.Storable) (hp : p.Fits) : (table b f).sizeCovering? p =
    .ok (if (b.hull p).Addressable then some ((b.hull p).columns, (b.hull p).rows) else none) := by
  obtain ⟨hlow, hhigh⟩ := corners_table h f
  have hcolumns : max b.high.x p.x - min b.low.x p.x + 1 = (b.hull p).columns :=
    (b.columns_widened p.x).symm
  have hrows : max b.high.y p.y - min b.low.y p.y + 1 = (b.hull p).rows :=
    (b.rows_heightened p.y).symm
  simp only [sizeCovering?, hlow, hhigh, extentCovering?_of_fits h.fits_low.1 h.high_x hp.1,
    extentCovering?_of_fits h.fits_low.2 h.high_y hp.2, hcolumns, hrows, bind, Except.bind, pure,
    Except.pure]
  have haddress : (b.hull p).Addressable ↔
      (Word.Fits (-min b.low.x p.x) ∧ Word.Fits (b.hull p).columns) ∧
        Word.Fits (-min b.low.y p.y) ∧ Word.Fits (b.hull p).rows :=
    and_assoc.symm
  simp only [haddress]
  split_ifs <;> simp_all

theorem get?_table (hb : b.Addressable) (hf : b.Covers f) : (table b f).get? p = some (f p) := by
  rw [get?, index?_table hb]
  by_cases hin : b.Contains p
  · have hplace := Box.position_toNat hin
    rw [if_pos hin]
    dsimp only [table]
    rw [getElem?_along (Grid.row_lt hin), Option.bind_some, getElem?_along (Grid.column_lt hin)]
    exact congrArg (fun q => some (f q)) hplace
  · rw [if_neg hin, eq_blank_of_not_contains hf hin]

theorem write_table (h : b.Contains p) (cell : Int) :
    (table b f).write (p.x - b.low.x).toNat (p.y - b.low.y).toNat cell =
      table b fun q => if q = p then cell else f q := by
  have hplace (i j : Nat) :
      b.position i j = p ↔ (p.x - b.low.x).toNat = i ∧ (p.y - b.low.y).toNat = j := by
    obtain ⟨h₁, -, h₂, -⟩ := h
    rw [Vec.ext_iff]
    simp only [Box.position]
    omega
  simp only [Box.position] at hplace
  simp only [write, table, mk.injEq, and_true]
  apply List.ext_getElem
  · simp
  · intro j hj hj'
    apply List.ext_getElem
    · rw [List.getElem_modify]
      split <;> simp [along]
    · intro i hi hi'
      simp only [along, List.getElem_modify, List.getElem_map, List.getElem_range, hplace]
      split
      · rename_i hrow
        simp [List.getElem_set, hrow]
      · rename_i hrow
        simp [hrow]

end Table

end Sheet

theorem Grid.rows_eq (g : Grid) : g.rows = (Sheet.table g.box g.get).rows := by
  apply List.ext_getElem
  · simp [Grid.rows, Sheet.table]
  · intro j hj hj'
    apply List.ext_getElem
    · simp [Grid.rows, Sheet.table, Sheet.along]
    · intro i hi hi'
      have hcolumn : i < g.box.columns := by simpa [Sheet.table, Sheet.along] using hi'
      have hrow : j < g.box.rows := by simpa [Sheet.table] using hj'
      have hget := get_position g hcolumn hrow
      rw [Box.position] at hget
      simp [Grid.rows, Sheet.table, Sheet.along, hget]

theorem Grid.covers_box (g : Grid) : g.box.Covers g.get := fun _ => contains_of_get_ne_blank

theorem Grid.sheet_eq (g : Grid) : g.sheet = .table g.box g.get := by
  rw [sheet, rows_eq]
  rfl

end Gridwalk
