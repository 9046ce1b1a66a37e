import Gridwalk.Proofs.TapeCells

/-! # Texts in registers

A text lies in the cells from an address on if each cell holds the code of a character and the cell
behind them is not stored. Writing a text brings this about and changes no other cell. The reader
looks for a cell that is no character and the move to the next register for a cell that is not
stored; both stop at the cell behind the text.
-/

namespace Gridwalk
set_option autoImplicit false

namespace Tape

def HoldsText (cells : List (Int × Int)) : Int → List Char → Prop
  | address, [] => address ∉ cells.map Prod.fst
  | address, c :: text => (address, Text.code c) ∈ cells ∧ HoldsText cells (address + 1) text

theorem code_ne_unset (c : Char) : Text.code c ≠ unset := by
  unfold Text.code unset
  omega

section Cells

variable {cells : List (Int × Int)} {address : Int} {text : List Char}

theorem exists_writeFrom (h : cells.Pairwise fun a b => a.1 < b.1) (hlow : Word.least ≤ address)
    (hroom : address + text.length ≤ Word.greatest) :
    ∃ written, writeFrom address text cells = .ok written ∧
      written.Pairwise (fun a b => a.1 < b.1) ∧ HoldsText written address text ∧
      ∀ cell : Int × Int, cell.1 < address ∨ address + text.length < cell.1 →
        (cell ∈ written ↔ cell ∈ cells) := by
  induction text generalizing cells address with
  | nil =>
    refine ⟨insert address unset cells, rfl, pairwise_insert h, ?_, ?_⟩
    · intro hmem
      obtain ⟨cell, hcell, he⟩ := List.mem_map.mp hmem
      rcases (mem_insert_iff h).mp hcell with ⟨-, hset⟩ | ⟨hne, -⟩
      · exact hset rfl
      · exact hne he
    · intro cell hout
      have hne : cell.1 ≠ address := by
        simp only [List.length_nil] at hout
        omega
      rw [mem_insert_iff h, and_iff_right hne]
      exact or_iff_right fun hwritten => hwritten.2 rfl
  | cons c text ih =>
    rw [List.length_cons] at hroom
    have hstep : stepRight address = .ok (address + 1) :=
      Word.check_eq_ok_iff.mpr ⟨⟨by omega, by omega⟩, rfl⟩
    obtain ⟨written, hwrite, hascending, hholds, hframe⟩ :=
      ih (pairwise_insert h : (insert address (Text.code c) cells).Pairwise _)
        (by omega : Word.least ≤ address + 1) (by omega)
    refine ⟨written, ?_, hascending, ⟨?_, hholds⟩, ?_⟩
    · rw [writeFrom, hstep]
      exact hwrite
    · apply (hframe _ (.inl (by omega))).mpr
      exact (mem_insert_iff h).mpr (.inl ⟨rfl, code_ne_unset c⟩)
    · intro cell hout
      rw [List.length_cons] at hout
      have hne : cell.1 ≠ address := by omega
      rw [hframe cell (by omega), mem_insert_iff h, and_iff_right hne]
      exact or_iff_right fun hwritten => hne (congrArg Prod.fst hwritten.1)

/-- One turn of the reader, as if it looked up each cell. -/
theorem readFrom_eq (h : cells.Pairwise fun a b => a.1 < b.1) :
    readFrom address cells =
      (Text.scalar? (lookup address cells)).elim [] (· :: readFrom (address + 1) cells) := by
  induction cells with
  | nil => rfl
  | cons first rest ih =>
    obtain ⟨a, n⟩ := first
    obtain ⟨hfirst, hrest⟩ := List.pairwise_cons.mp h
    rw [readFrom, readFrom, lookup]
    split
    · rename_i hlt
      rw [if_neg (by omega : a ≠ address), if_pos (by omega : a < address + 1)]
      exact ih hrest
    · rename_i hle
      split
      · rename_i he
        rw [if_pos (by omega : a < address + 1)]
        cases Text.scalar? n <;> rfl
      · rename_i hne
        have hfree : address ∉ rest.map Prod.fst := by
          intro hmem
          obtain ⟨cell, hcell, rfl⟩ := List.mem_map.mp hmem
          have hafter := hfirst cell hcell
          dsimp only at hafter
          omega
        rw [lookup_of_notMem hfree]
        rfl

theorem HoldsText.readFrom_eq (h : cells.Pairwise fun a b => a.1 < b.1)
    (hholds : HoldsText cells address text) : readFrom address cells = text := by
  induction text generalizing address with
  | nil =>
    rw [Tape.readFrom_eq h, lookup_of_notMem hholds]
    rfl
  | cons c text ih =>
    obtain ⟨hmem, hrest⟩ := hholds
    rw [Tape.readFrom_eq h, lookup_of_mem h hmem, Text.scalar?_code, Option.elim, ih hrest]

theorem HoldsText.firstFree (hholds : HoldsText cells address text) :
    FirstFree (cells.map Prod.fst) 1 address (address + text.length) := by
  induction text generalizing address with
  | nil => exact (firstFree_of_notMem hholds).mpr (by simp)
  | cons c text ih =>
    obtain ⟨hmem, hrest⟩ := hholds
    rw [firstFree_of_mem (List.mem_map_of_mem hmem)]
    have hlength : address + (c :: text).length = address + 1 + text.length := by
      rw [List.length_cons]
      omega
    rw [hlength]
    exact ih hrest

end Cells

theorem nextRegister_of_holdsText {t : Tape} (h : t.cells.Pairwise fun a b => a.1 < b.1)
    {text : List Char} (hholds : HoldsText t.cells t.register text)
    (hlow : Word.least ≤ t.register) (hroom : t.register + text.length + 1 ≤ Word.greatest) :
    t.nextRegister = .ok { t with register := t.register + text.length + 1 } := by
  have hstep (a : Int) : stepRight a = Word.check .add (a + 1) := rfl
  have hskip : skipSet stepRight t.register t.addresses = .ok (t.register + text.length) := by
    rw [skipSet_eq_ok_iff hstep (.inl rfl) (pairwise_addresses h) ⟨hlow, by omega⟩]
    exact ⟨hholds.firstFree, by omega, by omega⟩
  have hnext : stepRight (t.register + text.length) = .ok (t.register + text.length + 1) :=
    Word.check_eq_ok_iff.mpr ⟨⟨by omega, by omega⟩, rfl⟩
  rw [nextRegister, hskip]
  dsimp only [bind, Except.bind]
  rw [hnext]
  rfl

/-- Whatever cells are stored in ascending order, a text that fits on the tape from the register
pointer on is written to as many cells and the one behind them, and to no other. It is read back,
and the move to the next register passes just this text. -/
theorem registers_hold_text (t : Tape) (h : t.cells.Pairwise fun a b => a.1 < b.1)
    (hregister : Word.Fits t.register) (text : List Char)
    (hroom : Word.Fits (t.register + text.length + 1)) :
    ∃ t', t.writeRegister text = .ok t' ∧
      t'.memory = t.memory ∧ t'.register = t.register ∧
      (∀ a, a < t.register ∨ t.register + text.length < a → t'.get a = t.get a) ∧
      t'.readRegister = text ∧
      t'.nextRegister = .ok { t' with register := t.register + text.length + 1 } := by
  obtain ⟨hlow, -⟩ := hregister
  obtain ⟨-, hhigh⟩ := hroom
  have hlast : t.register + text.length ≤ Word.greatest := by omega
  obtain ⟨written, hwrite, hascending, hholds, hframe⟩ := exists_writeFrom h hlow hlast
  refine ⟨{ t with cells := written }, ?_, rfl, rfl, ?_, ?_, ?_⟩
  · rw [writeRegister, hwrite]
    rfl
  · intro a hout
    exact lookup_congr hascending h fun value => hframe (a, value) hout
  · exact hholds.readFrom_eq hascending
  · exact nextRegister_of_holdsText hascending hholds hlow hhigh

/-- The zero character and one beyond the first 65536, over a longer register with a surrogate and a
huge number in it. -/
theorem registers_hold_text_over_longer :
    let t : Tape :=
      ⟨[(-3, 5), (-1, 97), (0, 0xD800), (1, 0x1000000000000000000), (2, 98), (3, 99)], 7, -1⟩
    let t' : Tape := ⟨[(-3, 5), (-1, 0), (0, 0x1F600), (2, 98), (3, 99)], 7, -1⟩
    t.cells.Pairwise (fun a b => a.1 < b.1) ∧ Word.Fits t.register ∧
    t.writeRegister ['\x00', '😀'] = .ok t' ∧
    t'.readRegister = ['\x00', '😀'] ∧
    t'.nextRegister = .ok { t' with register := 2 } := by
  intro t t'
  have hascending : t.cells.Pairwise fun a b => a.1 < b.1 := by decide
  have hfits : Word.Fits t.register := by decide
  have hwrite : t.writeRegister ['\x00', '😀'] = .ok t' := rfl
  obtain ⟨s, hs, -, -, -, hread, hnext⟩ :=
    registers_hold_text t hascending hfits ['\x00', '😀'] (by decide)
  obtain rfl : s = t' := Except.ok.inj (hs.symm.trans hwrite)
  exact ⟨hascending, hfits, hwrite, hread, hnext⟩

end Tape

end Gridwalk
