import Gridwalk.Text.Utf8
import Mathlib.Data.List.Induction

/-! # What is encoded is decoded

The sequence of a character is its first byte, which announces the length, and then continuation
bytes only. The scan reads it back to the character, whatever follows. In particular a byte below
0x80 is a character by itself and never a part of one. Faulty bytes are not considered here.
-/

namespace Gridwalk.Text.Utf8
set_option autoImplicit false

section Bytes

variable {b : UInt8}

theorem isContinuation_iff_between : isContinuation b = true ↔ 0x80 ≤ b ∧ b ≤ 0xBF := by
  rw [isContinuation, Bool.and_eq_true, decide_eq_true_iff, decide_eq_true_iff]

theorem isContinuation_iff : isContinuation b = true ↔ 0x80 ≤ b.toNat ∧ b.toNat ≤ 0xBF := by
  simp only [isContinuation_iff_between, UInt8.le_iff_toNat_le, UInt8.reduceToNat]

theorem announcedLength?_eq : announcedLength? b =
    if b.toNat < 0x80 then some 1 else if b.toNat < 0xC0 then none
    else if b.toNat < 0xE0 then some 2 else if b.toNat < 0xF0 then some 3
    else if b.toNat < 0xF8 then some 4 else none := by
  simp only [announcedLength?, UInt8.lt_iff_toNat_lt, UInt8.reduceToNat]

theorem isContinuation_of_announcedLength? {n : Nat} (h : announcedLength? b = some n) :
    isContinuation b = false := by
  rw [Bool.eq_false_iff, Ne, isContinuation_iff]
  rw [announcedLength?_eq] at h
  grind

theorem first_one (h : b.toNat < 0x80) : first b = ([some (Char.ofNat b.toNat)], none) := by
  simp only [first, UInt8.lt_iff_toNat_lt, UInt8.reduceToNat, if_pos h]

theorem first_two (h : 0xC2 ≤ b.toNat) (h' : b.toNat < 0xE0) :
    first b = ([], some ⟨b.toNat - 0xC0, 0x80, 0xBF, 0⟩) := by
  simp only [first, UInt8.lt_iff_toNat_lt, UInt8.reduceToNat]
  grind

theorem first_three (h : 0xE0 ≤ b.toNat) (h' : b.toNat < 0xF0) :
    first b = ([], some ⟨b.toNat - 0xE0, if b.toNat = 0xE0 then 0xA0 else 0x80,
      if b.toNat = 0xED then 0x9F else 0xBF, 1⟩) := by
  simp only [first, UInt8.lt_iff_toNat_lt, ← UInt8.toNat_inj, UInt8.reduceToNat]
  grind

theorem first_four (h : 0xF0 ≤ b.toNat) (h' : b.toNat ≤ 0xF4) :
    first b = ([], some ⟨b.toNat - 0xF0, if b.toNat = 0xF0 then 0x90 else 0x80,
      if b.toNat = 0xF4 then 0x8F else 0xBF, 2⟩) := by
  simp only [first, UInt8.lt_iff_toNat_lt, ← UInt8.toNat_inj, UInt8.reduceToNat]
  grind

end Bytes

def extend (value : Nat) (tail : List UInt8) : Nat :=
  tail.foldl (fun value b => 64 * value + (b.toNat - 0x80)) value

theorem extend_nil (value : Nat) : extend value [] = value := rfl

theorem extend_cons (value : Nat) (b : UInt8) (tail : List UInt8) :
    extend value (b :: tail) = extend (64 * value + (b.toNat - 0x80)) tail := by
  rw [extend, List.foldl_cons, ← extend]

theorem scan_tail {b low high : UInt8} (h : low ≤ b ∧ b ≤ high) {tail : List UInt8}
    (htail : ∀ b ∈ tail, isContinuation b = true) (value : Nat) (rest : List UInt8) :
    scan (some ⟨value, low, high, tail.length⟩) (b :: (tail ++ rest)) =
      some (Char.ofNat (extend value (b :: tail))) :: scan none rest := by
  induction tail generalizing b low high value with
  | nil =>
    rw [List.length_nil, List.nil_append, scan, step, next, if_pos h, extend_cons, extend_nil,
      List.singleton_append]
  | cons b' tail ih =>
    have hb' := isContinuation_iff_between.mp (htail b' List.mem_cons_self)
    rw [List.length_cons, List.cons_append, scan, step, next, if_pos h, extend_cons,
      List.nil_append]
    exact ih hb' (fun b hb => htail b (List.mem_cons_of_mem b' hb)) _

/-- What the readers need to know about the bytes of a character: the first one announces the others,
and the scan makes the character of them. -/
structure IsSequence (c : Char) (lead : UInt8) (tail : List UInt8) : Prop where
  announced : announcedLength? lead = some (tail.length + 1)
  continuation : ∀ b ∈ tail, isContinuation b = true
  scan : ∀ rest, scan none (lead :: (tail ++ rest)) = some c :: scan none rest

theorem IsSequence.of_first {c : Char} {lead b low high : UInt8} {value : Nat} {tail : List UInt8}
    (hfirst : first lead = ([], some ⟨value, low, high, tail.length⟩))
    (hannounced : announcedLength? lead = some (tail.length + 2)) (hrange : low ≤ b ∧ b ≤ high)
    (htail : ∀ b' ∈ b :: tail, isContinuation b' = true)
    (hvalue : extend value (b :: tail) = c.toNat) : IsSequence c lead (b :: tail) := by
  refine ⟨hannounced, htail, fun rest => ?_⟩
  have hscan := scan_tail hrange (fun b' hb' => htail b' (List.mem_cons_of_mem b hb')) value rest
  rw [Utf8.scan, step, hfirst, List.nil_append, List.cons_append, hscan, hvalue, Char.ofNat_toNat]

section Lengths

variable {c : Char} {b₁ b₂ b₃ b₄ : UInt8}

theorem isSequence_one (h₁ : b₁.toNat = c.toNat) (hc : c.toNat < 0x80) : IsSequence c b₁ [] := by
  refine ⟨?_, fun b hb => absurd hb List.not_mem_nil, fun rest => ?_⟩
  · rw [announcedLength?_eq, if_pos (by omega), List.length_nil]
  · rw [List.nil_append, scan, step, first_one (by omega), h₁, Char.ofNat_toNat,
      List.singleton_append]

theorem isSequence_two (h₁ : b₁.toNat = c.toNat / 64 + 0xC0) (h₂ : b₂.toNat = c.toNat % 64 + 0x80)
    (hc : 0x80 ≤ c.toNat) (hc' : c.toNat < 0x800) : IsSequence c b₁ [b₂] := by
  have hb₂ : isContinuation b₂ = true := isContinuation_iff.mpr (by omega)
  have hannounced : announcedLength? b₁ = some 2 := by
    rw [announcedLength?_eq]
    grind
  refine .of_first (first_two (by omega) (by omega)) hannounced
    (isContinuation_iff_between.mp hb₂) (by simpa using hb₂) ?_
  simp only [extend_cons, extend_nil]
  omega

theorem isSequence_three (h₁ : b₁.toNat = c.toNat / 4096 + 0xE0)
    (h₂ : b₂.toNat = c.toNat / 64 % 64 + 0x80) (h₃ : b₃.toNat = c.toNat % 64 + 0x80)
    (hc : 0x800 ≤ c.toNat) (hc' : c.toNat < 0x10000) : IsSequence c b₁ [b₂, b₃] := by
  have hvalid : c.toNat < 0xD800 ∨ 0xDFFF < c.toNat ∧ c.toNat < 0x110000 := c.valid
  have hb₂ : isContinuation b₂ = true := isContinuation_iff.mpr (by omega)
  have hb₃ : isContinuation b₃ = true := isContinuation_iff.mpr (by omega)
  have hannounced : announcedLength? b₁ = some 3 := by
    rw [announcedLength?_eq]
    grind
  refine .of_first (first_three (by omega) (by omega)) hannounced ?_ (by simpa using ⟨hb₂, hb₃⟩) ?_
  · simp only [UInt8.le_iff_toNat_le]
    split_ifs <;> simp only [UInt8.reduceToNat] <;> omega
  · simp only [extend_cons, extend_nil]
    omega

theorem isSequence_four (h₁ : b₁.toNat = c.toNat / 262144 + 0xF0)
    (h₂ : b₂.toNat = c.toNat / 4096 % 64 + 0x80) (h₃ : b₃.toNat = c.toNat / 64 % 64 + 0x80)
    (h₄ : b₄.toNat = c.toNat % 64 + 0x80) (hc : 0x10000 ≤ c.toNat) :
    IsSequence c b₁ [b₂, b₃, b₄] := by
  have hvalid : c.toNat < 0xD800 ∨ 0xDFFF < c.toNat ∧ c.toNat < 0x110000 := c.valid
  have hb₂ : isContinuation b₂ = true := isContinuation_iff.mpr (by omega)
  have hb₃ : isContinuation b₃ = true := isContinuation_iff.mpr (by omega)
  have hb₄ : isContinuation b₄ = true := isContinuation_iff.mpr (by omega)
  have hannounced : announcedLength? b₁ = some 4 := by
    rw [announcedLength?_eq]
    grind
  refine .of_first (first_four (by omega) (by omega)) hannounced ?_
    (by simpa using ⟨hb₂, hb₃, hb₄⟩) ?_
  · simp only [UInt8.le_iff_toNat_le]
    split_ifs <;> simp only [UInt8.reduceToNat] <;> omega
  · simp only [extend_cons, extend_nil]
    omega

end Lengths

theorem exists_isSequence (c : Char) :
    ∃ lead tail, String.utf8EncodeChar c = lead :: tail ∧ IsSequence c lead tail := by
  have hvalid : c.toNat < 0xD800 ∨ 0xDFFF < c.toNat ∧ c.toNat < 0x110000 := c.valid
  have hbyte {n k : Nat} (h : n = k) (hk : k < 256) : (UInt8.ofNat n).toNat = k := by
    rw [h]
    exact UInt8.toNat_ofNat_of_lt' hk
  have hval : c.val.toNat = c.toNat := rfl
  unfold String.utf8EncodeChar
  simp only [hval]
  split_ifs
  · exact ⟨_, _, rfl, isSequence_one (hbyte rfl (by omega)) (by omega)⟩
  · exact ⟨_, _, rfl, isSequence_two (hbyte (by omega) (by omega)) (hbyte rfl (by omega))
      (by omega) (by omega)⟩
  · exact ⟨_, _, rfl, isSequence_three (hbyte (by omega) (by omega)) (hbyte rfl (by omega))
      (hbyte rfl (by omega)) (by omega) (by omega)⟩
  · exact ⟨_, _, rfl, isSequence_four (hbyte (by omega) (by omega)) (hbyte rfl (by omega))
      (hbyte rfl (by omega)) (hbyte rfl (by omega)) (by omega)⟩

/-! ## Texts -/

theorem encode_append (s t : List Char) : encode (s ++ t) = encode s ++ encode t :=
  List.flatMap_append

theorem scan_encode (s : List Char) : scan none (encode s) = s.map some := by
  induction s with
  | nil => rfl
  | cons c s ih =>
    obtain ⟨lead, tail, hc, hsequence⟩ := exists_isSequence c
    rw [encode, List.flatMap_cons, hc, ← encode, List.cons_append, hsequence.scan, ih,
      List.map_cons]

theorem decodeLossy_encode (s : List Char) : decodeLossy (encode s) = s := by
  rw [decodeLossy, scan_encode, List.map_map]
  exact List.map_id s

section Ascii

variable {b : UInt8} (hb : b.toNat < 0x80)
include hb

theorem scan_ascii (rest : List UInt8) :
    scan none (b :: rest) = some (Char.ofNat b.toNat) :: scan none rest := by
  rw [scan, step, first_one hb, List.singleton_append]

theorem IsSequence.eq_of_mem {c : Char} {lead : UInt8} {tail : List UInt8}
    (h : IsSequence c lead tail) (hmem : b ∈ lead :: tail) : c = Char.ofNat b.toNat := by
  rcases List.mem_cons.mp hmem with rfl | htail
  · have hscan := (h.scan []).symm.trans (scan_ascii hb _)
    exact Option.some.inj (List.cons.inj hscan).1
  · have hcontinuation := isContinuation_iff.mp (h.continuation b htail)
    omega

theorem of_mem_encode {s : List Char} (h : b ∈ encode s) : Char.ofNat b.toNat ∈ s := by
  obtain ⟨c, hc, hmem⟩ := List.mem_flatMap.mp h
  obtain ⟨lead, tail, hbytes, hsequence⟩ := exists_isSequence c
  rw [hbytes] at hmem
  rwa [← hsequence.eq_of_mem hb hmem]

theorem getLast?_of_encode {s : List Char} (h : (encode s).getLast? = some b) :
    s.getLast? = some (Char.ofNat b.toNat) := by
  cases s using List.reverseRecOn with
  | nil => cases h
  | append_singleton s c =>
    obtain ⟨lead, tail, hbytes, hsequence⟩ := exists_isSequence c
    have hencode : encode (s ++ [c]) = encode s ++ lead :: tail := by simp [encode, hbytes]
    have hlast : (lead :: tail).getLast? = some b := by
      simpa [hencode, List.getLast?_append, List.getLast?_cons] using h
    rw [List.getLast?_concat, hsequence.eq_of_mem hb (List.mem_of_getLast? hlast)]

end Ascii

end Gridwalk.Text.Utf8
