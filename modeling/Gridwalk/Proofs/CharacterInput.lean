import Gridwalk.Proofs.Streams
import Gridwalk.Proofs.Utf8

/-! # Reading characters one by one

A reading takes one byte and the continuation bytes that this byte announces, as far as they are there.
So it never takes the first byte of a character that follows, whatever the bytes before were, and a
text is read back after any bytes. Which faults a faulty sequence has does not matter here.
-/

namespace Gridwalk
set_option autoImplicit false

namespace Text.Utf8

theorem first_of_announcedLength?_eq_none {b : UInt8} (h : announcedLength? b = none) :
    first b = ([none], none) := by
  rw [announcedLength?_eq] at h
  simp only [first, UInt8.lt_iff_toNat_lt, ← UInt8.toNat_inj, UInt8.reduceToNat]
  grind

theorem IsSequence.decodeOne {c : Char} {lead : UInt8} {tail : List UInt8}
    (h : IsSequence c lead tail) : decodeOne (lead :: tail) = c := by
  have hscan := h.scan []
  rw [List.append_nil] at hscan
  simp only [Utf8.decodeOne, hscan]
  rfl

theorem takeContinuation_append {after : List UInt8}
    (hafter : ∀ b ∈ after.head?, isContinuation b = false) (n : Nat) (bytes : List UInt8) :
    takeContinuation n (bytes ++ after) =
      ((takeContinuation n bytes).1, (takeContinuation n bytes).2 ++ after) := by
  induction bytes generalizing n with
  | nil =>
    cases after with
    | nil => cases n <;> rfl
    | cons b rest =>
      have hb := hafter b rfl
      cases n <;> simp [takeContinuation, hb]
  | cons b bytes ih =>
    cases n with
    | zero => rfl
    | succ n =>
      rw [List.cons_append, takeContinuation, takeContinuation, ih]
      split <;> rfl

theorem takeContinuation_length {tail : List UInt8} (h : ∀ b ∈ tail, isContinuation b = true)
    (rest : List UInt8) : takeContinuation tail.length (tail ++ rest) = (tail, rest) := by
  induction tail with
  | nil => cases rest <;> rfl
  | cons b tail ih =>
    rw [List.length_cons, List.cons_append, takeContinuation, if_pos (h b List.mem_cons_self),
      ih fun b' hb' => h b' (List.mem_cons_of_mem b hb')]

def announcedTail (b : UInt8) (bytes : List UInt8) : List UInt8 × List UInt8 :=
  takeContinuation ((announcedLength? b).getD 1 - 1) bytes

theorem announcedTail_append {after : List UInt8}
    (hafter : ∀ b ∈ after.head?, isContinuation b = false) (b : UInt8) (bytes : List UInt8) :
    announcedTail b (bytes ++ after) =
      ((announcedTail b bytes).1, (announcedTail b bytes).2 ++ after) :=
  takeContinuation_append hafter _ bytes

theorem IsSequence.announcedTail {c : Char} {lead : UInt8} {tail : List UInt8}
    (h : IsSequence c lead tail) (rest : List UInt8) :
    announcedTail lead (tail ++ rest) = (tail, rest) := by
  rw [Utf8.announcedTail, h.announced]
  exact takeContinuation_length h.continuation rest

theorem head?_encode (s : List Char) : ∀ b ∈ (encode s).head?, isContinuation b = false := by
  cases s with
  | nil =>
    rintro b ⟨⟩
  | cons c s =>
    obtain ⟨lead, tail, hc, hsequence⟩ := exists_isSequence c
    rw [encode, List.flatMap_cons, hc]
    rintro b ⟨⟩
    exact isContinuation_of_announcedLength? hsequence.announced

end Text.Utf8

theorem Output.write_each {o : Output} (h : o.room = none) (s : List Char) :
    s.forM (fun c => write (Text.Utf8.encode [c])) o =
      .ok () { o with written := o.written ++ Text.Utf8.encode s } := by
  induction s generalizing o with
  | nil =>
    have hnil : o.written ++ Text.Utf8.encode [] = o.written := by simp [Text.Utf8.encode]
    rw [hnil]
    rfl
  | cons c s ih =>
    have hbytes : o.written ++ Text.Utf8.encode [c] ++ Text.Utf8.encode s =
        o.written ++ Text.Utf8.encode (c :: s) := by
      apply Array.toList_inj.mp
      simp [Text.Utf8.encode]
    refine (use_bind_of_ok (write_of_room_none h _)).trans ?_
    rw [ih]
    · dsimp only
      rw [hbytes]
    · exact h

namespace Input

open Text Text.Utf8

theorem char_nil : char (ofBytes []) = .ok none (ofBytes []) := rfl

theorem char_cons (b : UInt8) (bytes : List UInt8) :
    char (ofBytes (b :: bytes)) = .ok (some (decodeOne (b :: (announcedTail b bytes).1)))
      (ofBytes (announcedTail b bytes).2) := by
  have hbyte : byte (ofBytes (b :: bytes)) = .ok (some b) (ofBytes bytes) := rfl
  rw [char, use_bind_of_ok hbyte, announcedTail]
  dsimp only
  cases h : announcedLength? b with
  | none =>
    have hfaulty : decodeOne [b] = replacement := by
      rw [decodeOne, scan, step, first_of_announcedLength?_eq_none h]
      rfl
    have hzero : takeContinuation 0 bytes = ([], bytes) := by cases bytes <;> rfl
    rw [Option.getD_none, Nat.sub_self, hzero, hfaulty]
    rfl
  | some length =>
    have hmodify : (modify fun i : Input => { i with
        unread := (takeContinuation (length - 1) bytes).2 } : Reader PUnit) (ofBytes bytes) =
        .ok () (ofBytes (takeContinuation (length - 1) bytes).2) := rfl
    dsimp only [Option.getD_some]
    rw [use_get_bind]
    refine (use_bind_of_ok hmodify).trans ?_
    split
    · rename_i hend
      have hrest : (takeContinuation (length - 1) bytes).2 = [] := List.isEmpty_iff.mp hend.2
      rw [hrest]
      rfl
    · rfl

theorem length_unread_lt {bytes : List UInt8} {c : Char} {i : Input}
    (h : char (ofBytes bytes) = .ok (some c) i) : i.unread.length < bytes.length := by
  cases bytes with
  | nil => cases h
  | cons b bytes =>
    rw [char_cons] at h
    cases h
    exact Nat.lt_succ_of_le (takeContinuation_suffix _ bytes).length_le

def drain (bytes : List UInt8) : List Char :=
  match _h : char (ofBytes bytes) with
  | .ok (some c) i => c :: drain i.unread
  | .ok none _ => []
  | .error _ _ => []
termination_by bytes.length
decreasing_by exact length_unread_lt _h

theorem drain_nil : drain [] = [] := by
  rw [drain]
  rfl

theorem drain_cons (b : UInt8) (bytes : List UInt8) :
    drain (b :: bytes) =
      decodeOne (b :: (announcedTail b bytes).1) :: drain (announcedTail b bytes).2 := by
  rw [drain]
  split
  · rename_i c i h
    rw [char_cons] at h
    cases h
    rfl
  · rename_i i h
    rw [char_cons] at h
    cases h
  · rename_i fault i h
    rw [char_cons] at h
    cases h

inductive Reads : Input → List Char → Input → Prop where
  | none (i : Input) : Reads i [] i
  | next {i i' i'' : Input} {c : Char} {s : List Char} (h : char i = .ok (some c) i')
    (rest : Reads i' s i'') : Reads i (c :: s) i''

theorem reads_drain {after : List UInt8} (hafter : ∀ b ∈ after.head?, isContinuation b = false)
    (bytes : List UInt8) : Reads (ofBytes (bytes ++ after)) (drain bytes) (ofBytes after) := by
  induction hlength : bytes.length using Nat.strongRecOn generalizing bytes with
  | ind n ih =>
    cases bytes with
    | nil =>
      rw [drain_nil]
      exact .none _
    | cons b bytes =>
      have hchar := char_cons b (bytes ++ after)
      rw [announcedTail_append hafter] at hchar
      have hshorter : (announcedTail b bytes).2.length < n := by
        rw [← hlength]
        exact Nat.lt_succ_of_le (takeContinuation_suffix _ bytes).length_le
      rw [drain_cons]
      exact .next hchar (ih _ hshorter _ rfl)

theorem reads_encode (s : List Char) (after : List UInt8) :
    Reads (ofBytes (encode s ++ after)) s (ofBytes after) := by
  induction s with
  | nil => exact .none _
  | cons c s ih =>
    obtain ⟨lead, tail, hc, hsequence⟩ := exists_isSequence c
    have hbytes : encode (c :: s) ++ after = lead :: (tail ++ (encode s ++ after)) := by
      rw [encode, List.flatMap_cons, hc, List.append_assoc, List.cons_append, ← encode]
    have hchar := char_cons lead (tail ++ (encode s ++ after))
    rw [hsequence.announcedTail, hsequence.decodeOne] at hchar
    rw [hbytes]
    exact .next hchar ih

theorem Reads.trans {i i' i'' : Input} {s t : List Char} (hs : Reads i s i') (ht : Reads i' t i'') :
    Reads i (s ++ t) i'' := by
  induction hs with
  | none => exact ht
  | next h _ ih => exact .next h (ih ht)

theorem Reads.unique {i : Input} {s t : List Char} (hs : Reads i s (ofBytes []))
    (ht : Reads i t (ofBytes [])) : s = t := by
  generalize hend : ofBytes [] = i' at hs
  induction hs generalizing t with
  | none i =>
    subst hend
    cases ht with
    | none => rfl
    | next h _ => cases h
  | next h _ ih =>
    cases ht with
    | none => cases h
    | next h' rest =>
      cases h.symm.trans h'
      rw [ih rest hend]

/-- Readings of any bytes come to an end, and a text that follows the bytes is then read as it is: what
the bytes give does not depend on it, and no reading takes a byte of it before. In particular a text
that is written character by character is read back. -/
theorem text_is_read_after_any_bytes :
    (∀ bytes, Reads (ofBytes bytes) (drain bytes) (ofBytes [])) ∧
    char (ofBytes []) = .ok none (ofBytes []) ∧
    (∀ (bytes : List UInt8) (s : List Char),
      Reads (ofBytes (bytes ++ encode s)) (drain bytes) (ofBytes (encode s)) ∧
      drain (bytes ++ encode s) = drain bytes ++ s) ∧
    ∀ s : List Char, ∃ o, s.forM (fun c => Output.write (encode [c])) .empty = .ok () o ∧
      drain o.written.toList = s := by
  have hends (bytes : List UInt8) : Reads (ofBytes bytes) (drain bytes) (ofBytes []) := by
    have hnothing : ∀ b ∈ ([] : List UInt8).head?, isContinuation b = false := by
      rintro b ⟨⟩
    have hreads := reads_drain hnothing bytes
    rwa [List.append_nil] at hreads
  have htext (s : List Char) : Reads (ofBytes (encode s)) s (ofBytes []) := by
    have hreads := reads_encode s []
    rwa [List.append_nil] at hreads
  refine ⟨hends, char_nil, fun bytes s => ?_, fun s => ?_⟩
  · have hbefore := reads_drain (head?_encode s) bytes
    exact ⟨hbefore, (hends _).unique (hbefore.trans (htext s))⟩
  · refine ⟨_, Output.write_each rfl s, ?_⟩
    have hwritten : (Output.empty.written ++ encode s).toList = encode s := by
      simp [Output.empty]
    rw [hwritten]
    exact (hends _).unique (htext s)

example : char (ofBytes [0xED, 0xA0, 0x80, 0x41]) = .ok (some replacement) (ofBytes [0x41]) := rfl

end Input

end Gridwalk
