import Gridwalk.Stream
import Mathlib.Data.List.TakeDrop

/-! # Streams only go forwards

Every reader takes bytes from the front of the input and every write adds bytes at the end of the
output, also when the stream fails halfway. Which bytes these are is not said here.
-/

namespace Gridwalk
set_option autoImplicit false

section Left

variable {σ α β : Type}

def left (use : EStateM StreamFault σ α) (s : σ) : σ :=
  match use s with
  | .ok _ s' => s'
  | .error _ s' => s'

theorem use_bind_of_ok {x : EStateM StreamFault σ α} {f : α → EStateM StreamFault σ β} {s s' : σ}
    {a : α} (h : x s = .ok a s') : (x >>= f) s = f a s' := by
  simp only [bind, EStateM.bind, h]

theorem use_get_bind (f : σ → EStateM StreamFault σ β) (s : σ) : (get >>= f) s = f s s := rfl

theorem left_bind (x : EStateM StreamFault σ α) (f : α → EStateM StreamFault σ β) (s : σ) :
    left (x >>= f) s =
      match x s with
      | .ok a s' => left (f a) s'
      | .error _ s' => s' := by
  simp only [left, bind, EStateM.bind]
  cases x s <;> rfl

end Left

namespace Input

variable {α β : Type}

def Consumes (reader : Reader α) : Prop := ∀ i, (left reader i).unread <:+ i.unread

theorem Consumes.pure (a : α) : Consumes (Pure.pure a) := fun i => List.suffix_refl i.unread

theorem Consumes.bind {x : Reader α} {f : α → Reader β} (hx : Consumes x)
    (hf : ∀ a, Consumes (f a)) : Consumes (x >>= f) := by
  intro i
  have hfirst := hx i
  rw [left_bind]
  unfold left at hfirst
  cases h : x i with
  | ok a i' =>
    rw [h] at hfirst
    exact (hf a i').trans hfirst
  | error cause i' =>
    rw [h] at hfirst
    exact hfirst

theorem Consumes.get_bind {f : Input → Reader β}
    (hf : ∀ i, (left (f i) i).unread <:+ i.unread) : Consumes (get >>= f) := hf

theorem consumes_atEnd : Consumes atEnd := by
  intro i
  unfold left atEnd
  cases i.fails <;> exact List.nil_suffix

theorem consumes_byte : Consumes byte := by
  refine .get_bind fun i => ?_
  obtain ⟨unread, fails⟩ := i
  cases unread with
  | nil => exact consumes_atEnd.bind (fun _ => .pure none) ⟨[], fails⟩
  | cons b rest => exact List.suffix_cons b rest

theorem takeContinuation_suffix (n : Nat) (bytes : List UInt8) :
    (Text.Utf8.takeContinuation n bytes).2 <:+ bytes := by
  fun_induction Text.Utf8.takeContinuation n bytes with
  | case1 n b rest hb taken rest' htaken ih =>
    rw [htaken] at ih
    exact ih.trans (List.suffix_cons b rest)
  | case2 => exact List.suffix_refl _
  | case3 => exact List.suffix_refl _

theorem consumes_char : Consumes char := by
  refine consumes_byte.bind fun b => ?_
  cases b with
  | none => exact .pure _
  | some b =>
    dsimp only
    cases Text.Utf8.announcedLength? b with
    | none => exact .pure _
    | some length =>
      refine .get_bind fun i => ?_
      have htake := takeContinuation_suffix (length - 1) i.unread
      generalize Text.Utf8.takeContinuation (length - 1) i.unread = split at htake ⊢
      obtain ⟨taken, rest⟩ := split
      have hrest : Consumes (if taken.length < length - 1 ∧ rest.isEmpty then do
            atEnd
            return some (Text.Utf8.decodeOne (b :: taken))
          else return some (Text.Utf8.decodeOne (b :: taken))) := by
        split
        · exact consumes_atEnd.bind fun _ => .pure _
        · exact .pure _
      exact (hrest { i with unread := rest }).trans htake

theorem consumes_line : Consumes line := by
  refine .get_bind fun i => ?_
  have hafter : (i.unread.span (· != 0x0A)).2 <:+ i.unread := by
    rw [List.span_eq_takeWhile_dropWhile]
    exact List.dropWhile_suffix _
  dsimp only
  generalize i.unread.span (· != 0x0A) = split at hafter ⊢
  obtain ⟨before, after⟩ := split
  cases after with
  | nil => exact consumes_atEnd.bind (fun _ => .pure _) i
  | cons b rest => exact (List.suffix_cons b rest).trans hafter

theorem consumes_all : Consumes all := by
  refine .get_bind fun i => ?_
  exact consumes_atEnd.bind (fun _ => .pure _) i

end Input

namespace Output

/-- The output after some writes: more bytes, and the same answer to a flush. -/
structure Extends (o o' : Output) : Prop where
  written : o.written.toList <+: o'.written.toList
  flushFails : o'.flushFails = o.flushFails

theorem Extends.refl (o : Output) : o.Extends o := ⟨List.prefix_refl _, rfl⟩

theorem Extends.trans {o o' o'' : Output} (h : o.Extends o') (h' : o'.Extends o'') :
    o.Extends o'' :=
  ⟨h.written.trans h'.written, h'.flushFails.trans h.flushFails⟩

theorem write_of_room_none {o : Output} (h : o.room = none) (bytes : List UInt8) :
    write bytes o = .ok () { o with written := o.written ++ bytes } := by
  obtain ⟨⟩ := o
  cases h
  rfl

theorem extends_write (bytes : List UInt8) (o : Output) : o.Extends (left (write bytes) o) := by
  unfold left write
  cases o.room with
  | none => exact ⟨by simp, rfl⟩
  | some room =>
    by_cases hroom : bytes.length ≤ room
    · simp only [if_pos hroom]
      exact ⟨by simp, rfl⟩
    · simp only [if_neg hroom]
      exact ⟨by simp, rfl⟩

end Output

end Gridwalk
