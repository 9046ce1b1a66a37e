/-! # UTF-8

Bytes are decoded from left to right. A sequence that cannot be completed counts as one faulty piece:
it ends before the first byte that does not continue it, and decoding resumes at that byte.
-/

namespace Gridwalk.Text.Utf8
set_option autoImplicit false

def replacement : Char := '�'

/-- An unfinished sequence: the value so far, the range of the next byte, and how many bytes follow
after that one. -/
structure Pending where
  value : Nat
  low : UInt8
  high : UInt8
  more : Nat

def isContinuation (b : UInt8) : Bool := 0x80 ≤ b && b ≤ 0xBF

/-- The pieces that a byte completes, a faulty one as `none`, and the sequence that it leaves
unfinished. -/
abbrev Progress := List (Option Char) × Option Pending

/-- Read a byte at the start of a sequence. A longer form of a shorter sequence, a surrogate, and a
value beyond the last code point are all ruled out by the range of the second byte. -/
def first (b : UInt8) : Progress :=
  let n := b.toNat
  if b < 0x80 then ([some (Char.ofNat n)], none)
  else if b < 0xC2 then ([none], none)
  else if b < 0xE0 then ([], some ⟨n - 0xC0, 0x80, 0xBF, 0⟩)
  else if b = 0xE0 then ([], some ⟨n - 0xE0, 0xA0, 0xBF, 1⟩)
  else if b = 0xED then ([], some ⟨n - 0xE0, 0x80, 0x9F, 1⟩)
  else if b < 0xF0 then ([], some ⟨n - 0xE0, 0x80, 0xBF, 1⟩)
  else if b = 0xF0 then ([], some ⟨n - 0xF0, 0x90, 0xBF, 2⟩)
  else if b < 0xF4 then ([], some ⟨n - 0xF0, 0x80, 0xBF, 2⟩)
  else if b = 0xF4 then ([], some ⟨n - 0xF0, 0x80, 0x8F, 2⟩)
  else ([none], none)

def next (p : Pending) (b : UInt8) : Progress :=
  if p.low ≤ b ∧ b ≤ p.high then
    let value := 64 * p.value + (b.toNat - 0x80)
    match p.more with
    | 0 => ([some (Char.ofNat value)], none)
    | k + 1 => ([], some ⟨value, 0x80, 0xBF, k⟩)
  else (none :: (first b).1, (first b).2)

def step : Option Pending → UInt8 → Progress
  | none, b => first b
  | some p, b => next p b

/-- The pieces of the bytes that follow an unfinished sequence, if there is one. -/
def scan : Option Pending → List UInt8 → List (Option Char)
  | none, [] => []
  | some _, [] => [none]
  | pending, b :: rest => (step pending b).1 ++ scan (step pending b).2 rest

def decodeLossy (bytes : List UInt8) : List Char := (scan none bytes).map (·.getD replacement)

def decode? (bytes : List UInt8) : Option (List Char) := (scan none bytes).mapM id

def encode (s : List Char) : List UInt8 := s.flatMap String.utf8EncodeChar

def announcedLength? (b : UInt8) : Option Nat :=
  if b < 0x80 then some 1
  else if b < 0xC0 then none
  else if b < 0xE0 then some 2
  else if b < 0xF0 then some 3
  else if b < 0xF8 then some 4
  else none

def takeContinuation : Nat → List UInt8 → List UInt8 × List UInt8
  | n + 1, b :: rest =>
    if isContinuation b then
      let (taken, left) := takeContinuation n rest
      (b :: taken, left)
    else ([], b :: rest)
  | _, bytes => ([], bytes)

def decodeOne (bytes : List UInt8) : Char :=
  match scan none bytes with
  | [some c] => c
  | _ => replacement

end Gridwalk.Text.Utf8
