/-! # Texts as bags of characters

The bag commands count the characters of one text and take those of the other out of the count, from
the left. What is kept stays in its order.
-/

namespace Gridwalk.Text
set_option autoImplicit false

/-- How many of each character are left. The first entry of a character counts. -/
abbrev Bag := List (Char × Nat)

namespace Bag

def add (c : Char) : Bag → Bag
  | [] => [(c, 1)]
  | (d, n) :: rest => if d = c then (d, n + 1) :: rest else (d, n) :: add c rest

def ofText (s : List Char) : Bag := s.foldl (fun bag c => add c bag) []

def remove (c : Char) : Bag → Bool × Bag
  | [] => (false, [])
  | (d, n) :: rest =>
    if d = c then
      if 0 < n then (true, (d, n - 1) :: rest) else (false, (d, n) :: rest)
    else
      let (found, rest') := remove c rest
      (found, (d, n) :: rest')

end Bag

/-- Each character is taken out of the bag. Those found there are kept, or those not found. -/
def sift (kept : Bool) : Bag → List Char → List Char
  | _, [] => []
  | bag, c :: cs =>
    let (found, rest) := bag.remove c
    if found = kept then c :: sift kept rest cs else sift kept rest cs

def difference (a b : List Char) : List Char := sift false (Bag.ofText b) a

def intersection (a b : List Char) : List Char := sift true (Bag.ofText b) a

def union (a b : List Char) : List Char := a ++ difference b a

def symmetricDifference (a b : List Char) : List Char := difference a b ++ difference b a

def distinct (a : List Char) : List Char := a.eraseDups

def sort (a : List Char) : List Char := a.mergeSort fun c d => decide (c ≤ d)

/-- Each character that stands in `source` becomes the one at the same place of `target`, which is
repeated as often as needed. An empty target deletes the character. -/
def transliterate (a source target : List Char) : List Char :=
  a.filterMap fun c =>
    match source.idxOf? c with
    | none => some c
    | some i => target[i % target.length]?

end Gridwalk.Text
