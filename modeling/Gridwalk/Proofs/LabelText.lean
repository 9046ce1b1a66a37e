import Gridwalk.Proofs.Effects
import Gridwalk.Proofs.Labels

/-! # Text behind a label

A text written behind a label is read back from there, followed by what the grid spelled behind the
place of the text before. The writes may create or destroy other occurrences of the label, but none
before the one that was used.
-/

namespace Gridwalk
set_option autoImplicit false

open Act

/-- The characters of the cells from a position on, up to the first cell that is no character. -/
inductive Spelled (g : Grid) (v : Vec) : Vec → List Char → Prop where
  | stop {p : Vec} (h : Text.scalar? (g.get p) = none) : Spelled g v p []
  | next {p : Vec} {c : Char} {s : List Char} (h : Text.scalar? (g.get p) = some c)
    (rest : Spelled g v (p + v) s) : Spelled g v p (c :: s)

namespace Spelled

variable {g g' : Grid} {v p : Vec} {s t : List Char}

theorem unique (hs : Spelled g v p s) (ht : Spelled g v p t) : s = t := by
  induction hs generalizing t with
  | stop h =>
    cases ht with
    | stop _ => rfl
    | next h' _ => cases h.symm.trans h'
  | next h _ ih =>
    cases ht with
    | stop h' => cases h.symm.trans h'
    | next h' rest' =>
      cases h.symm.trans h'
      rw [ih rest']

theorem congr (hs : Spelled g v p s)
    (hagree : ∀ k : Nat, g'.get (p + v.scale k) = g.get (p + v.scale k)) : Spelled g' v p s := by
  induction hs with
  | stop h =>
    have hp := hagree 0
    rw [Vec.add_scale_zero] at hp
    exact .stop (hp ▸ h)
  | next h _ ih =>
    have hp := hagree 0
    rw [Vec.add_scale_zero] at hp
    refine .next (hp ▸ h) (ih fun k => ?_)
    simp only [Vec.add_add_scale]
    exact hagree (k + 1)

theorem append (hs : ∀ (i : Nat) (hi : i < s.length), g.get (p + v.scale i) = Text.code s[i])
    (ht : Spelled g v (p + v.scale s.length) t) : Spelled g v p (s ++ t) := by
  induction s generalizing p with
  | nil =>
    rw [List.length_nil, Vec.add_scale_zero] at ht
    exact ht
  | cons c s ih =>
    have hp := hs 0 (Nat.succ_pos _)
    rw [Vec.add_scale_zero] at hp
    refine .next (Text.scalar?_eq_some_iff.mpr hp) (ih (fun i hi => ?_) ?_)
    · rw [Vec.add_add_scale]
      exact hs (i + 1) (Nat.succ_lt_succ hi)
    · rw [Vec.add_add_scale]
      exact ht

end Spelled

theorem contains_of_scalar? {g : Grid} {q : Vec} (h : (Text.scalar? (g.get q)).isSome = true) :
    g.box.Contains q := by
  apply Grid.contains_of_get_ne_blank
  intro hblank
  rw [hblank] at h
  cases h

theorem spelled_spelledFrom {g : Grid} {v p : Vec} {n : Nat}
    (hend : ¬ ∀ i ≤ n, (Text.scalar? (g.get (p + v.scale i))).isSome = true) :
    Spelled g v p (spelledFrom g v n p) := by
  induction n generalizing p with
  | zero =>
    refine .stop (Option.not_isSome_iff_eq_none.mp fun h => hend fun i hi => ?_)
    rw [Nat.le_zero.mp hi, Vec.add_scale_zero]
    exact h
  | succ n ih =>
    rw [spelledFrom]
    cases hp : Text.scalar? (g.get p) with
    | none => exact .stop hp
    | some c =>
      refine .next hp (ih fun hall => hend fun i hi => ?_)
      cases i with
      | zero =>
        rw [Vec.add_scale_zero, hp]
        rfl
      | succ i =>
        have hi' := hall i (Nat.le_of_succ_le_succ hi)
        rw [Vec.add_add_scale] at hi'
        exact hi'

/-- A walk along a heading leaves the box after as many steps as the box is long, so reading sees
everything. -/
theorem spelled_spelledBehind (g : Grid) (h : Heading) (p : Vec) :
    Spelled g h.vec (p + h.vec) (spelledBehind g h.vec p) := by
  apply spelled_spelledFrom
  intro hall
  obtain ⟨h₁, h₂, h₃, h₄⟩ := contains_of_scalar? (hall 0 (Nat.zero_le _))
  obtain ⟨h₅, h₆, h₇, h₈⟩ := contains_of_scalar? (hall _ (Nat.le_refl _))
  have hX := g.box.high_x
  have hY := g.box.high_y
  simp only [Vec.scale, Vec.add_x, Vec.add_y, Grid.width, Grid.height] at *
  cases h <;> simp only [Heading.vec] at * <;> omega

theorem accepts_of_hasRoom {g : Grid} {p : Vec} {cell : Int} (h : HasRoom g p cell) :
    g.Accepts p cell := by
  rcases h with hblank | hin | ⟨width, height, hsize, -⟩
  · exact .inl hblank
  · refine .inr ?_
    rw [Grid.sizeCovering?, if_pos (.inl hin)]
    rfl
  · refine .inr ?_
    rw [hsize]
    rfl

theorem writeBehind_ok {h : Heading} {p : Vec} {s : List Char} {m m' : Machine}
    (hwrite : writeBehind h.vec p s m = .ok () m') :
    m' = { m with grid := m'.grid } ∧
    (∀ (i : Nat) (hi : i < s.length), m'.grid.get (p + h.vec.scale (i + 1)) = Text.code s[i]) ∧
    ∀ q, (∀ i < s.length, q ≠ p + h.vec.scale (i + 1)) → m'.grid.get q = m.grid.get q := by
  induction s generalizing p m with
  | nil =>
    cases hwrite
    exact ⟨rfl, fun i hi => absurd hi (Nat.not_lt_zero i), fun q _ => rfl⟩
  | cons c rest ih =>
    have hroom : HasRoom m.grid (p + h.vec) (Text.code c) := by
      by_contra hroom
      rw [writeBehind, bind_of_error (writeCell_of_not_hasRoom hroom)] at hwrite
      cases hwrite
    rw [writeBehind, bind_of_ok (writeCell_of_hasRoom hroom)] at hwrite
    obtain ⟨hsame, hwritten, hkept⟩ := ih hwrite
    have hset := Grid.get_set_of_accepts (accepts_of_hasRoom hroom)
    dsimp only at hkept
    simp only [Vec.add_add_scale] at hwritten hkept
    refine ⟨hsame, fun i hi => ?_, fun q hq => ?_⟩
    · cases i with
      | zero =>
        rw [Int.natCast_zero, Int.zero_add, Vec.add_scale_one, hkept, hset, if_pos rfl]
        · rfl
        · intro i _ he
          rw [← Vec.add_scale_one] at he
          have hi := h.add_scale_injective p he
          omega
      | succ i => exact hwritten i (Nat.lt_of_succ_lt_succ hi)
    · rw [hkept q fun i hi => hq (i + 1) (Nat.succ_lt_succ hi), hset, if_neg]
      have hfirst := hq 0 (Nat.succ_pos _)
      rwa [Int.natCast_zero, Int.zero_add, Vec.add_scale_one] at hfirst

theorem spelled_of_written {g g' : Grid} {h : Heading} {p : Vec} {s t : List Char}
    (hwritten : ∀ (i : Nat) (hi : i < s.length), g'.get (p + h.vec.scale (i + 1)) = Text.code s[i])
    (hkept : ∀ q, (∀ i < s.length, q ≠ p + h.vec.scale (i + 1)) → g'.get q = g.get q)
    (ht : Spelled g h.vec (p + h.vec.scale (s.length + 1)) t) :
    Spelled g' h.vec (p + h.vec) (s ++ t) := by
  apply Spelled.append
  · intro i hi
    rw [Vec.add_add_scale]
    exact hwritten i hi
  · rw [Vec.add_add_scale]
    refine ht.congr fun k => hkept _ fun i hi he => ?_
    rw [Vec.add_scale_add_scale] at he
    have hik := h.add_scale_injective p he
    omega

theorem popText_of_stack {m : Machine} {v : Value} {below : Stack} (h : m.stack = v :: below) :
    popText m = .ok v.chars { m with stack := below } := by
  change EStateM.Result.ok m.stack.popText.1 { m with stack := m.stack.popText.2 } = _
  rw [h]
  rfl

theorem popLabelEnd?_of_stack {m : Machine} {name : Value} {below : Stack} {found : Option Vec}
    (h : m.stack = name :: below)
    (hend : Label.end? m.grid (Text.codes name.chars) m.heading = found) :
    popLabelEnd? m = .ok found { m with stack := below } := by
  rw [popLabelEnd?, bind_of_ok (popText_of_stack h), ← hend]
  rfl

theorem perform_writeAfterLabel {m : Machine} {text name : Value} {below : Stack}
    (hstack : m.stack = text :: name :: below) {p : Vec}
    (hend : Label.end? m.grid (Text.codes name.chars) m.heading = some p) :
    Ordinal.writeAfterLabel.perform m =
      writeBehind m.heading.vec p text.chars { m with stack := below } := by
  have hfound : popLabelEnd? { m with stack := name :: below } =
      .ok (some p) { m with stack := below } := popLabelEnd?_of_stack rfl hend
  rw [Ordinal.perform, bind_of_ok (popText_of_stack hstack), bind_of_ok hfound]
  rfl

theorem perform_readAfterLabel {m : Machine} {name : Value} {below : Stack}
    (hstack : m.stack = name :: below) {p : Vec}
    (hend : Label.end? m.grid (Text.codes name.chars) m.heading = some p) :
    Ordinal.readAfterLabel.perform m = .ok ()
      { m with stack := .ofChars (spelledBehind m.grid m.heading.vec p) :: below } := by
  rw [Ordinal.perform, bind_of_ok (popLabelEnd?_of_stack hstack hend)]
  rfl

theorem blank_notMem_codes (s : List Char) : blank ∉ Text.codes s := by
  simp only [Text.codes, List.mem_map, not_exists, not_and]
  exact fun c _ => Grid.code_ne_blank c

/-- If a text can be written behind a label, then the first occurrence of the label stays where it
was, and reading behind the label gives the text, followed by what the grid spelled before the write
from the first cell behind the text on. -/
theorem read_after_write_behind_label {m m' : Machine} {text name : Value} {below : Stack}
    (hstack : m.stack = text :: name :: below) (hname : name.chars ≠ [])
    (hoccurs : ∃ q, Label.spells m.grid m.heading.vec q (Text.codes name.chars) = true)
    (hwrite : Ordinal.writeAfterLabel.perform m = .ok () m') :
    ∃ start behind,
      (Label.occurrences m.grid (Text.codes name.chars) m.heading).head? = some start ∧
      (Label.occurrences m'.grid (Text.codes name.chars) m.heading).head? = some start ∧
      Spelled m.grid m.heading.vec (start + m.heading.vec.scale (name.chars.length - 1) +
        m.heading.vec.scale (text.chars.length + 1)) behind ∧
      ∀ below', Ordinal.readAfterLabel.perform { m' with stack := name :: below' } =
        .ok () { m' with stack := .ofChars (text.chars ++ behind) :: below' } := by
  have hne : Text.codes name.chars ≠ [] := by simpa [Text.codes] using hname
  have hblank := blank_notMem_codes name.chars
  have hlength : (Text.codes name.chars).length = name.chars.length := List.length_map _
  obtain ⟨q, hq⟩ := hoccurs
  obtain ⟨start, hfirst⟩ := Label.exists_first hne hblank hq
  have hend := Label.end?_of_first hne hblank hfirst
  rw [hlength] at hend
  rw [perform_writeAfterLabel hstack hend] at hwrite
  obtain ⟨hsame, hwritten, hkept⟩ := writeBehind_ok hwrite
  have hbehind (k : Nat) :
      start + m.heading.vec.scale (name.chars.length - 1) + m.heading.vec.scale (k + 1) =
        start + m.heading.vec.scale ((name.chars.length + k : Nat) : Int) := by
    rw [Vec.add_scale_add_scale]
    congr 2
    omega
  have hfirst' : Label.First m'.grid (Text.codes name.chars) m.heading start := by
    refine hfirst.of_agree fun r hr => hkept r fun i _ => ?_
    rw [hbehind]
    exact hr (name.chars.length + i) (by omega)
  have hend' := Label.end?_of_first hne hblank hfirst'
  rw [hlength] at hend'
  have hheading : m'.heading = m.heading := by rw [hsame]; rfl
  have hrest := spelled_spelledBehind m.grid m.heading
    (start + m.heading.vec.scale (name.chars.length - 1) + m.heading.vec.scale text.chars.length)
  rw [← Vec.add_scale_one _ m.heading.vec, Vec.add_scale_add_scale _ _ _ 1] at hrest
  refine ⟨start, _, (Label.head?_occurrences_iff hne hblank).mpr hfirst,
    (Label.head?_occurrences_iff hne hblank).mpr hfirst', hrest, fun below' => ?_⟩
  have hread : spelledBehind m'.grid m.heading.vec
      (start + m.heading.vec.scale (name.chars.length - 1)) = text.chars ++ _ :=
    (spelled_spelledBehind m'.grid m.heading _).unique (spelled_of_written hwritten hkept hrest)
  rw [← hread, ← hheading]
  exact perform_readAfterLabel rfl (hheading ▸ hend')

/-- In the row `abcd`, writing `aa` behind `a` makes three copies of the label, and reading behind
it gives `aad`. -/
theorem read_after_write_behind_label_copies :
    let m : Machine :=
      { Machine.load (.tabulate (.span ⟨0, 0⟩ ⟨3, 0⟩) fun p => Text.code 'a' + p.x) []
          (.ofBytes []) .empty .first "" with stack := [.text "aa", .text "a"] }
    ∃ m', Ordinal.writeAfterLabel.perform m = .ok () m' ∧
      ∀ below, Ordinal.readAfterLabel.perform { m' with stack := .text "a" :: below } =
        .ok () { m' with stack := .ofChars ['a', 'a', 'd'] :: below } := by
  intro m
  have hwrite : Ordinal.writeAfterLabel.perform m =
      .ok () (Ordinal.writeAfterLabel.perform.last m) :=
    eq_ok_last_of_run' (by decide +kernel)
  have hname : (Value.text "a").chars ≠ [] := by decide +kernel
  have hoccurs :
      Label.spells m.grid m.heading.vec ⟨0, 0⟩ (Text.codes (Value.text "a").chars) = true := by
    decide +kernel
  have hhead : (Label.occurrences m.grid (Text.codes (Value.text "a").chars) m.heading).head? =
      some ⟨0, 0⟩ := by
    decide +kernel
  obtain ⟨start, behind, hstart, -, hbehind, hread⟩ :=
    read_after_write_behind_label rfl hname ⟨_, hoccurs⟩ hwrite
  cases hhead.symm.trans hstart
  have hd : Spelled m.grid m.heading.vec ⟨3, 0⟩ ['d'] :=
    .next (by decide +kernel) (.stop (by decide +kernel))
  cases hbehind.unique hd
  exact ⟨_, hwrite, hread⟩

end Gridwalk
