import Gridwalk.Proofs.StraightLine

/-! # Programs that print

A literal captures the characters on the way, and a quote in it takes the next one as it is. Every
text without a line break can so be written into a literal, and there is a program that prints it.
-/

namespace Gridwalk
set_option autoImplicit false

open Act

/-- A character of a text as it is written in a literal. A quote stands before the characters that
would end the literal, quote the next one or bend the walk. -/
def escapedChar (c : Char) : List Char :=
  if c ∈ ['\x22', '\x27', '/', '\\', '_', '|'] then ['\x27', c] else [c]

def escaped (s : List Char) : List Char := s.flatMap escapedChar

def printer (s : List Char) : String := rowProgram .ordinal ('\x22' :: escaped s ++ ['\x22', 'o'])

theorem notMem_escaped {s : List Char} (h : '\n' ∉ s) : '\n' ∉ escaped s := by
  intro hmem
  obtain ⟨c, hc, hmem⟩ := List.mem_flatMap.mp hmem
  rw [escapedChar] at hmem
  split at hmem <;> simp only [List.mem_cons, List.not_mem_nil, or_false] at hmem
  · obtain hmem | rfl := hmem
    · cases hmem
    · exact h hc
  · exact h (hmem ▸ hc)

theorem Text.code_inj {c d : Char} : code c = code d ↔ c = d := by
  rw [code, code, Int.natCast_inj, Char.toNat_inj]

section LiteralCell

variable {m m' : Machine} {captured : Array Int}

theorem literalCell_of_char {c : Char} (hclose : c ≠ '\x22') (hquote : c ≠ '\x27') :
    literalCell captured (Text.code c) m =
      .ok () { m with literal := some (captured.push (Text.code c)) } := by
  have hclose' : Text.code c ≠ Text.code Shared.openLiteral.glyph := mt Text.code_inj.mp hclose
  have hquote' : Text.code c ≠ Text.code Shared.quoteNext.glyph := mt Text.code_inj.mp hquote
  rw [literalCell, if_neg hclose', if_neg hquote']
  rfl

theorem literalCell_of_quote {cell : Int} (h : takeCell m = .ok cell m') :
    literalCell captured (Text.code '\x27') m =
      .ok () { m' with literal := some (captured.push cell) } := by
  have hclose : Text.code '\x27' ≠ Text.code Shared.openLiteral.glyph := by decide
  have hquote : Text.code '\x27' = Text.code Shared.quoteNext.glyph := rfl
  rw [literalCell, if_neg hclose, if_pos hquote, bind_of_ok h]
  rfl

theorem literalCell_of_close :
    literalCell captured (Text.code '\x22') m =
      repeated (pushAll (literalValues m.mode captured.toList)) { m with literal := none } := by
  have hclose : Text.code '\x22' = Text.code Shared.openLiteral.glyph := rfl
  rw [literalCell, if_pos hclose]
  rfl

end LiteralCell

section Literal

variable {m m' : Machine} {mode : Mode} {before rest : List Char} {c : Char} {captured : Array Int}

theorem Machine.Facing.runsOn_literalCell (h : m.Facing mode before (c :: rest))
    (hdone : m.done = false) (hliteral : m.literal = some captured)
    (hc : Terrain.ofCell? (Text.code c) = none)
    (hact : literalCell captured (Text.code c) { m with pose := .inRow mode before.length } =
      .ok () m') : RunsOn 1 m { m' with tick := m'.tick + 1 } := by
  have hseek := seekCommand_literal h (hliteral ▸ rfl) hc
  have hcell : Machine.cell { m with pose := .inRow mode before.length } = Text.code c := h.get
  refine .of_execute hdone hseek ?_
  rw [executeCell_of_literal (m := { m with pose := .inRow mode before.length }) hliteral, hcell]
  exact hact

theorem Machine.Facing.runsOn_escapedChar (h : m.Facing mode before (escapedChar c ++ rest))
    (hdone : m.done = false) (hliteral : m.literal = some captured) :
    RunsOn 1 m { m with
      pose := .inRow mode ((before ++ escapedChar c).length - 1)
      literal := some (captured.push (Text.code c))
      tick := m.tick + 1 } := by
  by_cases hspecial : c ∈ ['\x22', '\x27', '/', '\\', '_', '|']
  · rw [escapedChar, if_pos hspecial] at h ⊢
    have hnext : Machine.Facing { m with pose := .inRow mode before.length } mode
        (before ++ ['\x27']) (c :: rest) := h.pass_one rfl rfl
    rw [List.append_cons, Pose.inRow_concat]
    exact h.runsOn_literalCell hdone hliteral (by decide) (literalCell_of_quote (takeCell_row hnext))
  · rw [escapedChar, if_neg hspecial] at h ⊢
    simp only [List.mem_cons, List.not_mem_nil, or_false, not_or] at hspecial
    obtain ⟨hclose, hquote, hterrain⟩ := hspecial
    have hc : Terrain.ofCell? (Text.code c) = none := by
      by_contra hsome
      obtain ⟨t, ht⟩ := Option.ne_none_iff_exists'.mp hsome
      obtain rfl := Terrain.eq_glyph_of_ofCell? ht
      revert hterrain
      cases t <;> decide
    rw [Pose.inRow_concat]
    exact h.runsOn_literalCell hdone hliteral hc (literalCell_of_char hclose hquote)

theorem Machine.Facing.runsOn_escaped {s : List Char} (h : m.Facing mode before (escaped s ++ rest))
    (hdone : m.done = false) (hliteral : m.literal = some captured) :
    RunsOn s.length m { m with
      pose := .inRow mode ((before ++ escaped s).length - 1)
      literal := some (captured ++ Text.codes s)
      tick := m.tick + s.length } := by
  induction s generalizing m before captured with
  | nil =>
    have hplace : m.pose = .inRow mode ((before ++ escaped []).length - 1) := by
      rw [show escaped [] = [] from rfl, List.append_nil, h.pose]
    have hcaptured : m.literal = some (captured ++ Text.codes []) := by
      rw [show Text.codes [] = [] from rfl, Array.appendList_nil, hliteral]
    rw [← hplace, ← hcaptured]
    exact .refl m
  | cons c s ih =>
    have hsplit : m.Facing mode before (escapedChar c ++ (escaped s ++ rest)) := by
      rwa [escaped, List.flatMap_cons, List.append_assoc] at h
    have hfirst := hsplit.runsOn_escapedChar hdone hliteral
    have hnext : Machine.Facing { m with
        pose := .inRow mode ((before ++ escapedChar c).length - 1)
        literal := some (captured.push (Text.code c))
        tick := m.tick + 1 } mode (before ++ escapedChar c) (escaped s ++ rest) :=
      hsplit.pass rfl rfl
    have hboth := hfirst.trans (ih hnext hdone rfl)
    rw [List.append_assoc, Nat.add_assoc, ← Array.appendList_cons, Nat.add_comm 1] at hboth
    exact hboth

theorem Machine.Ready.runsOn_open (h : m.Ready mode before ('\x22' :: rest)) :
    RunsOn 1 m { m with
      pose := .inRow mode before.length, literal := some #[], tick := m.tick + 1 } := by
  have hglyph : Command.ofGlyph? '\x22' mode = some (.shared .openLiteral) := by
    cases mode <;> decide
  have hfacing : m.Facing mode before ([] ++ '\x22' :: rest) := h.toFacing
  have hseek := seekCommand_row hfacing h.literal nofun (Option.isSome_of_eq_some hglyph)
  have hcell := hfacing.ofCell?.trans hglyph
  rw [List.append_nil] at hseek hcell
  exact .of_execute h.done hseek (executeCell_of_openLiteral
    (m := { m with pose := .inRow mode before.length }) h.literal hcell)

theorem literalValues_codes (s : List Char) :
    literalValues .ordinal (Text.codes s) = [.ofChars s] := by
  have hchars : (Text.codes s).filterMap Text.scalar? = s := by
    rw [Text.codes, List.filterMap_map]
    simp
  rw [literalValues, hchars]

theorem Machine.Facing.runsOn_close {s : List Char} (h : m.Facing .ordinal before ('\x22' :: rest))
    (hdone : m.done = false) (hqueue : m.queue = []) (hliteral : m.literal = some captured)
    (hcaptured : captured.toList = Text.codes s) :
    RunsOn 1 m { m with
      pose := .inRow .ordinal before.length, literal := none, stack := .ofChars s :: m.stack
      tick := m.tick + 1 } := by
  have hact : literalCell captured (Text.code '\x22')
      { m with pose := .inRow .ordinal before.length } = .ok () { m with
        pose := .inRow .ordinal before.length, literal := none
        stack := .ofChars s :: m.stack } := by
    have hmode : Machine.mode { m with pose := .inRow .ordinal before.length } = .ordinal := rfl
    rw [literalCell_of_close, hcaptured, hmode, literalValues_codes]
    exact repeated_of_queue_nil _ hqueue hdone
  exact h.runsOn_literalCell hdone hliteral (by decide) hact

theorem Machine.Ready.runsOn_literal {s : List Char}
    (h : m.Ready .ordinal before (('\x22' :: escaped s ++ ['\x22']) ++ rest)) :
    RunsOn (s.length + 2) m (m.later { m with stack := .ofChars s :: m.stack }
      (.inRow .ordinal ((before ++ ('\x22' :: escaped s ++ ['\x22'])).length - 1))
      (s.length + 2)) := by
  have hopens : m.Ready .ordinal before ('\x22' :: (escaped s ++ '\x22' :: rest)) := by
    simpa using h
  have hinside : Machine.Facing { m with
      pose := .inRow .ordinal before.length, literal := some #[], tick := m.tick + 1 } .ordinal
      (before ++ ['\x22']) (escaped s ++ '\x22' :: rest) := hopens.pass_one rfl rfl
  have hinner := hinside.runsOn_escaped h.done rfl
  have hend : Machine.Facing { m with
      pose := .inRow .ordinal ((before ++ ['\x22'] ++ escaped s).length - 1)
      literal := some ((#[] : Array Int) ++ Text.codes s)
      tick := m.tick + 1 + s.length } .ordinal
      (before ++ ['\x22'] ++ escaped s) ('\x22' :: rest) := hinside.pass rfl rfl
  have hcells : ((#[] : Array Int) ++ Text.codes s).toList = Text.codes s := by simp
  have hall := (hopens.runsOn_open.trans hinner).trans (hend.runsOn_close h.done h.queue rfl hcells)
  have hplace : ((before ++ ('\x22' :: escaped s ++ ['\x22'])).length : Int) - 1 =
      (before ++ ['\x22'] ++ escaped s).length := by
    simp only [List.length_append, List.length_cons, List.length_nil]
    omega
  have htick : m.tick + (s.length + 2) = m.tick + 1 + s.length + 1 := by omega
  have hticks : s.length + 2 = 1 + s.length + 1 := by omega
  rw [hplace, Machine.later, Machine.adopt, h.literal, htick, hticks]
  exact hall

end Literal

section Printer

variable {m : Machine} {before s : List Char}

theorem perform_write {stack : Stack} (hstack : m.stack = .ofChars s :: stack)
    (hroom : m.output.room = none) :
    (Command.ordinal .write).perform m = .ok () { m with
      stack, output := { m.output with written := m.output.written ++ Text.Utf8.encode s } } := by
  have hpop : popText m = .ok s { m with stack } := by
    obtain ⟨⟩ := m
    cases hstack
    change EStateM.Result.ok (String.ofList s).toList _ = _
    rw [String.toList_ofList]
  have hwrite := Output.write_of_room_none hroom (Text.Utf8.encode s)
  refine (bind_of_ok hpop).trans ?_
  simp only [writing, hwrite]

theorem Machine.Ready.runFor_printer
    (h : m.Ready .ordinal before (('\x22' :: escaped s ++ ['\x22', 'o']) ++ ['@']))
    (hroom : m.output.room = none) (more : Nat) :
    ∃ m', runFor (s.length + 2 + (1 + (more + 1))) m = .ok .terminated m' ∧
      m'.output = { m.output with written := m.output.written ++ Text.Utf8.encode s } ∧
      m'.stack = m.stack ∧ m'.tick = m.tick + (s.length + 4) := by
  have hliteral : m.Ready .ordinal before
      (('\x22' :: escaped s ++ ['\x22']) ++ ([] ++ 'o' :: ['@'])) := by simpa using h
  have hglyph : Command.ofGlyph? 'o' .ordinal = some (.ordinal .write) := by decide
  have hstraight : Command.IsStraight .ordinal (.ordinal .write) := by decide
  have hwrites := hliteral.later { m with stack := .ofChars s :: m.stack } (s.length + 2)
  have hact := perform_write (m := m.later { m with stack := .ofChars s :: m.stack }
      (.inRow .ordinal ((before ++ ('\x22' :: escaped s ++ ['\x22'])).length - 1))
      (s.length + 2)) rfl hroom
  have hruns := hliteral.runsOn_literal.trans
    (hwrites.runsOn_command nofun hglyph hstraight hact)
  have hlast : Machine.Ready _ .ordinal (before ++ ('\x22' :: escaped s ++ ['\x22']))
    (['o'] ++ ([] ++ '@' :: [])) := hwrites
  rw [List.nil_append] at hruns
  rw [← Nat.add_assoc, hruns, (hlast.later _ 1).runFor_stop nofun]
  refine ⟨_, rfl, rfl, rfl, ?_⟩
  simp only [Machine.later]
  omega

end Printer

theorem Setting.runFor_printer (setting : Setting) {s : List Char} (h : '\n' ∉ s)
    (hroom : setting.output.room = none) (more : Nat) :
    ∃ m, runFor (s.length + 4 + more) (setting.start (printer s)) = .ok .terminated m ∧
      m.output = { setting.output with
        written := setting.output.written ++ Text.Utf8.encode s } ∧
      m.stack = setting.stack ∧ m.tick = s.length + 4 := by
  have hrow : '\n' ∉ '\x22' :: escaped s ++ ['\x22', 'o'] := by
    simp [notMem_escaped h]
  have hglyph : (Command.ofGlyph? '\x22' .ordinal).isSome = true := by decide
  have hstart := setting.runFor_start hrow (List.nil_append _).symm nofun hglyph
  have hready := setting.ready_start .ordinal hrow
  obtain ⟨m, hm, houtput, hstack, htick⟩ := hready.runFor_printer hroom more
  have hticks : s.length + 2 + (1 + (more + 1)) = s.length + 3 + more + 1 := by omega
  have hticks' : s.length + 4 + more = s.length + 3 + more + 1 := by omega
  rw [hticks, ← hstart] at hm
  rw [hticks']
  exact ⟨m, hm, houtput, hstack, htick.trans (Nat.zero_add _)⟩

theorem Text.Utf8.toArray_encode (text : String) :
    (encode text.toList).toArray = text.toUTF8.data := by
  rw [String.toUTF8, ← String.utf8Encode_toList, List.utf8Encode, List.data_toByteArray, encode]

/-- Every text without a line break has a program that prints it, whatever the rest of the setting
is. The run leaves nothing on the stack, and takes one tick for each character and four for the ends
of the literal, the write and the stop. -/
theorem printer_prints (text : String) (htext : '\n' ∉ text.toList) (arguments : List String)
    (input : Input) (dice : Dice) (clock : String) {budget : Nat}
    (hbudget : text.length + 4 ≤ budget) :
    ∃ m, run budget (.load (.ofSource (printer text.toList)) arguments input .empty dice clock) =
        .ok .terminated m ∧
      m.output.written = text.toUTF8.data ∧ m.stack = [] ∧ m.tick = text.length + 4 := by
  obtain ⟨more, rfl⟩ := Nat.exists_eq_add_of_le hbudget
  obtain ⟨m, hm, houtput, hstack, htick⟩ :=
    Setting.runFor_printer ⟨[], arguments, input, .empty, dice, clock⟩ htext rfl more
  rw [String.length_toList] at hm htick
  have hflush : m.output.flushFails = false := by rw [houtput]; rfl
  refine ⟨m, run_of_ok hm hflush, ?_, hstack, htick⟩
  rw [houtput, ← Text.Utf8.toArray_encode]
  simp [Output.empty]

/-- The quote and the slash are escaped, and the stop is captured. -/
theorem printer_prints_escapes :
    printer "@'/é".toList = "/\"@'''/é\"o@" ∧
      ∃ m, run 8 (.load (.ofSource (printer "@'/é".toList)) [] (.ofBytes [65]) .empty .first "") =
          .ok .terminated m ∧
        m.output.written = #[0x40, 0x27, 0x2F, 0xC3, 0xA9] ∧ m.stack = [] ∧ m.tick = 8 := by
  refine ⟨by decide, ?_⟩
  obtain ⟨m, hrun, hwritten, hstack, htick⟩ :=
    printer_prints "@'/é" (by decide) [] (.ofBytes [65]) .first "" (Nat.le_refl 8)
  exact ⟨m, hrun, hwritten, hstack, htick⟩

end Gridwalk
