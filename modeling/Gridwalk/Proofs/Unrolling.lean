import Gridwalk.Proofs.StraightLine

/-! # Repetition is unrolling

A command that a repetition waits for does what the row does in which the command is written out as
often. For a text, each character is pushed before the command, as its quotation does in the row.
-/

namespace Gridwalk
set_option autoImplicit false

open Act

/-- Two runs that leave the same data and either both stop or both fail, with the same fault up to
its place. -/
inductive SameEnd : EStateM.Result Fault Machine Ending → EStateM.Result Fault Machine Ending → Prop
  | terminated {m m' : Machine} (h : m.SameData m') :
    SameEnd (.ok .terminated m) (.ok .terminated m')
  | failed {m m' : Machine} (fault : Fault) (p q : Vec) (h : m.SameData m') :
    SameEnd (.error (fault.relocate p) m) (.error (fault.relocate q) m')

/-- A run that ends with what an act leaves, and fails if the act does. -/
inductive EndsAs : EStateM.Result Fault Machine Unit → EStateM.Result Fault Machine Ending → Prop
  | terminated {d m : Machine} (h : m.SameData d) : EndsAs (.ok () d) (.ok .terminated m)
  | failed {fault : Fault} {d m : Machine} (p : Vec) (h : m.SameData d) :
    EndsAs (.error fault d) (.error (fault.relocate p) m)

section Endings

variable {result : EStateM.Result Fault Machine Unit} {r r' : EStateM.Result Fault Machine Ending}
  {m m' d : Machine}

theorem Machine.SameData.symm (h : m.SameData m') : m'.SameData m :=
  ⟨h.stack.symm, h.tape.symm, h.arguments.symm, h.input.symm, h.output.symm⟩

theorem Machine.SameData.trans (h : m.SameData d) (h' : d.SameData m') : m.SameData m' :=
  ⟨h.stack.trans h'.stack, h.tape.trans h'.tape, h.arguments.trans h'.arguments,
    h.input.trans h'.input, h.output.trans h'.output⟩

theorem EndsAs.sameEnd (h : EndsAs result r) (h' : EndsAs result r') : SameEnd r r' := by
  cases h with
  | terminated hdata =>
    cases h' with
    | terminated hdata' => exact .terminated (hdata.trans hdata'.symm)
  | failed p hdata =>
    cases h' with
    | failed q hdata' => exact .failed _ p q (hdata.trans hdata'.symm)

theorem EndsAs.of_transfer {frame : Machine} (h : EndsAs (transfer frame result) r) :
    EndsAs result r := by
  cases result with
  | ok _ d =>
    obtain ⟨hdata⟩ : EndsAs (.ok () (frame.adopt d)) r := h
    exact .terminated ⟨hdata.stack, hdata.tape, hdata.arguments, hdata.input, hdata.output⟩
  | error fault d =>
    change EndsAs (.error (fault.relocate frame.position) (frame.adopt d)) r at h
    cases h with
    | failed p hdata =>
      rw [Fault.relocate_relocate]
      exact .failed p ⟨hdata.stack, hdata.tape, hdata.arguments, hdata.input, hdata.output⟩

theorem Act.Local.endsAs {act : Act Unit} (hlocal : Local false act) (hmode : m.mode = m'.mode)
    (hdata : m'.SameData m) (h : EndsAs (act m') r) : EndsAs (act m) r := by
  have hsame : m'.adopt m = m' := by
    rw [Machine.adopt, ← hdata.stack, ← hdata.tape, ← hdata.arguments, ← hdata.input,
      ← hdata.output]
  have hthere := hlocal m m' (.of_mode hmode)
  rw [hsame] at hthere
  rw [hthere] at h
  exact h.of_transfer

theorem SameEnd.run {budget budget' : Nat}
    (h : SameEnd (runFor (budget - m.tick) m) (runFor (budget' - m'.tick) m')) :
    SameEnd (run budget m) (run budget' m') := by
  generalize hr : runFor (budget - m.tick) m = r at h
  generalize hr' : runFor (budget' - m'.tick) m' = r' at h
  cases h with
  | @terminated d d' hdata =>
    cases hflush : d.output.flushFails with
    | false =>
      rw [run_of_ok hr hflush, run_of_ok hr' (hdata.output ▸ hflush)]
      exact .terminated hdata
    | true =>
      rw [run_of_ok_of_unflushable hr hflush,
        run_of_ok_of_unflushable hr' (hdata.output ▸ hflush)]
      exact .failed (.stream .unflushable) d.position d'.position hdata
  | failed fault p q hdata =>
    rw [run_of_error hr, run_of_error hr']
    exact .failed fault p q hdata

end Endings

def Command.performOn (op : Command) (c : Char) : Act Unit := do
  pushText [c]
  op.perform

def Repetition.unrolled (op : Command) : Repetition → Act Unit
  | times n => (List.replicate n op).forM Command.perform
  | each s => s.toList.forM op.performOn

section Repetition

variable {reads : Bool} {op : Command} {m : Machine}

theorem Command.local_performOn (h : Local reads op.perform) (c : Char) :
    Local reads (op.performOn c) :=
  (local_pushText [c]).bind fun _ => h

theorem Repetition.local_unrolled (h : Local reads op.perform) (r : Repetition) :
    Local reads (r.unrolled op) := by
  cases r with
  | times n => exact .forM fun op' hop => List.eq_of_mem_replicate hop ▸ h
  | each s => exact .forM fun c _ => Command.local_performOn h c

theorem repeatTimes_eq (h : Local reads op.perform) (hdone : m.done = false) (n : Nat) :
    repeatTimes op.perform n m = (List.replicate n op).forM Command.perform m := by
  induction n generalizing m with
  | zero => rfl
  | succ n ih =>
    rw [repeatTimes, get_bind, hdone, if_neg Bool.false_ne_true, List.replicate_succ]
    cases hact : op.perform m with
    | ok _ m' =>
      have hdone' : m'.done = false := (h.done_of_ok hact).trans hdone
      rw [forM_cons_of_ok hact, ← ih hdone']
      exact bind_of_ok hact
    | error fault m' =>
      rw [forM_cons_of_error hact]
      exact bind_of_error hact

theorem repeatEach_eq (h : Local reads op.perform) (hdone : m.done = false) (s : List Char) :
    repeatEach op.perform s m = s.forM op.performOn m := by
  induction s generalizing m with
  | nil => rfl
  | cons c s ih =>
    rw [repeatEach, get_bind, hdone, if_neg Bool.false_ne_true]
    have hpush : pushText [c] m = .ok () { m with stack := .ofChars [c] :: m.stack } := rfl
    have hfirst : op.performOn c m = op.perform { m with stack := .ofChars [c] :: m.stack } :=
      bind_of_ok hpush
    rw [bind_of_ok hpush]
    cases hact : op.perform { m with stack := .ofChars [c] :: m.stack } with
    | ok _ m' =>
      have hdone' : m'.done = false := (h.done_of_ok hact).trans hdone
      rw [forM_cons_of_ok (hfirst.trans hact), ← ih hdone']
      exact bind_of_ok hact
    | error fault m' =>
      rw [forM_cons_of_error (hfirst.trans hact)]
      exact bind_of_error hact

theorem repeated_eq_unrolled {r : Repetition} {rest : List Repetition}
    (h : Local reads op.perform) (hdone : m.done = false) (hqueue : m.queue = r :: rest) :
    repeated op.perform m = r.unrolled op { m with queue := rest } := by
  have htake : takeRepetition m = .ok r { m with queue := rest } := by
    obtain ⟨⟩ := m
    cases hqueue
    rfl
  rw [repeated, bind_of_ok htake]
  cases r with
  | times n => exact repeatTimes_eq (m := { m with queue := rest }) h hdone n
  | each s => exact repeatEach_eq (m := { m with queue := rest }) h hdone s.toList

theorem perform_iterate_integer {n : Nat} {stack : Stack} (hn : n < 2 ^ 64)
    (hmode : m.mode = .cardinal) (hstack : m.stack = .integer n :: stack) :
    Shared.iterate.perform m = .ok () { m with stack, queue := m.queue ++ [.times n] } := by
  have hpop : popInt m = .ok n { m with stack } := by
    obtain ⟨⟩ := m
    cases hstack
    rfl
  rw [Shared.perform, get_bind, hmode]
  dsimp only
  rw [bind_of_ok hpop, clampCount_natCast hn]
  rfl

theorem perform_iterate_text {s : String} {stack : Stack} (hmode : m.mode = .ordinal)
    (hstack : m.stack = .text s :: stack) :
    Shared.iterate.perform m = .ok () { m with stack, queue := m.queue ++ [.each s] } := by
  have hpop : popText m = .ok s.toList { m with stack } := by
    obtain ⟨⟩ := m
    cases hstack
    rfl
  rw [Shared.perform, get_bind, hmode]
  dsimp only
  rw [bind_of_ok hpop, String.ofList_toList]
  rfl

end Repetition

section Glyphs

variable {mode : Mode} {op : Command}

theorem Shared.ofGlyph?_cardinal (op : Cardinal) : ofGlyph? op.glyph = none := by
  cases op with
  | digit d => revert d; decide
  | unary f | binary f | division f | listing f => cases f <;> decide
  | _ => decide

theorem Shared.ofGlyph?_ordinal (op : Ordinal) : ofGlyph? op.glyph = none := by
  cases op with
  | digit d => revert d; decide
  | unary f | binary f | ternary f | listing f | splitting f => cases f <;> decide
  | _ => decide

namespace Command.IsStraight

theorem ofGlyph?_glyph (h : op.IsStraight mode) : ofGlyph? op.glyph mode = some op := by
  cases op with
  | shared op => simp only [glyph, ofGlyph?, Shared.ofGlyph?_glyph]
  | cardinal op =>
    obtain ⟨rfl, -⟩ := h
    simp only [glyph, ofGlyph?, Shared.ofGlyph?_cardinal, Cardinal.ofGlyph?_glyph, Option.map_some]
  | ordinal op =>
    obtain ⟨rfl, -⟩ := h
    simp only [glyph, ofGlyph?, Shared.ofGlyph?_ordinal, Ordinal.ofGlyph?_glyph, Option.map_some]

theorem glyph_ne_newline (h : op.IsStraight mode) : op.glyph ≠ '\n' := by
  intro hglyph
  have hnone : ofGlyph? '\n' mode = none := by cases mode <;> decide
  rw [← hglyph, h.ofGlyph?_glyph] at hnone
  cases hnone

theorem straightRow_replicate (h : op.IsStraight mode) (n : Nat) :
    StraightRow mode (List.replicate n op.glyph) := by
  intro c hc
  obtain rfl := List.eq_of_mem_replicate hc
  refine ⟨h.glyph_ne_newline, ?_, fun op' hop' => ?_⟩
  · exact Terrain.ofCell?_of_command (Option.isSome_of_eq_some h.ofGlyph?_glyph)
  · obtain rfl : op = op' := Option.some.inj (h.ofGlyph?_glyph.symm.trans hop')
    exact h

theorem commandsOf_replicate (h : op.IsStraight mode) (n : Nat) :
    commandsOf mode (List.replicate n op.glyph) = List.replicate n op :=
  List.filterMap_replicate_of_some h.ofGlyph?_glyph

end Command.IsStraight

end Glyphs

namespace Machine.Ready

variable {m : Machine} {mode : Mode} {before chars after : List Char} {op : Command}

theorem endsAs_commands (h : m.Ready mode before (chars ++ ['@'])) (hchars : StraightRow mode chars)
    {budget : Nat} (hbudget : (commandsOf mode chars).length < budget) :
    EndsAs ((commandsOf mode chars).forM Command.perform m) (runFor budget m) := by
  cases hall : (commandsOf mode chars).forM Command.perform m with
  | ok _ d =>
    obtain ⟨more, rfl⟩ := Nat.exists_eq_add_of_lt hbudget
    rw [Nat.add_assoc, h.runFor_commands hchars hall]
    exact .terminated ⟨rfl, rfl, rfl, rfl, rfl⟩
  | error fault d =>
    obtain ⟨earlier, op, rest, mid, hcommands, hmid, hop⟩ := forM_eq_error hall
    obtain ⟨used, c, left, -, -, -, hstops⟩ :=
      h.runFor_commands_of_error hchars hcommands hmid hop
    have hshort : earlier.length < budget := by
      rw [hcommands, List.length_append] at hbudget
      omega
    obtain ⟨more, rfl⟩ := Nat.exists_eq_add_of_lt hshort
    rw [Nat.add_assoc, hstops]
    exact .failed _ ⟨rfl, rfl, rfl, rfl, rfl⟩

end Machine.Ready

section Iterated

variable {m : Machine} {mode : Mode} {before after : List Char} {op : Command} {r : Repetition}

theorem Machine.Facing.endsAs_repeated (h : m.Facing mode before (op.glyph :: '@' :: after))
    (hdone : m.done = false) (hliteral : m.literal = none) (hqueue : m.queue = [r])
    (hop : op.IsStraight mode) (more : Nat) :
    EndsAs (r.unrolled op m) (runFor (1 + (more + 1)) m) := by
  have hagree : m.Agree true { m with pose := .inRow mode before.length, queue := [] } :=
    agree_inRow h.pose rfl rfl
  have hact : repeated op.perform { m with pose := .inRow mode before.length } =
      transfer { m with pose := .inRow mode before.length, queue := [] } (r.unrolled op m) :=
    (repeated_eq_unrolled (m := { m with pose := .inRow mode before.length }) hop.isLocal
      hdone hqueue).trans (Repetition.local_unrolled hop.isLocal.weaken r m _ hagree)
  cases hall : r.unrolled op m with
  | ok _ d =>
    rw [hall] at hact
    have hnext : Machine.Ready
        { Machine.adopt { m with pose := .inRow mode before.length, queue := [] } d with
          tick := m.tick + 1 } mode (before ++ [op.glyph]) ([] ++ '@' :: after) :=
      { toFacing := h.pass_one rfl rfl, done := hdone, literal := hliteral, queue := rfl }
    rw [h.runsOn_next hdone hliteral hop.ofGlyph?_glyph hop.ne_openLiteral hact]
    have hstop := hnext.runFor_stop nofun more
    exact hstop ▸ .terminated ⟨rfl, rfl, rfl, rfl, rfl⟩
  | error fault d =>
    rw [hall] at hact
    rw [Nat.add_comm, h.runFor_next_of_error hdone hliteral hop.ofGlyph?_glyph hop.ne_openLiteral
      hact]
    exact .failed _ ⟨rfl, rfl, rfl, rfl, rfl⟩

theorem Machine.Ready.endsAs_iterated {stack : Stack}
    (h : m.Ready mode before ('&' :: op.glyph :: '@' :: after)) (hop : op.IsStraight mode)
    (hiterate : Shared.iterate.perform { m with pose := .inRow mode before.length } =
      .ok () { m with pose := .inRow mode before.length, stack, queue := [r] }) (more : Nat) :
    EndsAs (r.unrolled op { m with stack }) (runFor (1 + (1 + (more + 1))) m) := by
  have hglyph : Command.ofGlyph? '&' mode = some (.shared .iterate) := by cases mode <;> decide
  have hnext : Machine.Facing { m with
      pose := .inRow mode before.length, stack, queue := [r], tick := m.tick + 1 }
      mode (before ++ ['&']) (op.glyph :: '@' :: after) := h.pass_one rfl rfl
  have hends := hnext.endsAs_repeated h.done h.literal rfl hop more
  rw [h.runsOn_next h.done h.literal hglyph nofun ((h.repeated _ _).trans hiterate)]
  have hagree : Machine.Agree true { m with stack } { m with
      pose := .inRow mode before.length, stack, queue := [r], tick := m.tick + 1 } :=
    agree_inRow h.pose rfl rfl
  have hthere := Repetition.local_unrolled hop.isLocal.weaken r _ _ hagree
  exact .of_transfer (hthere ▸ hends)

end Iterated

section Quoted

variable {m : Machine} {before rest : List Char} {op : Command}

theorem Machine.Ready.runsOn_quote {x : Char} (h : m.Ready .ordinal before ('\x27' :: x :: rest)) :
    RunsOn 1 m (m.later { m with stack := .ofChars [x] :: m.stack }
      (.inRow .ordinal ((before ++ ['\x27', x]).length - 1)) 1) := by
  have hglyph : Command.ofGlyph? '\x27' .ordinal = some (.shared .quoteNext) := by decide
  have hnext : Machine.Facing { m with pose := .inRow .ordinal before.length } .ordinal
      (before ++ ['\x27']) (x :: rest) := h.pass_one rfl rfl
  have htext : cellText (Text.code x) = [x] := by
    rw [cellText, Text.scalar?_code]
    rfl
  have hact : (Command.shared .quoteNext).perform { m with pose := .inRow .ordinal before.length } =
      .ok () { m with
        pose := .inRow .ordinal (before ++ ['\x27']).length
        stack := .ofChars [x] :: m.stack } :=
    (bind_of_ok (takeCell_row hnext)).trans (htext ▸ rfl)
  rw [List.append_cons, Pose.inRow_concat]
  exact h.runsOn_next h.done h.literal hglyph nofun ((h.repeated _ _).trans hact)

theorem Machine.Ready.endsAs_quoted {s : List Char} {budget : Nat}
    (h : m.Ready .ordinal before (s.flatMap (fun x => ['\x27', x, op.glyph]) ++ ['@']))
    (hop : op.IsStraight .ordinal) (hbudget : 2 * s.length < budget) :
    EndsAs (s.forM op.performOn m) (runFor budget m) := by
  -- By induction on the text: two ticks quote a character and execute the command, and what is left
  -- is the program for the rest of the text.
  induction s generalizing m before budget with
  | nil =>
    obtain ⟨more, rfl⟩ := Nat.exists_eq_add_of_lt hbudget
    have hstop : m.Ready .ordinal before ([] ++ '@' :: []) := h
    rw [hstop.runFor_stop nofun]
    exact .terminated ⟨rfl, rfl, rfl, rfl, rfl⟩
  | cons x s ih =>
    obtain ⟨more, rfl⟩ : ∃ more, budget = 1 + (1 + more) := by
      rw [List.length_cons] at hbudget
      exact ⟨budget - 2, by omega⟩
    have hshort : 2 * s.length < more := by
      rw [List.length_cons] at hbudget
      omega
    have hquote : m.Ready .ordinal before
        (['\x27', x] ++ ([] ++ op.glyph :: (s.flatMap (fun x => ['\x27', x, op.glyph]) ++ ['@']))) :=
      h
    have hblock : m.Ready .ordinal before
        (['\x27', x, op.glyph] ++ (s.flatMap (fun x => ['\x27', x, op.glyph]) ++ ['@'])) := h
    have hcommand := hquote.later { m with stack := .ofChars [x] :: m.stack } 1
    have hthere := hop.isLocal.weaken.later h.pose rfl
      ((before ++ ['\x27', x]).length - 1) 1 (d := { m with stack := .ofChars [x] :: m.stack })
    have hfirst : op.performOn x m = op.perform { m with stack := .ofChars [x] :: m.stack } := rfl
    rw [hquote.runsOn_quote]
    cases hact : op.perform { m with stack := .ofChars [x] :: m.stack } with
    | error fault d =>
      rw [forM_cons_of_error (hfirst.trans hact)]
      rw [hact] at hthere
      rw [Nat.add_comm, hcommand.runFor_command_of_error nofun hop.ofGlyph?_glyph hop hthere,
        Fault.relocate_relocate]
      exact .failed _ ⟨rfl, rfl, rfl, rfl, rfl⟩
    | ok _ d =>
      rw [forM_cons_of_ok (hfirst.trans hact)]
      rw [hact] at hthere
      rw [hcommand.runsOn_command nofun hop.ofGlyph?_glyph hop hthere, Machine.later_later,
        List.append_assoc]
      have hall : Local true (s.forM op.performOn) :=
        .forM fun c _ => Command.local_performOn hop.isLocal.weaken c
      have hsame := (Command.local_performOn hop.isLocal x).adopt_of_ok (hfirst.trans hact)
      have hends := ih (hblock.later d (1 + 1)) hshort
      rw [hall.later h.pose hsame] at hends
      exact hends.of_transfer

end Quoted

theorem Setting.endsAs_iterated {mode : Mode} {op : Command} {v : Value} {r : Repetition}
    (s : Setting) (hop : op.IsStraight mode) (hreads : op.readsGrid = false)
    (hiterate : ∀ m : Machine, m.mode = mode → m.stack = v :: s.stack →
      Shared.iterate.perform m = .ok () { m with stack := s.stack, queue := m.queue ++ [r] })
    {budget : Nat} (hbudget : 3 ≤ budget) (source : String) :
    EndsAs (r.unrolled op { s.start source with pose := .inRow mode (mode.lead.length - 1) })
      (runFor budget ({ s with stack := v :: s.stack }.start (rowProgram mode ['&', op.glyph]))) := by
  obtain ⟨more, rfl⟩ := Nat.exists_eq_add_of_le' hbudget
  have hrow : '\n' ∉ ['&', op.glyph] := by
    simp [hop.glyph_ne_newline.symm]
  have hglyph : (Command.ofGlyph? '&' mode).isSome = true := by cases mode <;> decide
  have hready := Setting.ready_start { s with stack := v :: s.stack } mode hrow
  have hstart := Setting.runFor_start { s with stack := v :: s.stack } hrow
    (List.nil_append _).symm nofun hglyph (more + 2)
  have hends := hready.endsAs_iterated hop (hiterate _ rfl rfl) more
  -- The two programs are different grids, which a command that reads no cells cannot tell apart.
  have hlocal : Local false (r.unrolled op) := Repetition.local_unrolled (hreads ▸ hop.isLocal) r
  have hcount : 1 + (1 + (more + 1)) = more + 2 + 1 := by omega
  rw [hcount, ← hstart] at hends
  refine hlocal.endsAs ?_ ?_ hends
  · simp only [Machine.mode]
  · exact ⟨rfl, rfl, rfl, rfl, rfl⟩

theorem Setting.endsAs_replicate {mode : Mode} {op : Command} (s : Setting)
    (hop : op.IsStraight mode) {n budget : Nat} (hbudget : n < budget) :
    EndsAs ((Repetition.times n).unrolled op
        { s.start (rowProgram mode (List.replicate n op.glyph)) with
          pose := .inRow mode (mode.lead.length - 1) })
      (runFor budget (s.start (rowProgram mode (List.replicate n op.glyph)))) := by
  obtain ⟨more, rfl⟩ := Nat.exists_eq_add_of_lt hbudget
  have hrow := hop.straightRow_replicate n
  have hlength : (commandsOf mode (List.replicate n op.glyph)).length < n + more + 1 := by
    rw [hop.commandsOf_replicate, List.length_replicate]
    exact hbudget
  have hends := (s.ready_start mode hrow.notMem).endsAs_commands hrow hlength
  rw [hop.commandsOf_replicate, ← hrow.runFor_start] at hends
  exact hends

theorem Setting.endsAs_quoted {op : Command} (s : Setting) (hop : op.IsStraight .ordinal)
    {text : String} (htext : '\n' ∉ text.toList) {budget : Nat} (hbudget : 2 * text.length < budget) :
    EndsAs ((Repetition.each text).unrolled op
        { s.start (rowProgram .ordinal (text.toList.flatMap fun x => ['\x27', x, op.glyph])) with
          pose := .inRow .ordinal (Mode.ordinal.lead.length - 1) })
      (runFor budget
        (s.start (rowProgram .ordinal (text.toList.flatMap fun x => ['\x27', x, op.glyph])))) := by
  obtain ⟨more, rfl⟩ := Nat.exists_eq_add_of_lt hbudget
  have hrow : '\n' ∉ text.toList.flatMap fun x => ['\x27', x, op.glyph] := by
    intro hmem
    obtain ⟨x, hx, hmem⟩ := List.mem_flatMap.mp hmem
    simp only [List.mem_cons, List.not_mem_nil, or_false] at hmem
    obtain hmem | rfl | hmem := hmem
    · cases hmem
    · exact htext hx
    · exact hop.glyph_ne_newline hmem.symm
  have hends := (s.ready_start .ordinal hrow).endsAs_quoted hop hbudget
  obtain ⟨c, after, hsplit, hc⟩ : ∃ c after,
      text.toList.flatMap (fun x => ['\x27', x, op.glyph]) ++ ['@'] = [] ++ c :: after ∧
        (Command.ofGlyph? c .ordinal).isSome = true := by
    cases text.toList with
    | nil => exact ⟨'@', [], rfl, by decide⟩
    | cons x chars => exact ⟨'\x27', _, rfl, by decide⟩
  rw [← s.runFor_start hrow hsplit nofun hc] at hends
  exact hends

/-- A repetition has the effect of writing its command out. A command of the cardinal mode that
finds a count on the stack ends as the row in which it is written so often, and a command of the
ordinal mode that finds a text as the row in which it follows each character, quoted. -/
theorem iteration_is_unrolling :
    (∀ (op : Command), op.IsStraight .cardinal → op.readsGrid = false →
      ∀ n < 2 ^ 64, ∀ (s : Setting) (budget budget' : Nat), 3 ≤ budget → n + 1 ≤ budget' →
        SameEnd
          (run budget ({ s with stack := .integer n :: s.stack }.start
            (rowProgram .cardinal ['&', op.glyph])))
          (run budget' (s.start (rowProgram .cardinal (List.replicate n op.glyph))))) ∧
    ∀ (op : Command), op.IsStraight .ordinal → op.readsGrid = false →
      ∀ text : String, '\n' ∉ text.toList → ∀ (s : Setting) (budget budget' : Nat), 3 ≤ budget →
        2 * text.length + 1 ≤ budget' →
          SameEnd
            (run budget ({ s with stack := .text text :: s.stack }.start
              (rowProgram .ordinal ['&', op.glyph])))
            (run budget' (s.start (rowProgram .ordinal
              (text.toList.flatMap fun x => ['\x27', x, op.glyph])))) := by
  constructor
  · intro op hop hreads n hn s budget budget' hbudget hbudget'
    have hiterated := s.endsAs_iterated hop hreads (fun m => perform_iterate_integer hn) hbudget
      (rowProgram .cardinal (List.replicate n op.glyph))
    exact .run (hiterated.sameEnd (s.endsAs_replicate hop hbudget'))
  · intro op hop hreads text htext s budget budget' hbudget hbudget'
    have hiterated := s.endsAs_iterated hop hreads (fun m => perform_iterate_text (s := text))
      hbudget (rowProgram .ordinal (text.toList.flatMap fun x => ['\x27', x, op.glyph]))
    exact .run (hiterated.sameEnd (s.endsAs_quoted hop htext hbudget'))

/-- The third division fails in both programs, and both write the text. -/
theorem iteration_is_unrolling_division_write :
    let s : Setting := ⟨[.integer 2, .integer 12, .integer 0], [], .ofBytes [], .empty, .first, ""⟩
    Command.IsStraight .cardinal (.cardinal (.division .quotient)) ∧
      Command.IsStraight .ordinal (.ordinal .write) ∧
      SameEnd (run 3 ({ s with stack := .integer 3 :: s.stack }.start (rowProgram .cardinal ['&', ':'])))
        (run 4 (s.start (rowProgram .cardinal [':', ':', ':']))) ∧
      SameEnd (run 3 ({ s with stack := .text "@é" :: s.stack }.start (rowProgram .ordinal ['&', 'o'])))
        (run 5 (s.start (rowProgram .ordinal ['\x27', '@', 'o', '\x27', 'é', 'o']))) := by
  intro s
  have hdivide : Command.IsStraight .cardinal (.cardinal (.division .quotient)) := by decide
  have hwrite : Command.IsStraight .ordinal (.ordinal .write) := by decide
  refine ⟨hdivide, hwrite, ?_, ?_⟩
  · exact iteration_is_unrolling.1 _ hdivide rfl 3 (by decide) s 3 4 (by decide) (by decide)
  · exact iteration_is_unrolling.2 _ hwrite rfl "@é" (by decide) s 3 5 (by decide) (by decide)

end Gridwalk
