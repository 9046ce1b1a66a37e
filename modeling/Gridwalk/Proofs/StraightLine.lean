import Gridwalk.Proofs.Locality
import Gridwalk.Proofs.Row

/-! # Straight-line programs

A row of straight-line commands, with any characters between them that are passed over, does what
its commands do one after the other. The commands may fail; then the run fails at the place of the
command that did, with the data that this command has left.
-/

namespace Gridwalk
set_option autoImplicit false

open Act

namespace Machine

structure SameData (m m' : Machine) : Prop where
  stack : m.stack = m'.stack
  tape : m.tape = m'.tape
  arguments : m.arguments = m'.arguments
  input : m.input = m'.input
  output : m.output = m'.output

def later (m d : Machine) (pose : Pose) (ticks : Nat) : Machine :=
  { m.adopt d with pose, tick := m.tick + ticks }

theorem later_later (m d d' : Machine) (pose pose' : Pose) (n k : Nat) :
    (m.later d pose n).later ((m.later d pose n).adopt d') pose' k = m.later d' pose' (n + k) := by
  simp only [later, adopt, Nat.add_assoc]

theorem Ready.later {m : Machine} {mode : Mode} {before used rest : List Char}
    (h : m.Ready mode before (used ++ rest)) (d : Machine) (ticks : Nat) :
    (m.later d (.inRow mode ((before ++ used).length - 1)) ticks).Ready mode (before ++ used) rest where
  toFacing := h.toFacing.pass rfl rfl
  done := h.done
  literal := h.literal
  queue := h.queue

end Machine

def StraightRow (mode : Mode) (row : List Char) : Prop :=
  ∀ c ∈ row, c ≠ '\n' ∧ Terrain.ofCell? (Text.code c) = none ∧
    ∀ op ∈ Command.ofGlyph? c mode, op.IsStraight mode

instance (mode : Mode) (row : List Char) : Decidable (StraightRow mode row) :=
  List.decidableBAll _ row

def commandsOf (mode : Mode) (row : List Char) : List Command :=
  row.filterMap (Command.ofGlyph? · mode)

section Commands

variable {m d : Machine} {mode : Mode} {before chars after : List Char}

theorem StraightRow.isFiller {c : Char} (h : StraightRow mode chars) (hc : c ∈ chars)
    (hnone : Command.ofGlyph? c mode = none) : IsFiller mode c :=
  ⟨(h c hc).2.1, hnone⟩

theorem StraightRow.isStraight {op : Command} (h : StraightRow mode chars)
    (hop : op ∈ commandsOf mode chars) : op.IsStraight mode := by
  obtain ⟨c, hc, hglyph⟩ := List.mem_filterMap.mp hop
  exact (h c hc).2.2 op hglyph

theorem StraightRow.exists_first {op : Command} {commands : List Command}
    (h : StraightRow mode chars) (hcommands : commandsOf mode chars = op :: commands) :
    ∃ fillers c rest, chars = fillers ++ c :: rest ∧ (∀ f ∈ fillers, IsFiller mode f) ∧
      commandsOf mode fillers = [] ∧ Command.ofGlyph? c mode = some op ∧ op.IsStraight mode ∧
      commandsOf mode rest = commands ∧ StraightRow mode rest := by
  obtain ⟨fillers, c, rest, rfl, hfillers, hop, hrest⟩ := List.filterMap_eq_cons_iff.mp hcommands
  refine ⟨fillers, c, rest, rfl, fun f hf => ?_, List.filterMap_eq_nil_iff.mpr hfillers, hop, ?_,
    hrest, fun x hx => ?_⟩
  · exact h.isFiller (List.mem_append_left _ hf) (hfillers f hf)
  · exact h.isStraight (hcommands ▸ List.mem_cons_self)
  · exact h x (List.mem_append_right _ (List.mem_cons_of_mem c hx))

theorem commandsOf_append (row rest : List Char) :
    commandsOf mode (row ++ rest) = commandsOf mode row ++ commandsOf mode rest :=
  List.filterMap_append

theorem commandsOf_cons {c : Char} {op : Command} (h : Command.ofGlyph? c mode = some op)
    (rest : List Char) : commandsOf mode (c :: rest) = op :: commandsOf mode rest :=
  List.filterMap_cons_some h

theorem local_forM {commands : List Command} (h : ∀ op ∈ commands, op.IsStraight mode) :
    Local true (commands.forM Command.perform) :=
  .forM fun op hop => (h op hop).isLocal.weaken

theorem Command.IsStraight.ne_openLiteral {op : Command} (h : op.IsStraight mode) :
    op ≠ .shared .openLiteral := by
  rintro rfl
  cases h

theorem Machine.agree_inRow {frame : Machine} {x y : Int} (hpose : m.pose = .inRow mode x)
    (hpose' : frame.pose = .inRow mode y) (hgrid : m.grid = frame.grid) : m.Agree true frame where
  mode := (congrArg Pose.mode hpose).trans (congrArg Pose.mode hpose').symm
  grid _ := hgrid
  heading _ := (congrArg Pose.heading hpose).trans (congrArg Pose.heading hpose').symm

theorem Act.Local.later {act : Act Unit} (h : Local true act) {x : Int}
    (hpose : m.pose = .inRow mode x) (hd : d = m.adopt d) (y : Int) (ticks : Nat) :
    act (m.later d (.inRow mode y) ticks) =
      transfer (m.later d (.inRow mode y) ticks) (act d) := by
  have hagree : d.Agree true (m.later d (.inRow mode y) ticks) := by
    rw [hd]
    exact Machine.agree_inRow hpose rfl rfl
  exact h d _ hagree

section Elsewhere

variable {act first : Act Unit}

theorem Act.Local.inRow (h : Local true act) (m : Machine) (mode : Mode) (p : Vec) (x : Int) :
    act { m with pose := .inRow mode x } = transfer { m with pose := .inRow mode x }
      (act { m with pose := ⟨p, mode.forward, mode⟩ }) :=
  h { m with pose := ⟨p, mode.forward, mode⟩ } { m with pose := .inRow mode x }
    ⟨rfl, fun _ => rfl, fun _ => rfl⟩

theorem Act.Local.inRow_after {mid : Machine} {p : Vec} (hfirst : Local true first)
    (h : Local true act) (hmid : first { m with pose := ⟨p, mode.forward, mode⟩ } = .ok () mid)
    (x : Int) :
    act ({ m with pose := .inRow mode x }.adopt mid) =
      transfer { m with pose := .inRow mode x } (act mid) := by
  have hagree : mid.Agree true { m with pose := .inRow mode x } := by
    rw [hfirst.adopt_of_ok hmid]
    exact ⟨rfl, fun _ => rfl, fun _ => rfl⟩
  exact h mid _ hagree

end Elsewhere

section Tick

variable {fillers rest : List Char} {c : Char} {op : Command} {fault : Fault}

theorem Machine.Ready.runsOn_command (h : m.Ready mode before (fillers ++ c :: rest))
    (hfillers : ∀ f ∈ fillers, IsFiller mode f) (hop : Command.ofGlyph? c mode = some op)
    (hstraight : op.IsStraight mode) (hact : op.perform m = .ok () d) :
    RunsOn 1 m (m.later d (.inRow mode ((before ++ (fillers ++ [c])).length - 1)) 1) := by
  have hself : m = m.adopt m := rfl
  have hthere := hstraight.isLocal.weaken.later h.pose hself (before ++ fillers).length 0
  rw [hact] at hthere
  rw [← List.append_assoc, Pose.inRow_concat]
  exact h.runsOn h.done h.literal hfillers hop hstraight.ne_openLiteral
    ((h.repeated _ _).trans hthere)

theorem Machine.Ready.runFor_command_of_error (h : m.Ready mode before (fillers ++ c :: rest))
    (hfillers : ∀ f ∈ fillers, IsFiller mode f) (hop : Command.ofGlyph? c mode = some op)
    (hstraight : op.IsStraight mode) (hact : op.perform m = .error fault d) (more : Nat) :
    runFor (more + 1) m = .error (fault.relocate ⟨(before ++ fillers).length, 0⟩)
      (m.later d (.inRow mode (before ++ fillers).length) 0) := by
  have hself : m = m.adopt m := rfl
  have hthere := hstraight.isLocal.weaken.later h.pose hself (before ++ fillers).length 0
  rw [hact] at hthere
  exact h.runFor_of_error h.done h.literal hfillers hop hstraight.ne_openLiteral
    ((h.repeated _ _).trans hthere) more

end Tick

theorem Machine.Ready.runsOn_commands {commands : List Command}
    (h : m.Ready mode before (chars ++ after)) (hchars : StraightRow mode chars)
    (hcommands : commandsOf mode chars = commands)
    (hd : commands.forM Command.perform m = .ok () d) :
    ∃ used left, chars = used ++ left ∧ commandsOf mode used = commands ∧
      (∀ f ∈ left, IsFiller mode f) ∧
      RunsOn commands.length m
        (m.later d (.inRow mode ((before ++ used).length - 1)) commands.length) := by
  -- By induction on the commands: the first one is executed behind the characters that are passed
  -- over, and the others are left to the machine after it, elsewhere in the row and some ticks later.
  induction commands generalizing m d before chars with
  | nil =>
    cases hd
    refine ⟨[], chars, rfl, rfl, fun f hf => ?_, ?_⟩
    · exact hchars.isFiller hf (List.filterMap_eq_nil_iff.mp hcommands f hf)
    · rw [List.append_nil, ← h.pose]
      exact .refl _
  | cons op commands ih =>
    obtain ⟨fillers, c, chars', rfl, hpassed, hnone, hop, hstraight, hrest, hchars'⟩ :=
      hchars.exists_first hcommands
    have hready : m.Ready mode before (fillers ++ c :: (chars' ++ after)) := by simpa using h
    cases hfirst : op.perform m with
    | error fault m₁ =>
      rw [forM_cons_of_error hfirst] at hd
      cases hd
    | ok _ m₁ =>
      rw [forM_cons_of_ok hfirst] at hd
      have hstep := hready.runsOn_command hpassed hop hstraight hfirst
      have hnext : m.Ready mode before ((fillers ++ [c]) ++ (chars' ++ after)) := by simpa using h
      have hsame : m₁ = m.adopt m₁ := hstraight.isLocal.adopt_of_ok hfirst
      have hlocal : Local true (commands.forM Command.perform) :=
        local_forM fun op' hop' => hchars'.isStraight (hrest ▸ hop')
      have hthere := hlocal.later h.pose hsame ((before ++ (fillers ++ [c])).length - 1) 1
      rw [hd] at hthere
      obtain ⟨used, left, rfl, hused, hleft, hruns⟩ := ih (hnext.later m₁ 1) hchars' hrest hthere
      refine ⟨fillers ++ c :: used, left, by simp, ?_, hleft, ?_⟩
      · rw [commandsOf_append, commandsOf_cons hop, hnone, hused]
        rfl
      · have hboth := hstep.trans hruns
        rw [Machine.later_later, Nat.add_comm, List.append_assoc, List.append_assoc] at hboth
        exact hboth

theorem Machine.Ready.runFor_commands (h : m.Ready mode before (chars ++ ['@']))
    (hchars : StraightRow mode chars)
    (hd : (commandsOf mode chars).forM Command.perform m = .ok () d) (more : Nat) :
    runFor ((commandsOf mode chars).length + (more + 1)) m = .ok .terminated
      { m.later d (.inRow mode (before ++ chars).length) ((commandsOf mode chars).length + 1) with
        done := true } := by
  obtain ⟨used, left, hsplit, -, hleft, hruns⟩ := h.runsOn_commands hchars rfl hd
  rw [hsplit, List.append_assoc] at h
  rw [hruns, (h.later d _).runFor_stop hleft, List.append_assoc, ← hsplit]
  rfl

theorem Machine.Ready.runFor_commands_of_error {earlier rest : List Command} {op : Command}
    {mid : Machine} {fault : Fault} (h : m.Ready mode before (chars ++ after))
    (hchars : StraightRow mode chars) (hcommands : commandsOf mode chars = earlier ++ op :: rest)
    (hmid : earlier.forM Command.perform m = .ok () mid)
    (hop : op.perform mid = .error fault d) :
    ∃ used c left, chars = used ++ c :: left ∧ commandsOf mode used = earlier ∧
      Command.ofGlyph? c mode = some op ∧
      ∀ more, runFor (earlier.length + (more + 1)) m =
        .error (fault.relocate ⟨(before ++ used).length, 0⟩)
          (m.later d (.inRow mode (before ++ used).length) earlier.length) := by
  obtain ⟨chars₁, chars₂, rfl, hearlier, hlater⟩ := List.filterMap_eq_append_iff.mp hcommands
  have hchars₁ : StraightRow mode chars₁ := fun x hx => hchars x (List.mem_append_left _ hx)
  have hchars₂ : StraightRow mode chars₂ := fun x hx => hchars x (List.mem_append_right _ hx)
  obtain ⟨fillers, c, left, rfl, hfillers, hnone, hglyph, hstraight, -, -⟩ :=
    hchars₂.exists_first hlater
  have hready : m.Ready mode before (chars₁ ++ ((fillers ++ c :: left) ++ after)) := by
    rwa [List.append_assoc] at h
  obtain ⟨used, passed, rfl, hused, hpassed, hruns⟩ :=
    hready.runsOn_commands hchars₁ hearlier hmid
  refine ⟨used ++ (passed ++ fillers), c, left, by simp, ?_, hglyph, fun more => ?_⟩
  · have hskipped : commandsOf mode passed = [] :=
      List.filterMap_eq_nil_iff.mpr fun f hf => (hpassed f hf).2
    rw [commandsOf_append, commandsOf_append, hused, hnone, hskipped, List.append_nil,
      List.append_nil]
  · have hboth : ∀ f ∈ passed ++ fillers, IsFiller mode f := fun f hf =>
      (List.mem_append.mp hf).elim (hpassed f) (hfillers f)
    have hnext : m.Ready mode before (used ++ ((passed ++ fillers) ++ c :: (left ++ after))) := by
      simpa using hready
    have hlocal : Local true (earlier.forM Command.perform) :=
      local_forM fun op' hop' => hchars.isStraight (hcommands ▸ List.mem_append_left _ hop')
    have hthere := hstraight.isLocal.weaken.later h.pose (hlocal.adopt_of_ok hmid)
      ((before ++ used).length - 1) earlier.length
    rw [hop] at hthere
    rw [hruns, (hnext.later mid earlier.length).runFor_command_of_error hboth hglyph hstraight
      hthere, Fault.relocate_relocate, Machine.later_later, List.append_assoc]
    rfl

end Commands

theorem StraightRow.notMem {mode : Mode} {row : List Char} (h : StraightRow mode row) :
    '\n' ∉ row :=
  fun hmem => (h _ hmem).1 rfl

theorem StraightRow.runFor_start {mode : Mode} {row : List Char} (h : StraightRow mode row)
    (s : Setting) (more : Nat) :
    runFor (more + 1) (s.start (rowProgram mode row)) = runFor (more + 1)
      { s.start (rowProgram mode row) with pose := .inRow mode (mode.lead.length - 1) } := by
  cases hcommands : commandsOf mode row with
  | nil =>
    have hfillers : ∀ f ∈ row, IsFiller mode f := fun f hf =>
      h.isFiller hf (List.filterMap_eq_nil_iff.mp hcommands f hf)
    have hstop : (Command.ofGlyph? '@' mode).isSome = true := by cases mode <;> decide
    exact s.runFor_start h.notMem rfl hfillers hstop more
  | cons op commands =>
    obtain ⟨fillers, c, rest, hrow, hfillers, -, hop, -⟩ := h.exists_first hcommands
    have hsplit : row ++ ['@'] = fillers ++ c :: (rest ++ ['@']) := by
      rw [hrow, List.append_assoc, List.cons_append]
    exact s.runFor_start h.notMem hsplit hfillers (Option.isSome_of_eq_some hop) more

theorem StraightRow.run_start {mode : Mode} {row : List Char} (h : StraightRow mode row)
    (s : Setting) (hflush : s.output.flushFails = false) {budget k : Nat} (hk : k < budget) :
    ∃ more, run budget (s.start (rowProgram mode row)) = runFor (k + (more + 1))
      { s.start (rowProgram mode row) with pose := .inRow mode (mode.lead.length - 1) } := by
  obtain ⟨more, rfl⟩ := Nat.exists_eq_add_of_lt hk
  exact ⟨more, (run_eq_runFor hflush _).trans (h.runFor_start s (k + more))⟩

/-- A row of straight-line commands of a mode, with characters between them that are passed over,
does what the commands do one after the other in this mode, anywhere on the same grid and with the
heading along the row. If no command fails, the run ends with the data that the commands leave, after
one tick for each and one for the stop. If one fails, the run ends with the same fault at the place of
this command, with the data that it leaves and as many ticks as there are commands before it. -/
theorem straight_row_runs_in_sequence {mode : Mode} {row : List Char} (hrow : StraightRow mode row)
    (s : Setting) (hflush : s.output.flushFails = false) (p : Vec) {budget : Nat}
    (hbudget : (commandsOf mode row).length < budget) :
    (∀ d, (commandsOf mode row).forM Command.perform
        { s.start (rowProgram mode row) with pose := ⟨p, mode.forward, mode⟩ } = .ok () d →
      ∃ m, run budget (s.start (rowProgram mode row)) = .ok .terminated m ∧ m.SameData d ∧
        m.tick = (commandsOf mode row).length + 1) ∧
    ∀ earlier op rest mid fault d, commandsOf mode row = earlier ++ op :: rest →
      earlier.forM Command.perform
        { s.start (rowProgram mode row) with pose := ⟨p, mode.forward, mode⟩ } = .ok () mid →
      op.perform mid = .error fault d →
      ∃ m, run budget (s.start (rowProgram mode row)) = .error (fault.relocate m.position) m ∧
        m.SameData d ∧ m.tick = earlier.length ∧
        ∃ before c after, row = before ++ c :: after ∧ commandsOf mode before = earlier ∧
          Command.ofGlyph? c mode = some op ∧ m.position = ⟨(mode.lead ++ before).length, 0⟩ := by
  have hready := s.ready_start mode hrow.notMem
  have hrun := fun k (hk : k < budget) => hrow.run_start s hflush hk
  have htick : (s.start (rowProgram mode row)).tick = 0 := rfl
  generalize s.start (rowProgram mode row) = start at hready hrun htick ⊢
  constructor
  · intro d hd
    have hlocal : Local true ((commandsOf mode row).forM Command.perform) :=
      local_forM fun op hop => hrow.isStraight hop
    have hthere := hlocal.inRow start mode p (mode.lead.length - 1)
    rw [hd] at hthere
    obtain ⟨more, hmore⟩ := hrun _ hbudget
    rw [hready.runFor_commands hrow hthere more] at hmore
    refine ⟨_, hmore, ⟨rfl, rfl, rfl, rfl, rfl⟩, ?_⟩
    simp only [Machine.later, htick, Nat.zero_add]
  · intro earlier op rest mid fault d hcommands hmid hop
    have hstraight : op.IsStraight mode :=
      hrow.isStraight (hcommands ▸ List.mem_append_right _ List.mem_cons_self)
    have hlocal : Local true (earlier.forM Command.perform) :=
      local_forM fun op' hop' => hrow.isStraight (hcommands ▸ List.mem_append_left _ hop')
    have hthere := hlocal.inRow start mode p (mode.lead.length - 1)
    rw [hmid] at hthere
    have hfails := hlocal.inRow_after hstraight.isLocal.weaken hmid
      (mode.lead.length - 1)
    rw [hop] at hfails
    obtain ⟨before, c, after, hsplit, hbefore, hc, hstops⟩ :=
      hready.runFor_commands_of_error hrow hcommands hthere hfails
    have hshort : earlier.length < budget := by
      have hlength := congrArg List.length hcommands
      simp only [List.length_append] at hlength
      omega
    obtain ⟨more, hmore⟩ := hrun _ hshort
    rw [hstops, Fault.relocate_relocate] at hmore
    refine ⟨Machine.later _ _ (.inRow mode (mode.lead ++ before).length) earlier.length, hmore,
      ⟨rfl, rfl, rfl, rfl, rfl⟩, ?_, before, c, after, hsplit, hbefore, hc, rfl⟩
    simp only [Machine.later, htick, Nat.zero_add]

/-- The division fails; the letter before it is passed over, and the addition is not reached. The
other row appends two digits to a text and comes to its end. -/
theorem straight_row_runs_in_sequence_division :
    let s : Setting := ⟨[.integer 4, .integer 9], [], .ofBytes [], .empty, .first, ""⟩
    let row := ['a', 'é', 'n', ':', '+']
    let other := ['1', 'é', '2']
    (StraightRow .cardinal row ∧
      ∃ m, run 9 (s.start (rowProgram .cardinal row)) = .error (.divisionByZero m.position) m ∧
        m.stack = [.integer 9] ∧ m.tick = 2) ∧
    StraightRow .ordinal other ∧
      ∃ m, run 9 (s.start (rowProgram .ordinal other)) = .ok .terminated m ∧
        m.stack = [.text "412", .integer 9] ∧ m.tick = 3 := by
  intro s row other
  have hrow : StraightRow .cardinal row := by decide
  have hother : StraightRow .ordinal other := by decide
  have hcommands : commandsOf .cardinal row = [.cardinal .ten, .cardinal (.unary .isZero)] ++
      .cardinal (.division .quotient) :: [.cardinal (.binary .add)] := by decide
  have hshort : (commandsOf .cardinal row).length < 9 := by decide
  have hshort' : (commandsOf .ordinal other).length < 9 := by decide
  obtain ⟨m, hrun, hdata, htick, -⟩ := (straight_row_runs_in_sequence hrow s rfl ⟨0, 0⟩ hshort).2
    _ _ _ _ _ _ hcommands rfl rfl
  obtain ⟨m', hrun', hdata', htick'⟩ :=
    (straight_row_runs_in_sequence hother s rfl ⟨0, 0⟩ hshort').1 _ rfl
  exact ⟨⟨hrow, m, hrun, hdata.stack, htick⟩, hother, m', hrun', hdata'.stack.trans (by decide +kernel),
    htick'.trans (by decide)⟩

end Gridwalk
