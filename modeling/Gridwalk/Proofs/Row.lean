import Gridwalk.Proofs.Runs
import Gridwalk.Proofs.Stall
import Gridwalk.Proofs.Transposition

/-! # Programs of one row

A program that is a single line is walked from left to right in both modes: in ordinal mode the walk
is diagonal, but an axis with one cell only does not count. The place of the pointer is told by the
part of the line that lies behind it, so nothing here depends on counting columns. What happens at
the right end of the line is left out, since every program here stops there.
-/

namespace Gridwalk
set_option autoImplicit false

open Act

namespace Grid

theorem ofSource_row {row : List Char} (h : '\n' ∉ row) :
    ofSource (String.ofList (row ++ ['@'])) = ofLines [row ++ ['@']] := by
  have hline : '\n' ∉ row ++ ['@'] := by simpa using h
  have hend : (row ++ ['@']).getLast? ≠ some '\r' := by simp
  have hlines : sourceLines (row ++ ['@']) = [row ++ ['@']] := by
    simp [sourceLines, Text.lines_of_notMem hline, dropReturn]
  rw [ofSource, String.toList_ofList, hlines]

theorem box_row (before : List Char) (c : Char) (after : List Char) :
    (ofLines [before ++ c :: after]).box = .span ⟨0, 0⟩ ⟨before.length + after.length, 0⟩ := by
  have hwidth : (([before ++ c :: after].map List.length).foldr max 1 : Nat) =
      before.length + after.length + 1 := by
    simp
    omega
  simp only [ofLines, tabulate, hwidth]
  congr 2
  omega

theorem contains_row (before : List Char) (c : Char) (after : List Char) :
    (ofLines [before ++ c :: after]).box.Contains ⟨before.length, 0⟩ := by
  rw [box_row]
  refine ⟨?_, ?_, ?_, ?_⟩ <;> dsimp only [Box.span] <;> omega

theorem get_row (before : List Char) (c : Char) (after : List Char) :
    (ofLines [before ++ c :: after]).get ⟨before.length, 0⟩ = Text.code c := by
  rw [ofLines, get_tabulate]
  refine (if_pos (contains_row before c after)).trans ?_
  simp [Text.codes]

end Grid

theorem Terrain.eq_glyph_of_ofCell? {c : Char} {t : Terrain} (h : ofCell? (Text.code c) = some t) :
    c = t.glyph := by
  have ht := List.find?_some h
  simp only [Text.code, beq_iff_eq, Int.natCast_inj] at ht
  exact Char.toNat_inj.mp ht

theorem Command.ofGlyph?_glyph_of_terrain (t : Terrain) (mode : Mode) :
    ofGlyph? t.glyph mode = none := by
  cases t <;> cases mode <;> decide

theorem Terrain.ofCell?_of_command {c : Char} {mode : Mode}
    (h : (Command.ofGlyph? c mode).isSome = true) : ofCell? (Text.code c) = none := by
  by_contra hne
  obtain ⟨t, ht⟩ := Option.ne_none_iff_exists'.mp hne
  rw [eq_glyph_of_ofCell? ht, Command.ofGlyph?_glyph_of_terrain] at h
  cases h

theorem Command.ofCell?_code (c : Char) (mode : Mode) :
    ofCell? (Text.code c) mode = ofGlyph? c mode := by
  rw [ofCell?, Text.scalar?_code, Option.bind_some]

def Mode.forward : Mode → Heading
  | cardinal => .east
  | ordinal => .southEast

def Pose.inRow (mode : Mode) (x : Int) : Pose := ⟨⟨x, 0⟩, mode.forward, mode⟩

theorem Pose.inRow_concat (mode : Mode) (before : List Char) (c : Char) :
    inRow mode ((before ++ [c]).length - 1) = inRow mode before.length := by
  have hlength : ((before ++ [c]).length : Int) - 1 = before.length := by
    rw [List.length_append, List.length_singleton]
    omega
  rw [hlength]

theorem Pose.move_inRow {mode : Mode} {before : List Char} (h : mode = .ordinal → before ≠ [])
    (c : Char) (after : List Char) :
    (inRow mode (before.length - 1)).move (Grid.ofLines [before ++ c :: after]).box =
      inRow mode before.length := by
  have hwrap := Box.wrap_of_contains (Grid.contains_row before c after)
  cases mode with
  | cardinal =>
    have hnext : (⟨before.length - 1, 0⟩ + Heading.east.vec : Vec) = ⟨before.length, 0⟩ := by
      ext <;> simp [Heading.vec]
    simp only [inRow, move, Mode.forward, hnext, hwrap]
  | ordinal =>
    have hbounce : bounce (Grid.ofLines [before ++ c :: after]).box ⟨before.length - 1, 0⟩
        .southEast = .southEast := by
      rw [Grid.box_row]
      simp [bounce, Box.span, Box.rows, Heading.vec]
    have hcolumns : (Grid.ofLines [before ++ c :: after]).box.columns ≠ 1 := by
      have hlength : 0 < before.length := List.length_pos_of_ne_nil (h rfl)
      rw [Grid.box_row]
      dsimp only [Box.span, Box.columns]
      omega
    have hnext : (⟨before.length - 1, 0⟩ + stepWithin (Grid.ofLines [before ++ c :: after]).box
        .southEast : Vec) = ⟨before.length, 0⟩ := by
      rw [stepWithin, if_neg hcolumns, Grid.box_row]
      ext <;> simp [Box.span, Box.rows, Heading.vec]
    simp only [inRow, move, Mode.forward, hbounce, hnext, hwrap]

namespace Machine

/-- Whether the pointer stands at the end of the part `before` of the only row, with the heading
along it, and the part `rest` lies ahead. -/
structure Facing (m : Machine) (mode : Mode) (before rest : List Char) : Prop where
  grid : m.grid = .ofLines [before ++ rest]
  pose : m.pose = .inRow mode (before.length - 1)
  diagonal : mode = .ordinal → before ≠ []

variable {m m' : Machine} {mode : Mode} {before rest : List Char} {c : Char}

theorem Facing.pass {used : List Char} (h : m.Facing mode before (used ++ rest))
    (hgrid : m'.grid = m.grid) (hpose : m'.pose = .inRow mode ((before ++ used).length - 1)) :
    m'.Facing mode (before ++ used) rest where
  grid := by rw [hgrid, h.grid, List.append_assoc]
  pose := hpose
  diagonal hmode hnil := h.diagonal hmode (List.append_eq_nil_iff.mp hnil).1

theorem Facing.pass_one (h : m.Facing mode before (c :: rest)) (hgrid : m'.grid = m.grid)
    (hpose : m'.pose = .inRow mode before.length) : m'.Facing mode (before ++ [c]) rest := by
  have hsplit : m.Facing mode before ([c] ++ rest) := h
  exact hsplit.pass hgrid (hpose.trans (Pose.inRow_concat mode before c).symm)

theorem Facing.move (h : m.Facing mode before (c :: rest)) :
    m.pose.move m.grid.box = .inRow mode before.length := by
  rw [h.pose, h.grid]
  exact Pose.move_inRow h.diagonal c rest

theorem Facing.get (h : m.Facing mode before (c :: rest)) :
    m.grid.get ⟨before.length, 0⟩ = Text.code c := by
  rw [h.grid]
  exact Grid.get_row before c rest

theorem Facing.advance (h : m.Facing mode before (c :: rest))
    (hc : Terrain.ofCell? (Text.code c) = none) (inLiteral : Bool) :
    m.pose.advance m.grid inLiteral =
      (.inRow mode before.length, inLiteral || (Command.ofGlyph? c mode).isSome) := by
  have hcell : m.grid.get (m.pose.move m.grid.box).position = Text.code c := by
    rw [h.move]
    exact h.get
  rw [Pose.advance_of_no_terrain (hcell ▸ hc), hcell, Command.ofCell?_code, h.move, h.pose]
  rfl

end Machine

theorem takeCell_row {m : Machine} {mode : Mode} {before rest : List Char} {c : Char}
    (h : m.Facing mode before (c :: rest)) :
    takeCell m = .ok (Text.code c) { m with pose := .inRow mode before.length } := by
  have hcell : Machine.cell { m with pose := .inRow mode before.length } = Text.code c := h.get
  rw [← hcell, ← h.move]
  rfl

section Seek

variable {m m' : Machine}

theorem seekCommand_of_found (h : (m.pose.advance m.grid m.literal.isSome).2 = true) :
    seekCommand m = .ok () { m with pose := (m.pose.advance m.grid m.literal.isSome).1 } := by
  have hfirst : Pose.FirstFinds m.grid m.literal.isSome m.pose 0 :=
    ⟨h, fun k hk => absurd hk (Nat.not_lt_zero k)⟩
  rw [seekCommand_of_firstFinds hfirst]
  rfl

theorem seekCommand_of_pass (hpass : (m.pose.advance m.grid m.literal.isSome).2 = false)
    (h : seekCommand { m with pose := (m.pose.advance m.grid m.literal.isSome).1 } = .ok () m') :
    seekCommand m = .ok () m' := by
  by_cases hfinds : ∃ n, Pose.Finds m.grid m.literal.isSome
      (m.pose.advance m.grid m.literal.isSome).1 n
  · obtain ⟨n, hn⟩ := Pose.exists_firstFinds hfinds
    have hfirst : Pose.FirstFinds m.grid m.literal.isSome m.pose (n + 1) := by
      refine ⟨(Pose.finds_advance_iff n).mp hn.1, fun k hk hfound => ?_⟩
      cases k with
      | zero => exact Bool.eq_false_iff.mp hpass hfound
      | succ k =>
        exact hn.2 k (Nat.lt_of_succ_lt_succ hk) ((Pose.finds_advance_iff k).mpr hfound)
    have hseek := seekCommand_of_firstFinds
      (m := { m with pose := (m.pose.advance m.grid m.literal.isSome).1 }) hn
    cases hseek.symm.trans h
    rw [seekCommand_of_firstFinds hfirst, Machine.walked, ← Pose.walk_advance]
    rfl
  · have hnever := seekCommand_of_not_finds
      (m := { m with pose := (m.pose.advance m.grid m.literal.isSome).1 })
      fun n hn => hfinds ⟨n, hn⟩
    cases hnever.symm.trans h

theorem seekCommand_literal {mode : Mode} {before rest : List Char} {c : Char}
    (h : m.Facing mode before (c :: rest)) (hliteral : m.literal.isSome = true)
    (hc : Terrain.ofCell? (Text.code c) = none) :
    seekCommand m = .ok () { m with pose := .inRow mode before.length } := by
  have hadvance := h.advance hc m.literal.isSome
  rw [hliteral, Bool.true_or, ← hliteral] at hadvance
  have hfound : (m.pose.advance m.grid m.literal.isSome).2 = true := by
    rw [hadvance, hliteral]
  rw [seekCommand_of_found hfound, hadvance]

def IsFiller (mode : Mode) (c : Char) : Prop :=
  Terrain.ofCell? (Text.code c) = none ∧ Command.ofGlyph? c mode = none

theorem seekCommand_row {mode : Mode} {before fillers after : List Char} {c : Char}
    (h : m.Facing mode before (fillers ++ c :: after)) (hliteral : m.literal = none)
    (hfillers : ∀ f ∈ fillers, IsFiller mode f)
    (hc : (Command.ofGlyph? c mode).isSome = true) :
    seekCommand m = .ok () { m with pose := .inRow mode (before ++ fillers).length } := by
  induction fillers generalizing m before with
  | nil =>
    have hadvance := h.advance (Terrain.ofCell?_of_command hc) m.literal.isSome
    have hfound : (m.pose.advance m.grid m.literal.isSome).2 = true := by
      rw [hadvance, hc, Bool.or_true]
    rw [seekCommand_of_found hfound, hadvance, List.append_nil]
  | cons f fillers ih =>
    obtain ⟨hterrain, hcommand⟩ := hfillers f List.mem_cons_self
    have hadvance := h.advance hterrain m.literal.isSome
    have hpass : (m.pose.advance m.grid m.literal.isSome).2 = false := by
      rw [hadvance, hcommand, hliteral]
      rfl
    apply seekCommand_of_pass hpass
    rw [hadvance]
    have hnext : Machine.Facing { m with pose := .inRow mode before.length } mode (before ++ [f])
        (fillers ++ c :: after) := h.pass_one rfl rfl
    rw [ih hnext hliteral fun x hx => hfillers x (List.mem_cons_of_mem f hx), List.append_assoc]
    rfl

end Seek

section Tick

variable {m m' : Machine}

theorem executeCell_of_command {op : Command} (hliteral : m.literal = none)
    (hop : Command.ofCell? m.cell m.mode = some op) (hopen : op ≠ .shared .openLiteral) :
    executeCell m = repeated op.perform m := by
  rw [executeCell, get_bind, hliteral, hop]
  cases op with
  | cardinal op => rfl
  | ordinal op => rfl
  | shared op =>
    cases op with
    | openLiteral => exact absurd rfl hopen
    | _ => rfl

theorem executeCell_of_openLiteral (hliteral : m.literal = none)
    (hop : Command.ofCell? m.cell m.mode = some (.shared .openLiteral)) :
    executeCell m = .ok () { m with literal := some #[] } := by
  rw [executeCell, get_bind, hliteral, hop]
  rfl

theorem executeCell_of_literal {captured : Array Int} (hliteral : m.literal = some captured) :
    executeCell m = literalCell captured m.cell m := by
  rw [executeCell, get_bind, hliteral]

theorem repeated_of_once (act : Act Unit) (honce : m.queue.headD (.times 1) = .times 1)
    (hdone : m.done = false) : repeated act m = act { m with queue := m.queue.drop 1 } := by
  have htake : takeRepetition m = .ok (.times 1) { m with queue := m.queue.drop 1 } := by
    rw [← honce]
    rfl
  rw [repeated, bind_of_ok htake]
  dsimp only
  rw [repeatTimes, get_bind, if_neg (by rw [hdone]; exact Bool.false_ne_true)]
  cases hact : act { m with queue := m.queue.drop 1 } with
  | ok _ m' =>
    rw [bind_of_ok hact]
    rfl
  | error fault m' => rw [bind_of_error hact]

theorem repeated_of_queue_nil (act : Act Unit) (hqueue : m.queue = []) (hdone : m.done = false) :
    repeated act m = act m := by
  have hsame : { m with queue := m.queue.drop 1 } = m := by
    obtain ⟨⟩ := m
    cases hqueue
    rfl
  rw [repeated_of_once act (by rw [hqueue]; rfl) hdone, hsame]

theorem runFor_succ_of_seek {m₁ : Machine} (hdone : m.done = false) (hdone' : m'.done = false)
    (hseek : seekCommand m = .ok () m₁) (hseek' : seekCommand m' = .ok () m₁) (n : Nat) :
    runFor (n + 1) m = runFor (n + 1) m' := by
  cases hexecute : executeCell m₁ with
  | ok _ m₂ =>
    rw [runFor_succ_of_ok hdone (step_of_execute hdone hseek hexecute),
      runFor_succ_of_ok hdone' (step_of_execute hdone' hseek' hexecute)]
  | error fault m₂ =>
    rw [runFor_succ_of_error hdone (step_of_execute_error hdone hseek hexecute),
      runFor_succ_of_error hdone' (step_of_execute_error hdone' hseek' hexecute)]

/-- Whether every run of a machine goes on as a run of another one after `n` ticks. -/
def RunsOn (n : Nat) (m m' : Machine) : Prop := ∀ more, runFor (n + more) m = runFor more m'

theorem RunsOn.refl (m : Machine) : RunsOn 0 m m := by
  intro more
  rw [Nat.zero_add]

theorem RunsOn.trans {n k : Nat} {m'' : Machine} (h : RunsOn n m m') (h' : RunsOn k m' m'') :
    RunsOn (n + k) m m'' := by
  intro more
  rw [Nat.add_assoc, h, h']

theorem RunsOn.of_execute {m₁ : Machine} (hdone : m.done = false)
    (hseek : seekCommand m = .ok () m₁) (hexecute : executeCell m₁ = .ok () m') :
    RunsOn 1 m { m' with tick := m'.tick + 1 } := by
  intro more
  rw [Nat.add_comm]
  exact runFor_succ_of_ok hdone (step_of_execute hdone hseek hexecute) more

end Tick

namespace Machine

structure Ready (m : Machine) (mode : Mode) (before rest : List Char) : Prop
    extends m.Facing mode before rest where
  done : m.done = false
  literal : m.literal = none
  queue : m.queue = []

variable {m m' : Machine} {mode : Mode} {before fillers after rest : List Char} {c : Char}
  {op : Command}

theorem Facing.ofCell? (h : m.Facing mode before (fillers ++ c :: after)) :
    Command.ofCell? (m.grid.get ⟨(before ++ fillers).length, 0⟩) mode = Command.ofGlyph? c mode := by
  have hget := Grid.get_row (before ++ fillers) c after
  rw [List.append_assoc, ← h.grid] at hget
  rw [hget, Command.ofCell?_code]

theorem Facing.executeCell (h : m.Facing mode before (fillers ++ c :: after))
    (hliteral : m.literal = none) (hop : Command.ofGlyph? c mode = some op)
    (hopen : op ≠ .shared .openLiteral) :
    Gridwalk.executeCell { m with pose := .inRow mode (before ++ fillers).length } =
      repeated op.perform { m with pose := .inRow mode (before ++ fillers).length } :=
  executeCell_of_command hliteral (h.ofCell?.trans hop) hopen

theorem Facing.runsOn (h : m.Facing mode before (fillers ++ c :: after)) (hdone : m.done = false)
    (hliteral : m.literal = none) (hfillers : ∀ f ∈ fillers, IsFiller mode f)
    (hop : Command.ofGlyph? c mode = some op) (hopen : op ≠ .shared .openLiteral)
    (hact : repeated op.perform { m with pose := .inRow mode (before ++ fillers).length } =
      .ok () m') :
    RunsOn 1 m { m' with tick := m'.tick + 1 } := by
  have hseek := seekCommand_row h hliteral hfillers (Option.isSome_of_eq_some hop)
  exact .of_execute hdone hseek ((h.executeCell hliteral hop hopen).trans hact)

theorem Facing.runFor_of_error {fault : Fault} (h : m.Facing mode before (fillers ++ c :: after))
    (hdone : m.done = false) (hliteral : m.literal = none)
    (hfillers : ∀ f ∈ fillers, IsFiller mode f)
    (hop : Command.ofGlyph? c mode = some op) (hopen : op ≠ .shared .openLiteral)
    (hact : repeated op.perform { m with pose := .inRow mode (before ++ fillers).length } =
      .error fault m') (more : Nat) :
    runFor (more + 1) m = .error fault m' := by
  have hseek := seekCommand_row h hliteral hfillers (Option.isSome_of_eq_some hop)
  have hexecute := (h.executeCell hliteral hop hopen).trans hact
  exact runFor_succ_of_error hdone (step_of_execute_error hdone hseek hexecute) more

section Next

variable (h : m.Facing mode before (c :: after)) (hdone : m.done = false)
  (hliteral : m.literal = none) (hop : Command.ofGlyph? c mode = some op)
  (hopen : op ≠ .shared .openLiteral)
include h hdone hliteral hop hopen

theorem Facing.runsOn_next
    (hact : Gridwalk.repeated op.perform { m with pose := .inRow mode before.length } = .ok () m') :
    RunsOn 1 m { m' with tick := m'.tick + 1 } := by
  have hfacing : m.Facing mode before ([] ++ c :: after) := h
  refine hfacing.runsOn hdone hliteral nofun hop hopen ?_
  rw [List.append_nil]
  exact hact

theorem Facing.runFor_next_of_error {fault : Fault}
    (hact : Gridwalk.repeated op.perform { m with pose := .inRow mode before.length } =
      .error fault m') (more : Nat) : runFor (more + 1) m = .error fault m' := by
  have hfacing : m.Facing mode before ([] ++ c :: after) := h
  refine hfacing.runFor_of_error hdone hliteral nofun hop hopen ?_ more
  rw [List.append_nil]
  exact hact

end Next

theorem Ready.repeated (h : m.Ready mode before rest) (pose : Pose) (act : Act Unit) :
    Gridwalk.repeated act { m with pose } = act { m with pose } :=
  repeated_of_queue_nil act h.queue h.done

theorem Ready.runFor_stop (h : m.Ready mode before (fillers ++ '@' :: after))
    (hfillers : ∀ f ∈ fillers, IsFiller mode f) (more : Nat) :
    runFor (more + 1) m = .ok .terminated { m with
      pose := .inRow mode (before ++ fillers).length, tick := m.tick + 1, done := true } := by
  have hop : Command.ofGlyph? '@' mode = some (.shared .stop) := by cases mode <;> decide
  have hact := h.repeated (.inRow mode (before ++ fillers).length) (Command.shared .stop).perform
  rw [Nat.add_comm, h.runsOn h.done h.literal hfillers hop (by decide) hact]
  exact runFor_of_done rfl more

theorem Ready.slash (h : m.Ready .cardinal [] ('/' :: rest)) :
    Ready { m with pose := .inRow .ordinal 0 } .ordinal ['/'] rest where
  grid := h.grid
  pose := rfl
  diagonal _ := List.cons_ne_nil _ _
  done := h.done
  literal := h.literal
  queue := h.queue

theorem Ready.runFor_slash (h : m.Ready .cardinal [] ('/' :: (fillers ++ c :: after)))
    (hfillers : ∀ f ∈ fillers, IsFiller .ordinal f)
    (hc : (Command.ofGlyph? c .ordinal).isSome = true) (more : Nat) :
    runFor (more + 1) m = runFor (more + 1) { m with pose := .inRow .ordinal 0 } := by
  have hcell : m.grid.get (m.pose.move m.grid.box).position = Text.code '/' := by
    rw [h.move]
    exact h.get
  have hslash : Terrain.ofCell? (Text.code '/') = some .slash := by decide
  have hadvance : m.pose.advance m.grid m.literal.isSome = (.inRow .ordinal 0, false) := by
    rw [Pose.advance_of_terrain (hcell ▸ hslash), h.move]
    rfl
  have hseek' := seekCommand_row h.slash.toFacing h.literal hfillers hc
  have hpass : (m.pose.advance m.grid m.literal.isSome).2 = false := by rw [hadvance]
  have hseek := seekCommand_of_pass hpass (by rw [hadvance]; exact hseek')
  exact runFor_succ_of_seek h.done h.slash.done hseek hseek' more

end Machine

structure Setting where
  stack : Stack
  arguments : List String
  input : Input
  output : Output
  dice : Dice
  clock : String

def Setting.start (s : Setting) (source : String) : Machine :=
  { Machine.load (.ofSource source) s.arguments s.input s.output s.dice s.clock with
    stack := s.stack }

def Mode.lead : Mode → List Char
  | cardinal => []
  | ordinal => ['/']

/-- The one-row program that does what a row says in a mode, and stops. -/
def rowProgram (mode : Mode) (row : List Char) : String := String.ofList (mode.lead ++ row ++ ['@'])

namespace Setting

variable {mode : Mode} {row fillers after : List Char} {c : Char}

theorem ready_start (s : Setting) (mode : Mode) (h : '\n' ∉ row) :
    Machine.Ready { s.start (rowProgram mode row) with pose := .inRow mode (mode.lead.length - 1) }
      mode mode.lead (row ++ ['@']) where
  grid := by
    have hlead : '\n' ∉ mode.lead ++ row := by cases mode <;> simpa [Mode.lead] using h
    exact (Grid.ofSource_row hlead).trans (by rw [List.append_assoc])
  pose := rfl
  diagonal hmode := by
    rw [hmode]
    exact List.cons_ne_nil _ _
  done := rfl
  literal := rfl
  queue := rfl

theorem runFor_start (s : Setting) (h : '\n' ∉ row) (hrow : row ++ ['@'] = fillers ++ c :: after)
    (hfillers : ∀ f ∈ fillers, IsFiller mode f) (hc : (Command.ofGlyph? c mode).isSome = true)
    (more : Nat) :
    runFor (more + 1) (s.start (rowProgram mode row)) = runFor (more + 1)
      { s.start (rowProgram mode row) with pose := .inRow mode (mode.lead.length - 1) } := by
  cases mode with
  | cardinal => rfl
  | ordinal =>
    have hready := s.ready_start .ordinal h
    have hslash : Machine.Ready (s.start (rowProgram .ordinal row)) .cardinal []
        ('/' :: (fillers ++ c :: after)) :=
      { grid := hready.grid.trans (by rw [hrow]; rfl)
        pose := rfl
        diagonal := nofun
        done := rfl
        literal := rfl
        queue := rfl }
    exact hslash.runFor_slash hfillers hc more

end Setting

end Gridwalk
