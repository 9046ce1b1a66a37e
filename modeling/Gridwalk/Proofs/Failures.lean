import Gridwalk.Proofs.LabelText
import Gridwalk.Proofs.Locality
import Gridwalk.Proofs.Row

/-! # How commands fail

A command checks its operands before it changes anything else. So if a stream is not to blame, a
failed command has taken operands and done nothing else. The one exception writes a text cell by
cell, and what it has written before the fault stays.
-/

namespace Gridwalk
set_option autoImplicit false

open Act

/-- Whether a fault is raised by a command at a place, other than through a stream. -/
def Fault.IsRaisedAt (place : Vec) : Fault → Prop
  | divisionByZero p | invalidCodePoint _ p | coordinateOutOfRange _ p | positionOutOfRange _ p
  | cellOutOfRange _ p | exponentTooLarge _ p => p = place
  | overflow _ => True
  | unknownCommand .. | noReachableCommand .. | stream _ => False

def Fault.IsStream (fault : Fault) : Prop := ∃ cause, fault = .stream cause

namespace Stack

inductive Pop : Stack → Stack → Prop where
  | int (s : Stack) : Pop s s.popInt.2
  | text (s : Stack) : Pop s s.popText.2

abbrev Leaves : Stack → Stack → Prop := Relation.ReflTransGen Pop

end Stack

/-- What a failed command leaves: anything if a stream failed, else the machine without operands. -/
inductive Failure (m : Machine) : Fault → Machine → Prop where
  | stream (cause : StreamFault) (m' : Machine) : Failure m (.stream cause) m'
  | operands {fault : Fault} (h : fault.IsRaisedAt m.position) {s : Stack}
    (hs : m.stack.Leaves s) : Failure m fault { m with stack := s }

theorem Failure.here {m : Machine} {fault : Fault} (h : fault.IsRaisedAt m.position) :
    Failure m fault m :=
  .operands h .refl

theorem Failure.of_leaves {m m' : Machine} {fault : Fault} {s : Stack} (hs : m.stack.Leaves s)
    (h : Failure { m with stack := s } fault m') : Failure m fault m' := by
  cases h with
  | stream cause => exact .stream cause m'
  | operands h hs' => exact Failure.operands (m := m) h (hs.trans hs')

namespace Act

variable {α β : Type} {P : Fault → Prop}

def FailsWith (P : Fault → Prop) (act : Act α) : Prop :=
  ∀ m fault m', act m = .error fault m' → P fault

/-- Whether an act that fails, other than through a stream, has taken operands only. -/
def FailsCleanly (act : Act α) : Prop :=
  ∀ m fault m', act m = .error fault m' → Failure m fault m'

structure TakesOnly (act : Act α) : Prop where
  cleanly : FailsCleanly act
  kept : ∀ m a m', act m = .ok a m' → ∃ s, m.stack.Leaves s ∧ m' = { m with stack := s }

section Faults

theorem FailsWith.pure (a : α) : FailsWith P (Pure.pure a) := by
  intro m fault m' h
  cases h

theorem FailsWith.modifyGet (f : Machine → α × Machine) : FailsWith P (modifyGet f) := by
  intro m fault m' h
  cases h

theorem FailsWith.modify (f : Machine → Machine) : FailsWith P (modify f) := FailsWith.modifyGet _

theorem FailsWith.bind {x : Act α} {f : α → Act β} (hx : FailsWith P x)
    (hf : ∀ a, FailsWith P (f a)) : FailsWith P (x >>= f) := by
  intro m fault m' h
  cases hfirst : x m with
  | ok a m₁ =>
    rw [bind_of_ok hfirst] at h
    exact hf a m₁ fault m' h
  | error fault₁ m₁ =>
    rw [bind_of_error hfirst] at h
    cases h
    exact hx m fault m' hfirst

theorem FailsWith.get_bind {f : Machine → Act β} (hf : ∀ m, FailsWith P (f m)) :
    FailsWith P (get >>= f) :=
  fun m => hf m m

theorem FailsWith.ite {p : Prop} [Decidable p] {x y : Act α} (hx : FailsWith P x)
    (hy : FailsWith P y) : FailsWith P (if p then x else y) := by
  split
  · exact hx
  · exact hy

theorem failsWith_takeCell : FailsWith P takeCell :=
  (FailsWith.modify _).bind fun _ => .get_bind fun m => .pure m.cell

theorem failsWith_repeatTimes {act : Act Unit} (h : FailsWith P act) (n : Nat) :
    FailsWith P (repeatTimes act n) := by
  induction n with
  | zero => exact .pure _
  | succ n ih => exact .get_bind fun _ => .ite (.pure _) (h.bind fun _ => ih)

theorem failsWith_repeatEach {act : Act Unit} (h : FailsWith P act) (s : List Char) :
    FailsWith P (repeatEach act s) := by
  induction s with
  | nil => exact .pure _
  | cons c rest ih =>
    exact .get_bind fun _ => .ite (.pure _) ((FailsWith.modify _).bind fun _ => h.bind fun _ => ih)

theorem failsWith_repeated {act : Act Unit} (h : FailsWith P act) : FailsWith P (repeated act) := by
  refine (FailsWith.modifyGet _).bind fun r => ?_
  cases r with
  | times n => exact failsWith_repeatTimes h n
  | each s => exact failsWith_repeatEach h s.toList

theorem failsWith_literalCell (captured : Array Int) (cell : Int) :
    FailsWith P (literalCell captured cell) := by
  refine .ite ?_ (.ite ?_ ?_)
  · exact (FailsWith.modify _).bind fun _ => .get_bind fun _ => failsWith_repeated (.modify _)
  · exact failsWith_takeCell.bind fun _ => .modify _
  · exact (FailsWith.pure cell).bind fun _ => .modify _

end Faults

section Streams

theorem failsWith_reading (reader : Input.Reader α) :
    FailsWith Fault.IsStream (reading reader) := by
  intro m fault m' h
  unfold reading at h
  split at h
  · cases h
  · cases h
    exact ⟨_, rfl⟩

theorem failsWith_writing (writer : Output.Writer α) :
    FailsWith Fault.IsStream (writing writer) := by
  intro m fault m' h
  unfold writing at h
  split at h
  · cases h
  · cases h
    exact ⟨_, rfl⟩

theorem FailsWith.cleanly {act : Act α} (h : FailsWith Fault.IsStream act) : FailsCleanly act := by
  intro m fault m' herror
  obtain ⟨cause, rfl⟩ := h m fault m' herror
  exact .stream cause m'

end Streams

section Stack

theorem FailsCleanly.bind {x : Act α} {f : α → Act β} (hx : TakesOnly x)
    (hf : ∀ a, FailsCleanly (f a)) : FailsCleanly (x >>= f) := by
  intro m fault m' h
  cases hfirst : x m with
  | ok a m₁ =>
    rw [bind_of_ok hfirst] at h
    obtain ⟨s, hs, rfl⟩ := hx.kept m a m₁ hfirst
    exact .of_leaves hs (hf a _ fault m' h)
  | error fault₁ m₁ =>
    rw [bind_of_error hfirst] at h
    cases h
    exact hx.cleanly m fault m' hfirst

theorem TakesOnly.pure (a : α) : TakesOnly (Pure.pure a) where
  cleanly m fault m' h := by cases h
  kept m _ _ h := by
    cases h
    exact ⟨m.stack, .refl, rfl⟩

theorem TakesOnly.bind {x : Act α} {f : α → Act β} (hx : TakesOnly x) (hf : ∀ a, TakesOnly (f a)) :
    TakesOnly (x >>= f) where
  cleanly := .bind hx fun a => (hf a).cleanly
  kept m b m' h := by
    cases hfirst : x m with
    | ok a m₁ =>
      rw [bind_of_ok hfirst] at h
      obtain ⟨s, hs, rfl⟩ := hx.kept m a m₁ hfirst
      obtain ⟨s', hs', rfl⟩ := (hf a).kept _ b m' h
      exact ⟨s', hs.trans hs', rfl⟩
    | error fault₁ m₁ =>
      rw [bind_of_error hfirst] at h
      cases h

theorem TakesOnly.ite {p : Prop} [Decidable p] {x y : Act α} (hx : TakesOnly x) (hy : TakesOnly y) :
    TakesOnly (if p then x else y) := by
  split
  · exact hx
  · exact hy

theorem takesOnly_failHere (fault : Vec → Fault) (h : ∀ p, (fault p).IsRaisedAt p) :
    TakesOnly (failHere fault : Act α) where
  cleanly m _ _ herror := by
    cases herror
    exact .here (h m.position)
  kept m a m' hok := by cases hok

theorem takesOnly_popInt : TakesOnly popInt where
  cleanly _ _ _ h := by cases h
  kept m _ _ h := by
    cases h
    exact ⟨_, .single (.int m.stack), rfl⟩

theorem takesOnly_popText : TakesOnly popText where
  cleanly _ _ _ h := by cases h
  kept m _ _ h := by
    cases h
    exact ⟨_, .single (.text m.stack), rfl⟩

theorem takesOnly_popPair : TakesOnly popPair :=
  takesOnly_popInt.bind fun _ => takesOnly_popInt.bind fun _ => .pure _

theorem takesOnly_coordinate (n : Int) : TakesOnly (coordinate n) :=
  .ite (.pure n) (takesOnly_failHere _ fun _ => rfl)

theorem takesOnly_popPosition : TakesOnly popPosition :=
  takesOnly_popPair.bind fun pair => (takesOnly_coordinate pair.1).bind fun _ =>
    (takesOnly_coordinate pair.2).bind fun _ => .pure _

theorem takesOnly_divisionResult (divisor : Int) (result : Except Number.PowerFault (List Int)) :
    TakesOnly (divisionResult divisor result) := by
  cases result with
  | ok values => exact .pure values
  | error fault => cases fault <;> exact takesOnly_failHere _ fun _ => rfl

theorem cleanly_onTape (change : Tape → Except Overflow Tape) : FailsCleanly (onTape change) := by
  intro m fault m' h
  cases hchange : change m.tape with
  | ok t =>
    rw [onTape_of_ok hchange] at h
    cases h
  | error cause =>
    rw [onTape_of_error hchange] at h
    cases h
    exact .here trivial

theorem cleanly_writeCell (p : Vec) (cell : Int) : FailsCleanly (writeCell p cell) := by
  intro m fault m' h
  by_cases hroom : HasRoom m.grid p cell
  · rw [writeCell_of_hasRoom hroom] at h
    cases h
  · rw [writeCell_of_not_hasRoom hroom] at h
    cases h
    exact .here rfl

end Stack

end Act

section Commands

theorem failsWith_popPair {P : Fault → Prop} : FailsWith P popPair :=
  (FailsWith.modifyGet _).bind fun _ => (FailsWith.modifyGet _).bind fun _ => .pure _

theorem cleanly_cardinal (op : Cardinal) : FailsCleanly op.perform := by
  cases op with
  | division f =>
    exact .bind takesOnly_popPair fun _ => .bind (takesOnly_divisionResult _ _) fun _ =>
      (FailsWith.modify _).cleanly
  | call => exact .bind takesOnly_popPosition fun _ =>
      ((FailsWith.modify _).bind fun _ => .modify _).cleanly
  | jump => exact .bind takesOnly_popPosition fun _ => (FailsWith.modify _).cleanly
  | readCell =>
    exact .bind takesOnly_popPosition fun _ => (FailsWith.get_bind fun _ => .modify _).cleanly
  | writeCell =>
    refine .bind takesOnly_popInt fun cell => .bind takesOnly_popPosition fun p => ?_
    split
    · exact cleanly_writeCell p cell
    · exact TakesOnly.cleanly (takesOnly_failHere _ fun _ => rfl)
  | moveLeft | moveRight => exact cleanly_onTape _
  | seekLeft | seekRight => exact .bind takesOnly_popInt fun _ => cleanly_onTape _
  | writeChar =>
    refine .bind takesOnly_popInt fun n => ?_
    cases Text.scalar? n with
    | some c => exact (failsWith_writing _).cleanly
    | none => exact TakesOnly.cleanly (takesOnly_failHere _ fun _ => rfl)
  | digit | ten | minusOne | faceWest | faceEast | faceNorth | faceSouth =>
    exact (FailsWith.modify _).cleanly
  | unary | listing | rotate | store | pause =>
    exact ((FailsWith.modifyGet _).bind fun _ => .modify _).cleanly
  | binary => exact (failsWith_popPair.bind fun _ => .modify _).cleanly
  | replaceFactor =>
    exact ((FailsWith.modifyGet _).bind fun _ => failsWith_popPair.bind fun _ => .modify _).cleanly
  | depth | turnLeft | turnRight | fetch | pointer | argumentCount =>
    exact (FailsWith.get_bind fun _ => .modify _).cleanly
  | turnBySign =>
    exact ((FailsWith.modifyGet _).bind fun _ => .get_bind fun _ => .modify _).cleanly
  | skipIfZero =>
    exact ((FailsWith.modifyGet _).bind fun _ => .ite (.modify _) (.pure _)).cleanly
  | readByte | readChar =>
    refine ((failsWith_reading _).bind fun read => ?_).cleanly
    cases read <;> exact .modify _
  | writeByte => exact ((FailsWith.modifyGet _).bind fun _ => failsWith_writing _).cleanly
  | random =>
    exact ((FailsWith.modifyGet _).bind fun _ => (FailsWith.modifyGet _).bind fun _ =>
      .modify _).cleanly

theorem failsWith_popTexts {P : Fault → Prop} : FailsWith P popTexts :=
  (FailsWith.modifyGet _).bind fun _ => (FailsWith.modifyGet _).bind fun _ => .pure _

theorem failsWith_popLabelEnd? {P : Fault → Prop} : FailsWith P popLabelEnd? :=
  (FailsWith.modifyGet _).bind fun _ => .get_bind fun _ => .pure _

theorem failsWith_callLabel {P : Fault → Prop} : FailsWith P Ordinal.call.perform := by
  refine failsWith_popLabelEnd?.bind fun target => ?_
  cases target with
  | some p => exact (FailsWith.modify _).bind fun _ => .modify _
  | none => exact .pure _

theorem failsWith_jumpLabel {P : Fault → Prop} : FailsWith P Ordinal.jump.perform := by
  refine failsWith_popLabelEnd?.bind fun target => ?_
  cases target with
  | some p => exact .modify _
  | none => exact .pure _

theorem cleanly_ordinal {op : Ordinal} (hop : op ≠ .writeAfterLabel) : FailsCleanly op.perform := by
  cases op with
  | writeAfterLabel => exact absurd rfl hop
  | writeRegister => exact .bind takesOnly_popText fun _ => cleanly_onTape _
  | previousRegister | nextRegister => exact cleanly_onTape _
  | strafeLeft | strafeRight | joinStack | reverseStack | newline | empty =>
    exact (FailsWith.modify _).cleanly
  | digit | unary | listing | permuteStack =>
    exact ((FailsWith.modifyGet _).bind fun _ => .modify _).cleanly
  | binary | splitting | count => exact (failsWith_popTexts.bind fun _ => .modify _).cleanly
  | ternary =>
    exact ((FailsWith.modifyGet _).bind fun _ => failsWith_popTexts.bind fun _ => .modify _).cleanly
  | shuffle | randomChar =>
    exact ((FailsWith.modifyGet _).bind fun _ => (FailsWith.modifyGet _).bind fun _ =>
      .modify _).cleanly
  | ensureWest | ensureEast | ensureNorth | ensureSouth =>
    exact (FailsWith.get_bind fun _ => .ite (.modify _) (.pure _)).cleanly
  | compare => exact (failsWith_popTexts.bind fun _ => .get_bind fun _ => .modify _).cleanly
  | skipIfEmpty =>
    exact ((FailsWith.modifyGet _).bind fun _ => .ite (.modify _) (.pure _)).cleanly
  | call => exact failsWith_callLabel.cleanly
  | jump => exact failsWith_jumpLabel.cleanly
  | readAfterLabel =>
    refine (failsWith_popLabelEnd?.bind fun target => ?_).cleanly
    cases target with
    | some p => exact .get_bind fun _ => .modify _
    | none => exact .modify _
  | readRegister | time => exact (FailsWith.get_bind fun _ => .modify _).cleanly
  | readAll | readLine => exact ((failsWith_reading _).bind fun _ => .modify _).cleanly
  | write => exact ((FailsWith.modifyGet _).bind fun _ => failsWith_writing _).cleanly
  | writeLine =>
    exact ((FailsWith.modifyGet _).bind fun _ => (failsWith_writing _).bind fun _ =>
      failsWith_writing _).cleanly
  | nextArgument =>
    exact (FailsWith.get_bind fun _ => (FailsWith.modify _).bind fun _ => .modify _).cleanly

theorem failsWith_shared {P : Fault → Prop} (op : Shared) : FailsWith P op.perform := by
  cases op with
  | stop | openLiteral | skip | discard | pushReturn | dropReturn => exact .modify _
  | quoteNext =>
    refine failsWith_takeCell.bind fun cell => .get_bind fun m => ?_
    cases m.mode <;> exact .modify _
  | duplicate =>
    exact (FailsWith.modifyGet _).bind fun _ => (FailsWith.modify _).bind fun _ => .modify _
  | swap =>
    exact (FailsWith.modifyGet _).bind fun _ => (FailsWith.modifyGet _).bind fun _ =>
      (FailsWith.modify _).bind fun _ => .modify _
  | convert => exact (FailsWith.modifyGet _).bind fun _ => .get_bind fun _ => .modify _
  | iterate =>
    refine .get_bind fun m => ?_
    cases m.mode <;> exact (FailsWith.modifyGet _).bind fun _ => .modify _
  | goBack => exact .get_bind fun _ => (FailsWith.modify _).bind fun _ => .modify _
  | goBackKeeping => exact .get_bind fun _ => .modify _

def cellsBehind (v p : Vec) (s : List Char) : List (Vec × Int) :=
  s.mapIdx fun i c => (p + v.scale (i + 1), Text.code c)

theorem cellsBehind_cons (v p : Vec) (c : Char) (s : List Char) :
    cellsBehind v p (c :: s) = (p + v, Text.code c) :: cellsBehind v (p + v) s := by
  simp [cellsBehind, Vec.add_scale_one, Vec.add_add_scale]

theorem writeBehind_eq_error {v p : Vec} {s : List Char} {m m' : Machine} {fault : Fault}
    (h : writeBehind v p s m = .error fault m') :
    ∃ k < s.length, fault.IsRaisedAt m.position ∧
      m.grid.effective (cellsBehind v p (s.take k)) = cellsBehind v p (s.take k) ∧
      m' = { m with grid := m.grid.setAll (cellsBehind v p (s.take k)) } := by
  induction s generalizing p m with
  | nil => cases h
  | cons c rest ih =>
    by_cases hroom : HasRoom m.grid (p + v) (Text.code c)
    · rw [writeBehind, bind_of_ok (writeCell_of_hasRoom hroom)] at h
      obtain ⟨k, hk, hfault, heffective, rfl⟩ := ih h
      refine ⟨k + 1, Nat.succ_lt_succ hk, hfault, ?_, ?_⟩
      · rw [List.take_succ_cons, cellsBehind_cons, Grid.effective,
          if_pos (accepts_of_hasRoom hroom)]
        exact congrArg _ heffective
      · rw [List.take_succ_cons, cellsBehind_cons]
        rfl
    · rw [writeBehind, bind_of_error (writeCell_of_not_hasRoom hroom)] at h
      cases h
      exact ⟨0, Nat.succ_pos _, rfl, rfl, rfl⟩

theorem perform_writeAfterLabel_eq_error {m m' : Machine} {fault : Fault}
    (h : Ordinal.writeAfterLabel.perform m = .error fault m') :
    ∃ (text name : Value) (below : Stack) (p : Vec) (k : Nat),
      m.stack = text :: name :: below ∧
      Label.end? m.grid (Text.codes name.chars) m.heading = some p ∧ k < text.chars.length ∧
      fault.IsRaisedAt m.position ∧
      m.grid.effective (cellsBehind m.heading.vec p (text.chars.take k)) =
        cellsBehind m.heading.vec p (text.chars.take k) ∧
      m' = { m with
        stack := below
        grid := m.grid.setAll (cellsBehind m.heading.vec p (text.chars.take k)) } := by
  have hfirst : popText m = .ok m.stack.popText.1 { m with stack := m.stack.popText.2 } := rfl
  have hsecond (rest : Stack) : popLabelEnd? { m with stack := rest } =
      .ok (Label.end? m.grid (Text.codes rest.popText.1) m.heading)
        { m with stack := rest.popText.2 } := rfl
  rw [Ordinal.perform, bind_of_ok hfirst, bind_of_ok (hsecond _)] at h
  cases hend : Label.end? m.grid (Text.codes m.stack.popText.2.popText.1) m.heading with
  | none =>
    rw [hend] at h
    cases h
  | some p =>
    rw [hend] at h
    obtain ⟨k, hk, hraised, heffective, hlast⟩ := writeBehind_eq_error h
    cases hstack : m.stack with
    | nil =>
      rw [hstack] at hend
      cases hend
    | cons text rest =>
      rw [hstack] at hend hk heffective hlast
      cases rest with
      | nil => cases hend
      | cons name below =>
        exact ⟨text, name, below, p, k, rfl, hend, hk, hraised, heffective, hlast⟩

theorem Command.cleanly_perform {op : Command} (hop : op ≠ .ordinal .writeAfterLabel) :
    FailsCleanly op.perform := by
  cases op with
  | shared op => exact (failsWith_shared op).cleanly
  | cardinal op => exact cleanly_cardinal op
  | ordinal op => exact cleanly_ordinal fun h => hop (congrArg _ h)

theorem Command.failsWith_perform (op : Command) :
    FailsWith (fun fault => Fault.IsStream fault ∨ ∃ place, fault.IsRaisedAt place) op.perform := by
  intro m fault m' h
  by_cases hop : op = .ordinal .writeAfterLabel
  · subst hop
    obtain ⟨-, -, -, -, -, -, -, -, hraised, -⟩ := perform_writeAfterLabel_eq_error h
    exact .inr ⟨m.position, hraised⟩
  · cases cleanly_perform hop m fault m' h with
    | stream cause => exact .inl ⟨cause, rfl⟩
    | operands hraised s => exact .inr ⟨m.position, hraised⟩

end Commands

end Gridwalk
