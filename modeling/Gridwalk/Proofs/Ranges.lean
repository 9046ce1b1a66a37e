import Gridwalk.Proofs.Addressing

/-! # Sums that stay in range

Strafing, the search for a label, the walk behind it and the reading of a register add to positions
and addresses. In 64 bits these sums could fail at the ends of the range. In its middle half none
does, and each operation gives what the exact one gives. A program does not get out of the middle
half in any run that can be waited for: a write moves an edge of the grid by 2 ^ 24 at most.
-/

namespace Gridwalk
set_option autoImplicit false

open Act

namespace Word

variable {a b c : Int}

theorem Central.fits (h : Central a) : Fits a := by
  unfold Central at h
  unfold Fits least greatest
  omega

theorem Central.fits_add (ha : Central a) (hb : Central b) : Fits (a + b) := by
  unfold Central at ha hb
  unfold Fits least greatest
  omega

theorem Central.fits_sub (ha : Central a) (hb : Central b) : Fits (a - b) := by
  unfold Central at ha hb
  unfold Fits least greatest
  omega

theorem Central.step_mul (h : Central a) (hc : -1 ≤ c ∧ c ≤ 1) : Central (c * a) := by
  unfold Central at h ⊢
  obtain rfl | rfl | rfl : c = -1 ∨ c = 0 ∨ c = 1 := by omega
  all_goals omega

end Word

namespace Vec

variable {p q v : Vec} {k : Int}

theorem Central.fits_add (hp : p.Central) (hq : q.Central) : (p + q).Fits :=
  ⟨hp.1.fits_add hq.1, hp.2.fits_add hq.2⟩

theorem IsStep.central (h : v.IsStep) : v.Central := by
  obtain ⟨hx, hy⟩ := h
  constructor <;> unfold Word.Central <;> omega

theorem IsStep.central_scale (h : v.IsStep) (hk : Word.Central k) : (v.scale k).Central :=
  ⟨hk.step_mul h.1, hk.step_mul h.2⟩

theorem Checked.scale_of_central (h : v.IsStep) (hk : Word.Central k) :
    Checked.scale v k = .ok (v.scale k) := by
  obtain ⟨hx, hy⟩ := h.central_scale hk
  simp only [Checked.scale, Word.mul_of_fits hx.fits, Word.mul_of_fits hy.fits, bind, Except.bind,
    pure, Except.pure]
  rfl

theorem Checked.cross_of_central (h : v.IsStep) (hp : p.Central) :
    Checked.cross v p = .ok (v.cross p) := by
  have hx := hp.2.step_mul h.1
  have hy := hp.1.step_mul h.2
  simp only [Checked.cross, Word.mul_of_fits hx.fits, Word.mul_of_fits hy.fits, bind, Except.bind]
  exact Word.sub_of_fits (hx.fits_sub hy)

theorem Checked.dot_of_central (h : v.IsStep) (hp : p.Central) :
    Checked.dot p v = .ok (p.dot v) := by
  have hx := hp.1.step_mul h.1
  have hy := hp.2.step_mul h.2
  rw [Int.mul_comm] at hx hy
  simp only [Checked.dot, Word.mul_of_fits hx.fits, Word.mul_of_fits hy.fits, bind, Except.bind]
  exact Word.add_of_fits (hx.fits_add hy)

end Vec

def Box.Central (b : Box) : Prop := ∀ p, b.Contains p → p.Central

/-! ## Strafing and reading a register -/

theorem Pose.Checked.strafe_eq {pose : Pose} {side : Heading} (h : pose.position.Central) :
    strafe pose side = .ok (pose.strafe side) := by
  have hstep : (pose.heading.reverse.vec + side.vec).Fits :=
    pose.heading.reverse.isStep_vec.central.fits_add side.isStep_vec.central
  have hhalf : (pose.heading.reverse.vec + side.vec).half.Central := by
    cases pose.heading <;> cases side <;> decide
  simp only [strafe, Vec.Checked.add_of_fits hstep, Vec.Checked.add_of_fits (h.fits_add hhalf),
    bind, Except.bind, pure, Except.pure]
  rfl

theorem Tape.Checked.readFrom_eq {address : Int} {cells : List (Int × Int)}
    (h : ∀ cell ∈ cells, Word.Fits (cell.1 + 1)) :
    readFrom address cells = .ok (Tape.readFrom address cells) := by
  induction cells generalizing address with
  | nil => rfl
  | cons cell rest ih =>
    obtain ⟨hcell, hrest⟩ := List.forall_mem_cons.mp h
    rw [readFrom, Tape.readFrom]
    split
    · exact ih hrest
    · split
      · rename_i haddress
        rw [haddress] at hcell
        cases Text.scalar? cell.2 with
        | none => rfl
        | some c =>
          simp only [stepRight, Word.add_of_fits hcell, ih hrest, bind, Except.bind, pure,
            Except.pure]
      · rfl

/-- Only a register that reaches the last address of all cannot be read in 64 bits. -/
theorem Tape.Checked.readRegister_eq {t : Tape} (h : ∀ cell ∈ t.cells, Word.Fits (cell.1 + 1)) :
    readRegister t = .ok t.readRegister := readFrom_eq h

/-! ## Labels -/

theorem Label.ne_nil_of_mem_occurrences {g : Grid} {needle : List Int} {h : Heading} {p : Vec}
    (hp : p ∈ occurrences g needle h) : needle ≠ [] := by
  rintro rfl
  cases hp

namespace Label.Checked

variable {g : Grid} {v p : Vec} {needle : List Int}

theorem spellsFrom_eq (hv : v.IsStep) (hp : p.Central) {i : Nat}
    (hlength : i + needle.length ≤ 0x4000000000000000) :
    spellsFrom g v p i needle = .ok (spells g v (p + v.scale i) needle) := by
  induction needle generalizing i with
  | nil => rfl
  | cons cell rest ih =>
    rw [List.length_cons] at hlength
    have hi : Word.Central i := by
      unfold Word.Central
      omega
    have hplace := Vec.Checked.add_of_fits (hp.fits_add (hv.central_scale hi))
    have hrest := ih (i := i + 1) (by omega)
    rw [Int.natCast_succ, ← Vec.add_scale_add_scale, Vec.add_scale_one] at hrest
    simp only [spellsFrom, Vec.Checked.scale_of_central hv hi, hplace, bind, Except.bind, spells]
    cases hcell : g.get (p + v.scale i) == cell with
    | false => rfl
    | true => exact hrest

theorem startsAmong_eq (hv : v.IsStep) (hlength : needle.length ≤ 0x4000000000000000)
    {candidates : List Vec} (h : ∀ p ∈ candidates, p.Central) :
    startsAmong g v needle candidates =
      .ok (candidates.filter fun p => spells g v p needle) := by
  induction candidates with
  | nil => rfl
  | cons p rest ih =>
    obtain ⟨hp, hrest⟩ := List.forall_mem_cons.mp h
    have hfound := spellsFrom_eq (g := g) (i := 0) hv hp (by omega : 0 + needle.length ≤ _)
    rw [Vec.add_scale_zero] at hfound
    simp only [startsAmong, hfound, ih hrest, bind, Except.bind, pure, Except.pure,
      List.filter_cons]

theorem key_eq (hv : v.IsStep) (hp : p.Central) : key v p = .ok (Label.key v p) := by
  simp only [key, Vec.Checked.cross_of_central hv hp, Vec.Checked.dot_of_central hv hp, bind,
    Except.bind, pure, Except.pure]
  rfl

theorem mapM_eq_ok {α β : Type} {f : α → Except Overflow β} {f' : α → β} {l : List α}
    (h : ∀ a ∈ l, f a = .ok (f' a)) : l.mapM f = .ok (l.map f') := by
  induction l with
  | nil => rfl
  | cons a rest ih =>
    obtain ⟨ha, hrest⟩ := List.forall_mem_cons.mp h
    simp only [List.mapM_cons, ha, ih hrest, bind, Except.bind, pure, Except.pure, List.map_cons]

theorem sorted_eq (hv : v.IsStep) {starts : List Vec} (h : ∀ p ∈ starts, p.Central) :
    sorted v starts = .ok (starts.mergeSort (keyLe v)) := by
  unfold sorted
  split
  · rename_i hshort
    cases starts with
    | nil =>
      rw [List.mergeSort_nil]
      rfl
    | cons p rest =>
      obtain rfl : rest = [] := List.length_eq_zero_iff.mp (by simpa using hshort)
      rw [List.mergeSort_singleton]
      rfl
  · have hkeyed : starts.mapM (fun p => do return (← key v p, p)) =
        .ok (starts.map fun p => (Label.key v p, p)) := by
      refine mapM_eq_ok fun p hp => ?_
      rw [key_eq hv (h p hp)]
      rfl
    have hsort : ((starts.map fun p => (Label.key v p, p)).mergeSort fun a b =>
        a.1.1 < b.1.1 || (a.1.1 == b.1.1 && a.1.2 ≤ b.1.2)).map (·.2) =
          starts.mergeSort (keyLe v) := by
      rw [List.map_mergeSort (s := keyLe v), List.map_map]
      · congr 1
        exact List.map_id _
      · simp only [List.forall_mem_map]
        intro p _ q _
        rfl
    rw [hkeyed]
    exact congrArg Except.ok hsort

section Central

variable (hb : g.box.Central) {h : Heading} (hlength : needle.length ≤ 0x4000000000000000)
include hb hlength

theorem occurrences_eq : occurrences g needle h = .ok (Label.occurrences g needle h) := by
  have hcentral : ∀ p ∈ positions g.box, p.Central := fun p hp =>
    hb p ((mem_positions_iff g.box p).mp hp)
  unfold occurrences Label.occurrences
  split
  · rfl
  · rw [startsAmong_eq h.isStep_vec hlength hcentral]
    exact sorted_eq h.isStep_vec fun p hp => hcentral p (List.mem_of_mem_filter hp)

theorem end?_eq : Checked.end? g needle h = .ok (Label.end? g needle h) := by
  rw [Checked.end?, occurrences_eq hb hlength, Label.end?]
  cases hfirst : (Label.occurrences g needle h).head? with
  | none => simp only [hfirst, bind, Except.bind, pure, Except.pure, Option.map_none]
  | some p =>
    have hmem := List.mem_of_mem_head? hfirst
    have hne := ne_nil_of_mem_occurrences hmem
    have hcount : Word.Central (needle.length - 1) := by
      have hpos := List.length_pos_iff.mpr hne
      unfold Word.Central
      omega
    have hstart := hb p ((mem_occurrences_iff hne).mp hmem).1
    have hlast := hstart.fits_add (h.isStep_vec.central_scale hcount)
    simp only [hfirst, Vec.Checked.scale_of_central h.isStep_vec hcount,
      Vec.Checked.add_of_fits hlast, bind, Except.bind, pure, Except.pure, Option.map_some]

end Central

end Label.Checked

theorem checked_spelledFrom {g : Grid} {v p : Vec} {n : Nat} (hb : g.box.Central)
    (hv : v.IsStep) : Checked.spelledFrom g v n p = .ok (spelledFrom g v n p) := by
  induction n generalizing p with
  | zero => rfl
  | succ n ih =>
    rw [Checked.spelledFrom, spelledFrom]
    cases hp : Text.scalar? (g.get p) with
    | none => rfl
    | some c =>
      have hin := contains_of_scalar? (Option.isSome_of_eq_some hp)
      have hnext := (hb p hin).fits_add hv.central
      simp only [Vec.Checked.add_of_fits hnext, ih, bind, Except.bind, pure, Except.pure]

theorem checked_spelledBehind {g : Grid} {v p : Vec} (hb : g.box.Central) (hv : v.IsStep)
    (hp : p.Central) : Checked.spelledBehind g v p = .ok (spelledBehind g v p) := by
  have hnext := hp.fits_add hv.central
  simp only [Checked.spelledBehind, Vec.Checked.add_of_fits hnext, bind, Except.bind]
  exact checked_spelledFrom hb hv

theorem checked_writeBehind_of_fits {v p : Vec} {s : List Char}
    (h : ∀ k : Nat, k ≤ s.length → (p + v.scale k).Fits) :
    Checked.writeBehind v p s = writeBehind v p s := by
  induction s generalizing p with
  | nil => rfl
  | cons c rest ih =>
    have hnext := h 1 (Nat.succ_le_succ (Nat.zero_le _))
    rw [Int.natCast_one, Vec.add_scale_one] at hnext
    have hrest : Checked.writeBehind v (p + v) rest = writeBehind v (p + v) rest := by
      refine ih fun k hk => ?_
      rw [Vec.add_add_scale]
      exact h (k + 1) (Nat.succ_le_succ hk)
    rw [Checked.writeBehind, writeBehind, Vec.Checked.add_of_fits hnext]
    dsimp only
    rw [hrest]

theorem checked_writeBehind {v p : Vec} {s : List Char} (hv : v.IsStep) (hp : p.Central)
    (hlength : s.length < 0x4000000000000000) :
    Checked.writeBehind v p s = writeBehind v p s := by
  refine checked_writeBehind_of_fits fun k hk => hp.fits_add (hv.central_scale ?_)
  unfold Word.Central
  omega

/-! ## How far a run gets -/

/-- A grid that came from another one by `n` writes of commands. -/
inductive Grid.Rewritten (g : Grid) : Nat → Grid → Prop where
  | refl : Rewritten g 0 g
  | set {n : Nat} {g' : Grid} (h : Rewritten g n g') {p : Vec} {cell : Int}
    (hroom : HasRoom g' p cell) : Rewritten g (n + 1) (g'.set p cell)

def Box.Within (r : Nat) (b : Box) : Prop :=
  (-r ≤ b.low.x ∧ b.high.x ≤ r) ∧ -r ≤ b.low.y ∧ b.high.y ≤ r

theorem Box.Within.of_liesIn {r : Nat} {b b' : Box} (h : b.Within r) (hin : b'.LiesIn b) :
    b'.Within r := by
  obtain ⟨⟨h₁, h₂⟩, h₃, h₄⟩ := h
  obtain ⟨⟨h₅, -, h₆, -⟩, -, h₇, -, h₈⟩ := hin
  refine ⟨⟨?_, ?_⟩, ?_, ?_⟩ <;> omega

theorem Box.Within.central {r : Nat} {b : Box} (h : b.Within r) (hr : r < 0x4000000000000000) :
    b.Central := by
  obtain ⟨⟨h₁, h₂⟩, h₃, h₄⟩ := h
  rintro p ⟨h₅, h₆, h₇, h₈⟩
  constructor <;> unfold Word.Central <;> omega

theorem Box.Within.hull {r e : Nat} {b : Box} {p : Vec} (h : b.Within r)
    (hcolumns : (b.hull p).columns ≤ e) (hrows : (b.hull p).rows ≤ e) :
    (b.hull p).Within (r + e) := by
  have hX : ((b.hull p).columns : Int) = _ := b.columns_widened p.x
  have hY : ((b.hull p).rows : Int) = _ := b.rows_heightened p.y
  have hx := b.x_le
  have hy := b.y_le
  obtain ⟨⟨h₁, h₂⟩, h₃, h₄⟩ := h
  refine ⟨⟨?_, ?_⟩, ?_, ?_⟩ <;> dsimp only [Box.hull] <;> omega

namespace Grid

variable {g g' : Grid} {r : Nat}

theorem within_set (h : g.box.Within r) {p : Vec} {cell : Int} (hroom : HasRoom g p cell) :
    (g.set p cell).box.Within (r + maxCells) := by
  have hmore {b : Box} (hb : b.Within r) : b.Within (r + maxCells) := by
    obtain ⟨⟨h₁, h₂⟩, h₃, h₄⟩ := hb
    refine ⟨⟨?_, ?_⟩, ?_, ?_⟩ <;> omega
  rcases eq_or_ne cell blank with rfl | hcell
  · exact hmore (h.of_liesIn (liesIn_box_erase g p))
  · rcases hroom.resolve_left hcell with hin | ⟨columns, rows, hsize, hsmall⟩
    · rw [box_set hcell (by rw [sizeCovering?, if_pos (.inl hin)]; rfl), Box.hull_of_contains hin]
      exact hmore h
    · obtain ⟨rfl, rfl⟩ := eq_of_sizeCovering? hsize
      have hcolumns := Nat.le_mul_of_pos_right (g.box.hull p).columns (g.box.hull p).rows_pos
      have hrows := Nat.le_mul_of_pos_left (g.box.hull p).rows (g.box.hull p).columns_pos
      rw [box_set hcell (by rw [hsize]; rfl)]
      exact h.hull (hcolumns.trans hsmall) (hrows.trans hsmall)

theorem Rewritten.within {n : Nat} (h : Rewritten g n g') (hg : g.box.Within r) :
    g'.box.Within (r + n * maxCells) := by
  induction h with
  | refl => rwa [Nat.zero_mul, Nat.add_zero]
  | set _ hroom ih =>
    rw [Nat.succ_mul, ← Nat.add_assoc]
    exact within_set ih hroom

theorem within_ofSource (source : String) : (ofSource source).box.Within source.length := by
  have hlow : (ofSource source).box.low = .zero := low_ofLines _
  have hcolumns := width_ofSource_le source
  have hrows := height_ofSource_le source
  have hX := (ofSource source).box.high_x
  have hY := (ofSource source).box.high_y
  unfold width at hcolumns
  unfold height at hrows
  refine ⟨⟨?_, ?_⟩, ?_, ?_⟩ <;> simp only [hlow, Vec.zero] at * <;> omega

end Grid

theorem Effect.rewritten {mode : Mode} {g : Grid} {m m' : Machine} (h : Effect mode m m')
    (hm : ∃ n, g.Rewritten n m.grid) : ∃ n, g.Rewritten n m'.grid := by
  cases h with
  | write p cell hroom =>
    obtain ⟨n, hn⟩ := hm
    exact ⟨n + 1, hn.set hroom⟩
  | stack | tape | returns | queue | literal | stop | arguments | input | output | dice | wait
  | jump | move | turn | face => exact hm

theorem Effects.rewritten {mode : Mode} {g : Grid} {m m' : Machine} (h : Effects mode m m')
    (hm : ∃ n, g.Rewritten n m.grid) : ∃ n, g.Rewritten n m'.grid := by
  induction h with
  | refl => exact hm
  | tail _ hlast ih => exact hlast.rewritten ih

theorem Reachable.rewritten {start m : Machine} (h : Reachable start m) :
    ∃ n, start.grid.Rewritten n m.grid := by
  induction h with
  | start => exact ⟨0, .refl⟩
  | push _ v ih => exact ih
  | enqueue _ r ih => exact ih
  | outside _ input output dice clock waiting ih => exact ih
  | step _ ih =>
    refine step_preserves (I := fun m => ∃ n, start.grid.Rewritten n m.grid) (fun m hm => ?_)
      (fun m hm => (effects_executeCell m).rewritten hm) (fun m n hm => hm) ih
    rw [last_seekCommand]
    exact hm

theorem contains_of_end? {g : Grid} {label : List Char} {h : Heading} {p : Vec}
    (hend : Label.end? g (Text.codes label) h = some p) : g.box.Contains p := by
  obtain ⟨start, hfirst, rfl⟩ := Option.map_eq_some_iff.mp hend
  have hmem := List.mem_of_mem_head? hfirst
  have hne := Label.ne_nil_of_mem_occurrences hmem
  have hpos := List.length_pos_iff.mpr hne
  have hspelled := (Label.spells_iff _ _ _ _).mp ((Label.mem_occurrences_iff hne).mp hmem).2
    ((Text.codes label).length - 1) (by omega)
  apply Grid.contains_of_get_ne_blank
  rw [← Int.natCast_one, ← Int.natCast_sub hpos, hspelled]
  intro hblank
  exact blank_notMem_codes label (hblank ▸ List.getElem_mem _)

/-- A machine comes from a source by some number of writes. As long as this number and the source are
not astronomically large, the search for a label gives in 64 bits what it gives exactly, and so do
reading and writing behind it. -/
theorem labels_stay_in_range {source : String} {start m : Machine}
    (hstart : start.grid = .ofSource source) (hreach : Reachable start m) :
    (∃ n, (Grid.ofSource source).Rewritten n m.grid) ∧
    ∀ n, (Grid.ofSource source).Rewritten n m.grid →
      source.length + n * maxCells < 0x4000000000000000 →
      ∀ (label : List Char) (h : Heading), label.length < 0x4000000000000000 →
        Label.Checked.end? m.grid (Text.codes label) h =
          .ok (Label.end? m.grid (Text.codes label) h) ∧
        ∀ p, Label.end? m.grid (Text.codes label) h = some p →
          Checked.spelledBehind m.grid h.vec p = .ok (spelledBehind m.grid h.vec p) ∧
          ∀ s : List Char, s.length < 0x4000000000000000 →
            Checked.writeBehind h.vec p s = writeBehind h.vec p s := by
  refine ⟨hstart ▸ hreach.rewritten, fun n hrewritten hfew label h hlabel => ?_⟩
  have hcentral := (hrewritten.within (Grid.within_ofSource source)).central hfew
  constructor
  · refine Label.Checked.end?_eq hcentral ?_
    rw [Text.codes, List.length_map]
    omega
  · intro p hend
    have hp := hcentral p (contains_of_end? hend)
    exact ⟨checked_spelledBehind hcentral h.isStep_vec hp,
      fun s hs => checked_writeBehind h.isStep_vec hp hs⟩

end Gridwalk
