import Gridwalk.Proofs.Reachable
import Mathlib.Data.List.Perm.Basic

/-! # The stored cells of a tape

A tape is determined by what it reads and by its pointers, since the stored cells are exactly those
that do not read as unset, each once and in ascending order. Commands change the tape by its
operations only, so this holds after every tick of every run.
-/

namespace Gridwalk
set_option autoImplicit false

open Act

namespace Tape

variable {t t' : Tape}

theorem Canonical.nodup_cells (h : t.Canonical) : t.cells.Nodup := by
  refine h.ascending.imp fun hlt he => ?_
  rw [he] at hlt
  exact Int.lt_irrefl _ hlt

theorem Canonical.subset_of_get (h : t.Canonical) (h' : t'.Canonical)
    (hget : ∀ a, Word.Fits a → t.get a = t'.get a) : t.cells ⊆ t'.cells := by
  rintro ⟨a, n⟩ hmem
  obtain ⟨hread, hset⟩ := (mem_cells_iff h).mp hmem
  exact (mem_cells_iff h').mpr ⟨(hget a (h.fits _ hmem)).symm.trans hread, hset⟩

theorem Canonical.eq_of_get (h : t.Canonical) (h' : t'.Canonical)
    (hget : ∀ a, Word.Fits a → t.get a = t'.get a) (hmemory : t.memory = t'.memory)
    (hregister : t.register = t'.register) : t = t' := by
  have hcells : t.cells = t'.cells := by
    apply List.Perm.eq_of_pairwise _ h.ascending h'.ascending
    · apply (List.perm_ext_iff_of_nodup h.nodup_cells h'.nodup_cells).mpr
      intro cell
      constructor
      · intro hmem
        exact h.subset_of_get h' hget hmem
      · intro hmem
        exact h'.subset_of_get h (fun a ha => (hget a ha).symm) hmem
    · intro a b _ _ hab hba
      exact absurd hab (Int.lt_asymm hba)
  cases t
  cases t'
  cases hcells
  cases hmemory
  cases hregister
  rfl

end Tape

theorem Effect.reached_tape {mode : Mode} {m m' : Machine} (h : Effect mode m m')
    (hm : Tape.Reached m.tape) : Tape.Reached m'.tape := by
  cases h with
  | tape operation t happly => exact hm.apply operation happly
  | stack | returns | queue | literal | stop | arguments | input | output | dice | wait | write
  | jump | move | turn | face => exact hm

theorem Effects.reached_tape {mode : Mode} {m m' : Machine} (h : Effects mode m m')
    (hm : Tape.Reached m.tape) : Tape.Reached m'.tape := by
  induction h with
  | refl => exact hm
  | tail _ hlast ih => exact hlast.reached_tape ih

theorem Reachable.reached_tape {start m : Machine} (h : Reachable start m)
    (hs : Tape.Reached start.tape) : Tape.Reached m.tape := by
  induction h with
  | start => exact hs
  | push _ v ih => exact ih
  | enqueue _ r ih => exact ih
  | outside _ input output dice clock waiting ih => exact ih
  | step _ ih =>
    refine step_preserves (I := (Tape.Reached ·.tape)) (fun m hm => ?_) (fun m hm => ?_)
      (fun m n hm => hm) ih
    · rw [last_seekCommand]
      exact hm
    · exact (effects_executeCell m).reached_tape hm

/-- In every run of every program the tape is changed by its operations alone. However a tape was
reached by them from the empty one, no stored cell reads as unset, a cell is stored exactly if it
does not read as unset, and tapes that read the same everywhere and have the same pointers are the
same. -/
theorem sparse_tape_is_canonical :
    (∀ (grid : Grid) (arguments : List String) (input : Input) (output : Output) (dice : Dice)
        (clock : String) (m : Machine),
      Reachable (.load grid arguments input output dice clock) m → Tape.Reached m.tape) ∧
    (∀ t : Tape, t.Reached →
      (∀ cell ∈ t.cells, cell.2 ≠ Tape.unset) ∧ ∀ a, a ∈ t.addresses ↔ t.get a ≠ Tape.unset) ∧
    ∀ t t' : Tape, t.Reached → t'.Reached → (∀ a, Word.Fits a → t.get a = t'.get a) →
      t.memory = t'.memory → t.register = t'.register → t = t' := by
  refine ⟨?_, ?_, ?_⟩
  · intro grid arguments input output dice clock m h
    exact h.reached_tape .empty
  · intro t h
    exact ⟨h.canonical.isSet, fun a => Tape.mem_addresses_iff h.canonical⟩
  · intro t t' h h' hget hmemory hregister
    exact h.canonical.eq_of_get h'.canonical hget hmemory hregister

/-- A run that stores a number and then unsets the cell again leaves the empty tape. -/
theorem sparse_tape_is_canonical_after_clearing :
    let m := step.last (step.last (step.last (step.last
      (.load (.ofSource "5!e!") [] (.ofBytes []) .empty .first ""))))
    m.tick = 4 ∧ Tape.Reached m.tape ∧ (∀ a, m.tape.get a = Tape.unset) ∧ m.tape = .empty := by
  intro m
  have hticks : m.tick = 4 := by decide +kernel
  have hcells : m.tape.cells = [] := by decide +kernel
  have hread (a : Int) : m.tape.get a = Tape.unset := by
    rw [Tape.get, hcells]
    rfl
  have hreached : Tape.Reached m.tape :=
    sparse_tape_is_canonical.1 _ _ _ _ _ _ m Reachable.start.step.step.step.step
  have hmemory : m.tape.memory = 0 := by decide +kernel
  have hregister : m.tape.register = 0 := by decide +kernel
  exact ⟨hticks, hreached, hread,
    sparse_tape_is_canonical.2.2 _ _ hreached .empty (fun a _ => hread a) hmemory hregister⟩

end Gridwalk
