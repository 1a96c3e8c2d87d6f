/-
The in-game view: the newest records, as far as no drain has taken them.

`view` reads the same ring the drain empties, and it reads no further back
than the records still pending. The history remembers every record ever
appended, so what the view owes is said on the history: its last records,
as many as were asked for and the ring can hold.

`view_newest_iff` says exactly when it serves them.
-/
import Exolon.EventLog.Stream

namespace Exolon

namespace GameplayEventLog

variable {cfg : Configuration} {W : Type}

-- ============================================================== the view

/-- How many records a caller asks for, within `limits.viewEvents`. -/
def wantedRecords (viewEvents : Int) (n : Option Int) : Nat :=
  (max 1 (min (n.getD viewEvents) viewEvents)).toNat

/-- `view`, on the ring. -/
def viewEvents (s : GameplayEventLog cfg W) (viewEvents : Int)
    (n : Option Int) : List GameplayEvent :=
  s.ring.newest (wantedRecords viewEvents n)

/-- Every record ever appended, oldest first. -/
def appended (s : GameplayEventLog cfg W) : List GameplayEvent :=
  s.history.map Appended.event

/-- How many records the view owes: what is asked for, as far as it was
appended and the ring can hold it. -/
def owed (s : GameplayEventLog cfg W) (viewEvents : Int) (n : Option Int) :
    Nat :=
  min (min (wantedRecords viewEvents n) s.appended.length) cfg.capacity

/-- The last `k` of a list, in order. -/
def lastRecords (k : Nat) (records : List GameplayEvent) :
    List GameplayEvent :=
  records.drop (records.length - k)

-- ======================================================== the invariant

/-- The history ends with what is pending, whatever a step did. -/
theorem Effect.remembered {writer : GameplayEventWriter W} {action : Action}
    {s s' : GameplayEventLog cfg W} (h : Effect writer action s s')
    (hI : s.Remembered) : s'.Remembered := by
  cases h with
  | append s₀ record phase hact hs₀ =>
      have hkept : Remembered
          { s₀ with appendedTotal := s.appendedTotal + 1 } := by
        rcases hs₀ with rfl | ⟨_, zone, rfl⟩
        · exact hI
        · exact hI
      exact hkept.store record
  | claim n _ hle => exact hI.claim hle
  | _ => exact hI

theorem remembered_of_run {writer : GameplayEventWriter W} {w : W}
    {acts : List Action} {s : GameplayEventLog cfg W}
    (hrun : Run.run (step writer) (init cfg w) acts = some s) :
    s.Remembered := by
  refine Run.run_invariant (I := Remembered) ?_ ⟨[], rfl, rfl⟩ hrun
  intro s s' action hI hstep
  exact (step_effect _ hstep).remembered hI

/-- What is pending is the end of what was appended. -/
theorem Remembered.contents_eq {s : GameplayEventLog cfg W}
    (h : s.Remembered) :
    s.ring.contents
      = s.appended.drop (s.appended.length - s.ring.pending)
    ∧ s.ring.pending ≤ s.appended.length := by
  obtain ⟨past, hhistory, _⟩ := h
  have happended : s.appended
      = past.map Appended.event ++ s.ring.contents := by
    unfold appended
    rw [hhistory, List.map_append, List.map_map]
    congr 1
    exact List.map_id s.ring.contents
  have hlength : s.appended.length = past.length + s.ring.pending := by
    rw [happended, List.length_append, List.length_map,
      Ring.length_contents]
  refine ⟨?_, by omega⟩
  rw [hlength, Nat.add_sub_cancel, happended]
  exact (List.drop_left' (List.length_map _)).symm

-- =================================================== what the view serves

/-- What is asked for, of what is pending. -/
theorem viewEvents_eq {s : GameplayEventLog cfg W} (h : s.Remembered)
    (viewEvents : Int) (n : Option Int) :
    s.viewEvents viewEvents n
      = lastRecords (min s.ring.pending (wantedRecords viewEvents n))
        s.appended := by
  obtain ⟨hcontents, hle⟩ := h.contents_eq
  unfold GameplayEventLog.viewEvents lastRecords
  rw [Ring.newest_eq, hcontents, List.drop_drop]
  congr 1
  omega

/-- The view serves the newest records exactly when no drain has taken one
of those it owes. -/
theorem view_newest_iff (cfg : Configuration)
    (writer : GameplayEventWriter W) (w : W) (acts : List Action)
    {s : GameplayEventLog cfg W}
    (hrun : Run.run (step writer) (init cfg w) acts = some s)
    (viewEvents : Int) (n : Option Int) :
    s.viewEvents viewEvents n
        = lastRecords (s.owed viewEvents n) s.appended
      ↔ s.owed viewEvents n ≤ s.ring.pending := by
  have hI := remembered_of_run hrun
  have hle := hI.contents_eq.2
  have hcapacity := s.ring.pending_le
  rw [viewEvents_eq hI]
  constructor
  · intro heq
    have hlength := congrArg List.length heq
    unfold lastRecords at hlength
    rw [List.length_drop, List.length_drop] at hlength
    unfold owed at hlength ⊢
    omega
  · intro hpending
    congr 1
    unfold owed at hpending ⊢
    omega

/-- One shot under a queue that nobody has asked to drain. -/
def undrainedShot : List Action :=
  [.beginFrame, .beginTick 0, .emit .playerShootBlaster 1 0 0 9 8]

/-- The shot is served while it is pending. -/
theorem view_newest_iff_undrained :
    ∃ s, Run.run (step (GameplayEventMemoryWriter.writer false))
        (init lappingConfiguration {}) undrainedShot = some s
      ∧ s.owed 512 (some 8) = 1 ∧ s.ring.pending = 1
      ∧ (s.viewEvents 512 (some 8)
          = lastRecords (s.owed 512 (some 8)) s.appended
        ↔ s.owed 512 (some 8) ≤ s.ring.pending) := by
  have hrun : ((Run.run (step (GameplayEventMemoryWriter.writer false))
      (init lappingConfiguration {}) undrainedShot).map fun s =>
        (s.owed 512 (some 8), s.ring.pending)) = some (1, 1) := by
    decide +kernel
  obtain ⟨s, hs, hvalues⟩ := Option.map_eq_some_iff.mp hrun
  rw [Prod.mk.injEq] at hvalues
  exact ⟨s, hs, hvalues.1, hvalues.2, view_newest_iff lappingConfiguration
    (GameplayEventMemoryWriter.writer false) {} undrainedShot hs 512
    (some 8)⟩

/-- After one drain the view of eight records is empty, with a record
appended. -/
theorem view_drained :
    ¬ ∀ (cfg : Configuration) (w : GameplayEventMemoryWriter)
        (acts : List Action)
        (s : GameplayEventLog cfg GameplayEventMemoryWriter)
        (viewEvents : Int) (n : Option Int),
      Run.run (step (GameplayEventMemoryWriter.writer false)) (init cfg w)
        acts = some s →
      s.viewEvents viewEvents n
        = lastRecords (s.owed viewEvents n) s.appended := by
  intro hall
  have hrun : ((Run.run (step (GameplayEventMemoryWriter.writer false))
      (init lappingConfiguration {})
      (undrainedShot ++ [.requestDrain, .drain []])).map fun s =>
        ((s.viewEvents 512 (some 8)).length,
          (lastRecords (s.owed 512 (some 8)) s.appended).length))
      = some (0, 1) := by
    decide +kernel
  obtain ⟨s, hs, hvalues⟩ := Option.map_eq_some_iff.mp hrun
  rw [Prod.mk.injEq, hall lappingConfiguration {} _ s 512 (some 8) hs]
    at hvalues
  omega

end GameplayEventLog

end Exolon
