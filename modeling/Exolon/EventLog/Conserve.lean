/-
Where every appended record is: handed to an open file, waiting in the
ring, in the batch a drain holds, or counted as dropped.

`Accounted` is the invariant. Its balance alone is not inductive: a batch
is written long after its file was opened, so the invariant also keeps
that a batch past its open has a file to go to (`held`).

# Where the balance breaks

One step breaks it. A rotation the writer refuses disables emission for
later drains, but the drain under way goes on and writes its batch while
no file is held: the batch is in no file and in no counter. So the
balance holds along every run whose rotations are granted
(`appended_accounted`), and fails on a run with a refused one
(`appended_unaccounted`).
-/
import Exolon.EventLog.Effects

namespace Exolon

namespace GameplayEventLog

variable {cfg : Configuration} {W : Type} {writer : GameplayEventWriter W}

-- ============================================================ accounting

/-- Records formatted into text that went to an open file. -/
def handed (s : GameplayEventLog cfg W) : Nat :=
  (s.archive.stream.filterMap LogLine.event?).length

/-- Records a drain has claimed and not yet written or counted. -/
def inFlight (s : GameplayEventLog cfg W) : Nat :=
  (s.phase.batch?.map fun batch => batch.scratch.length).getD 0

/-- Every appended record is in exactly one place. -/
def Balanced (s : GameplayEventLog cfg W) : Prop :=
  s.appendedTotal = s.handed + s.inFlight + s.ring.pending + s.droppedTotal

/-- The balance, and what keeps it: a batch that is about to be written
has a file, and nothing is in flight once the log is closed. -/
structure Accounted (s : GameplayEventLog cfg W) : Prop where
  balance : s.Balanced
  held : ∀ batch, s.phase = .opened batch ∨ s.phase = .rotated batch →
    s.archive.holds = true
  opened : s.fileIsOpen = true → s.openFailed = false → s.closing ≠ .done →
    s.archive.holds = true
  unopened : s.fileIsOpen = false → s.archive.holds = false
  ended : s.closing.ending = true → s.isShutDown = true
  busy : s.phase.batch? ≠ none → s.closing ≠ .done

/-- A rotation the next drain step makes is granted. -/
def RotationGranted (writer : GameplayEventWriter W)
    (s : GameplayEventLog cfg W) (action : Action) : Prop :=
  ∀ batch, action.drains = true → s.phase = .opened batch →
    s.rotationDue writer = true → s.rotationAnswer writer batch = true

-- ============================================================== the lines

theorem recordLines_events (rot : Int) (seq : Nat)
    (events : List GameplayEvent) :
    (recordLines rot seq events).filterMap LogLine.event? = events := by
  induction events generalizing seq with
  | nil => rfl
  | cons event rest ih =>
      rw [recordLines, List.filterMap_cons]
      simp only [LogLine.event?]
      rw [ih]

/-- A batch is written as its records, whatever brackets them. -/
theorem batchLines_events (s : GameplayEventLog cfg W) (batch : Batch) :
    (s.batchLines writer batch).filterMap LogLine.event?
      = batch.scratch := by
  unfold batchLines
  rw [List.filterMap_append, recordLines_events]
  have hdrop : (s.dropLines writer batch).filterMap LogLine.event? = [] := by
    unfold dropLines
    split <;> rfl
  rw [hdrop, List.nil_append]

/-- A store keeps what was appended accounted for: the ring takes the new
record, and the drop count the one it lapped. -/
theorem store_pending_dropped (s : GameplayEventLog cfg W)
    (record : GameplayEvent) :
    (s.ring.store record).pending + (s.droppedTotal + s.lapped)
      = s.ring.pending + s.droppedTotal + 1 := by
  rw [Ring.store_pending, lapped]
  split <;> omega

-- ========================================================== preservation

theorem init_accounted (cfg : Configuration) (w : W) :
    (init cfg w).Accounted where
  balance := rfl
  held := by
    rintro batch (h | h) <;> cases h
  opened := nofun
  unopened := fun _ => rfl
  ended := nofun
  busy := fun h => absurd rfl h

/-- The balance survives every step, unless the writer refuses a
rotation. -/
theorem Effect.accounted {action : Action} {s s' : GameplayEventLog cfg W}
    (h : Effect writer action s s') (hI : s.Accounted)
    (hgranted : RotationGranted writer s action) : s'.Accounted := by
  obtain ⟨hbalance, hheld, hopened, hunopened, hended, hbusy⟩ := hI
  cases h with
  | control flowValue isShutDown flushing phase closing w hphase hdone hshut
      hending _ _ _ =>
      refine ⟨?_, ?_, ?_, hunopened, ?_, ?_⟩
      · rcases hphase with rfl | ⟨hold, hnew⟩
        · exact hbalance
        · unfold Balanced inFlight handed at hbalance ⊢
          rw [hold] at hbalance
          rw [show phase.batch? = none from hnew]
          exact hbalance
      · rcases hphase with rfl | ⟨_, hnew⟩
        · exact hheld
        · rintro batch (h | h) <;> rw [show phase = _ from h] at hnew <;>
            cases hnew
      · intro hopen hfailed hclosing
        exact hopened hopen hfailed fun hd => hclosing (hdone.mpr hd)
      · intro hnow
        rcases hending hnow with h | h
        · exact hshut (hended h)
        · exact h
      · rcases hphase with rfl | ⟨_, hnew⟩
        · exact fun hb hd => hbusy hb (hdone.mp hd)
        · exact fun hb => absurd hnew hb
  | tick zoneValue _ =>
      exact ⟨hbalance, hheld, hopened, hunopened, hended, hbusy⟩
  | frame _ => exact ⟨hbalance, hheld, hopened, hunopened, hended, hbusy⟩
  | append s₀ record phase _ hs₀ htick hframe hphase =>
      have hstore := s.store_pending_dropped record
      have hflight : phase.batch? = s.phase.batch? := by
        rcases hphase with rfl | ⟨h₁, rfl⟩
        · rfl
        · rw [h₁]
          rfl
      have hpast (batch : Batch)
          (h : phase = .opened batch ∨ phase = .rotated batch) :
          s.phase = .opened batch ∨ s.phase = .rotated batch := by
        rcases hphase with rfl | ⟨_, rfl⟩
        · exact h
        · rcases h with h | h <;> cases h
      unfold Balanced inFlight handed at hbalance
      rcases hs₀ with rfl | ⟨_, zone, rfl⟩ <;>
      · rw [store_eq]
        refine ⟨?_, fun batch h => hheld batch (hpast batch h), hopened,
          hunopened, hended, fun hb => hbusy (hflight ▸ hb)⟩
        unfold Balanced inFlight handed
        rw [hflight]
        dsimp only [lapped] at hstore ⊢
        omega
  | claim n hpos hle hrun hphase =>
      refine ⟨?_, ?_, hopened, hunopened, hended, ?_⟩
      · unfold Balanced inFlight handed at hbalance ⊢
        rw [hphase] at hbalance
        simp only [Phase.batch?, Option.map_none, Option.getD_none,
          Option.map_some, Option.getD_some, batchOf, Ring.length_taken,
          Ring.claim_pending] at hbalance ⊢
        omega
      · rintro batch (h | h) <;> cases h
      · intro _ hdone
        have hshut := hended (by rw [show s.closing = .done from hdone]; rfl)
        rw [hrun] at hshut
        cases hshut
  | openRefused batch openFailed archive w hphase harchive hkeep hrefused =>
      have hstream : archive.stream = s.archive.stream := by
        rcases harchive with rfl | ⟨hopen, _, rfl⟩
        · rfl
        · exact Archive.stream_opened (hunopened hopen) false
      refine ⟨?_, ?_, ?_, ?_, hended, fun h => absurd rfl h⟩
      · unfold Balanced inFlight handed at hbalance ⊢
        rw [hphase] at hbalance
        simp only [Phase.batch?, Option.map_some, Option.getD_some,
          Option.map_none, Option.getD_none, hstream] at hbalance ⊢
        omega
      · rintro batch (h | h) <;> cases h
      · intro hopen hfailed hclosing
        have hbefore : s.openFailed = false := by
          cases hf : s.openFailed with
          | false => rfl
          | true => exact absurd (hkeep hf) (by simp_all)
        rcases harchive with rfl | ⟨hopen', _, rfl⟩
        · exact hopened hopen hbefore hclosing
        · rw [show s.fileIsOpen = true from hopen] at hopen'
          cases hopen'
      · intro hopen
        rcases harchive with rfl | ⟨_, _, rfl⟩
        · exact hunopened hopen
        · exact Archive.holds_opened _ _
  | openHeld batch hphase hopen hfailed =>
      have hfile := hopened hopen hfailed
        (hbusy (by rw [hphase]; exact Option.some_ne_none _))
      refine ⟨?_, fun _ _ => hfile, hopened, hunopened, hended, ?_⟩
      · unfold Balanced inFlight handed at hbalance ⊢
        rw [hphase] at hbalance
        exact hbalance
      · exact fun _ => hbusy (by rw [hphase]; exact Option.some_ne_none _)
  | openFirst batch rot wallUTC path w hphase hopen hfailed =>
      have hfile : ((s.archive.opened true).write [.begin s.nextSeq
          batch.stampTick batch.stampFrame rot wallUTC path
          s.flowValue]).holds = true := by simp
      refine ⟨?_, fun _ _ => hfile, fun _ _ _ => hfile, nofun, hended, ?_⟩
      · unfold Balanced inFlight handed at hbalance ⊢
        rw [hphase] at hbalance
        rw [Archive.stream_write (by simp),
          Archive.stream_opened (hunopened hopen), List.filterMap_append]
        simpa [List.filterMap_cons, LogLine.event?, Phase.batch?]
          using hbalance
      · exact fun _ => hbusy (by rw [hphase]; exact Option.some_ne_none _)
  | rotateSkip batch hphase =>
      refine ⟨?_, fun _ _ => hheld batch (.inl hphase), hopened, hunopened,
        hended, ?_⟩
      · unfold Balanced inFlight handed at hbalance ⊢
        rw [hphase] at hbalance
        exact hbalance
      · exact fun _ => hbusy (by rw [hphase]; exact Option.some_ne_none _)
  | rotateDone batch retired rot fromPath toPath wallUTC path w hphase =>
      have hfile := hheld batch (.inl hphase)
      refine ⟨?_, fun _ _ => by simp, fun _ _ _ => by simp, nofun, hended, ?_⟩
      · unfold Balanced inFlight handed at hbalance ⊢
        rw [hphase] at hbalance
        rw [Archive.stream_write (by simp), Archive.stream_rotated,
          Archive.stream_write hfile, List.filterMap_append,
          List.filterMap_append]
        simpa [List.filterMap_cons, LogLine.event?, Phase.batch?]
          using hbalance
      · exact fun _ => hbusy (by rw [hphase]; exact Option.some_ne_none _)
  | rotateFailed batch retired fromPath toPath w hphase hact hdue hanswer =>
      rw [hgranted batch hact hphase hdue] at hanswer
      cases hanswer
  | write batch w hphase =>
      have hfile := hheld batch (.inr hphase)
      refine ⟨?_, ?_, ?_, ?_, hended, fun h => absurd rfl h⟩
      · unfold Balanced inFlight handed at hbalance ⊢
        rw [hphase] at hbalance
        rw [Archive.stream_write hfile, List.filterMap_append,
          batchLines_events]
        simp only [Phase.batch?, Option.map_some, Option.getD_some,
          Option.map_none, Option.getD_none, List.length_append]
          at hbalance ⊢
        omega
      · rintro batch' (h | h) <;> cases h
      · intro hopen hfailed hclosing
        rw [Archive.holds_write]
        exact hopened hopen hfailed hclosing
      · intro hopen
        rw [Archive.holds_write]
        exact hunopened hopen
  | closeRefused closer openFailed archive w hclosing hphase harchive hkeep
      hrefused =>
      have hstream : archive.stream = s.archive.stream := by
        rcases harchive with rfl | ⟨hopen, _, rfl⟩
        · rfl
        · exact Archive.stream_opened (hunopened hopen) false
      have hshut := hended (by rw [hclosing]; rfl)
      refine ⟨?_, ?_, fun _ _ h => absurd rfl h, ?_, fun _ => hshut, ?_⟩
      · unfold Balanced inFlight handed at hbalance ⊢
        rw [hstream]
        exact hbalance
      · rintro batch (h | h) <;> rw [show s.phase = _ from h] at hphase <;>
          cases hphase
      · intro hopen
        rcases harchive with rfl | ⟨_, _, rfl⟩
        · exact hunopened hopen
        · exact Archive.holds_opened _ _
      · intro hb
        rw [show s.phase = .idle from hphase] at hb
        exact absurd rfl hb
  | closeHeld closer rot w hclosing hphase hopen hfailed =>
      have hfile := hopened hopen hfailed (by rw [hclosing]; nofun)
      have hshut := hended (by rw [hclosing]; rfl)
      refine ⟨?_, ?_, fun _ _ h => absurd rfl h, fun _ => rfl,
        fun _ => hshut, ?_⟩
      · unfold Balanced inFlight handed at hbalance ⊢
        rw [Archive.stream_closed, Archive.stream_write hfile,
          List.filterMap_append]
        simpa [List.filterMap_cons, LogLine.event?] using hbalance
      · rintro batch (h | h) <;> rw [show s.phase = _ from h] at hphase <;>
          cases hphase
      · intro hb
        rw [show s.phase = .idle from hphase] at hb
        exact absurd rfl hb
  | closeFirst closer rot rot' wallUTC path w hclosing hphase hopen hfailed =>
      have hshut := hended (by rw [hclosing]; rfl)
      refine ⟨?_, ?_, fun _ _ h => absurd rfl h, fun _ => rfl,
        fun _ => hshut, ?_⟩
      · unfold Balanced inFlight handed at hbalance ⊢
        rw [Archive.stream_closed, Archive.stream_write (by simp),
          Archive.stream_write (by simp),
          Archive.stream_opened (hunopened hopen), List.filterMap_append,
          List.filterMap_append]
        simpa [List.filterMap_cons, LogLine.event?] using hbalance
      · rintro batch (h | h) <;> rw [show s.phase = _ from h] at hphase <;>
          cases hphase
      · intro hb
        rw [show s.phase = .idle from hphase] at hb
        exact absurd rfl hb

/-- In every run whose rotations are granted, whatever else the writer
answers and however producers, drains and shutdown interleave, every
record appended so far is in exactly one place in every state reached:
handed to an open file, in the batch of the drain under way, pending in
the ring, or counted as dropped. Between drains no batch is under way. -/
theorem appended_accounted (cfg : Configuration)
    (writer : GameplayEventWriter W) (w : W) (acts : List Action)
    (hgranted : Run.Along (step writer) (RotationGranted writer)
      (init cfg w) acts)
    {s : GameplayEventLog cfg W}
    (hs : Run.Visits (step writer) (init cfg w) acts s) :
    s.appendedTotal
        = s.handed + s.inFlight + s.ring.pending + s.droppedTotal
      ∧ (s.phase.batch? = none →
        s.appendedTotal = s.handed + s.ring.pending + s.droppedTotal) := by
  obtain ⟨pre, hpre, hrun⟩ := hs
  have hI : s.Accounted := by
    refine Run.run_invariant_along ?_ (init_accounted cfg w)
      (hgranted.of_prefix hpre) hrun
    intro s s' action hI hP hstep
    exact (step_effect writer hstep).accounted hI hP
  refine ⟨hI.balance, fun hidle => ?_⟩
  have hbalance := hI.balance
  unfold Balanced inFlight at hbalance
  rw [hidle] at hbalance
  exact hbalance

/-- Over a writer that grants every rotation, every step is granted. -/
theorem rotationGranted_of_grants (hgrants : writer.Grants)
    (s : GameplayEventLog cfg W) (action : Action) :
    RotationGranted writer s action :=
  fun batch _ _ _ => rotationAnswer_of_grants hgrants s batch

-- ================================================== a refused rotation

/-- A log that rotates at every batch. -/
def rotatingConfiguration : Configuration where
  mode := .synchronous
  level := 2
  runToken := "run".toList
  limits := { ringCapacity := 16, drainBatchEvents := 1, maxFileBytes := 0 }

/-- A disk that grants the first file and refuses the second. -/
def refusingWriter : GameplayEventFileWriter :=
  .init "/tmp/exolon".toList "gameplay-".toList "run".toList 65536
    [true, false]

/-- One shot, and the inline drain it starts: claim, open, rotate,
write. -/
def oneShot : List Action :=
  [.emit .playerShootBlaster 1 0 0 9 8,
    .drain [], .drain [], .drain [], .drain []]

/-- Over the memory writer the shot is accounted for. -/
theorem appended_accounted_oneShot :
    ∃ s, Run.Visits (step (GameplayEventMemoryWriter.writer false))
        (init rotatingConfiguration {}) oneShot s
      ∧ s.appendedTotal = 1
      ∧ s.appendedTotal
          = s.handed + s.inFlight + s.ring.pending + s.droppedTotal
      ∧ (s.phase.batch? = none →
          s.appendedTotal = s.handed + s.ring.pending + s.droppedTotal) := by
  have hrun : ((Run.run (step (GameplayEventMemoryWriter.writer false))
      (init rotatingConfiguration {}) oneShot).map fun s =>
        s.appendedTotal) = some 1 := by decide +kernel
  obtain ⟨s, hs, happended⟩ := Option.map_eq_some_iff.mp hrun
  have hvisits : Run.Visits (step (GameplayEventMemoryWriter.writer false))
      (init rotatingConfiguration {}) oneShot s :=
    ⟨oneShot, List.prefix_refl _, hs⟩
  refine ⟨s, hvisits, happended, appended_accounted rotatingConfiguration
    (GameplayEventMemoryWriter.writer false) {} oneShot ?_ hvisits⟩
  exact Run.along_of_forall (fun action _ s => rotationGranted_of_grants
    GameplayEventMemoryWriter.grants s action) _

/-- The shot is appended, and after its drain it is nowhere. -/
theorem appended_unaccounted :
    ¬ ∀ (cfg : Configuration) (w : GameplayEventFileWriter)
        (acts : List Action)
        (s : GameplayEventLog cfg GameplayEventFileWriter),
      1 ≤ cfg.limits.drainBatchEvents →
      Run.Visits (step GameplayEventFileWriter.writer) (init cfg w) acts s →
      s.phase.batch? = none →
      s.appendedTotal = s.handed + s.ring.pending + s.droppedTotal := by
  intro h
  have hrun : ((Run.run (step GameplayEventFileWriter.writer)
      (init rotatingConfiguration refusingWriter) oneShot).map fun s =>
        (s.phase.batch?.isNone, s.appendedTotal, s.handed, s.ring.pending,
          s.droppedTotal)) = some (true, 1, 0, 0, 0) := by
    decide +kernel
  obtain ⟨s, hs, hvalues⟩ := Option.map_eq_some_iff.mp hrun
  simp only [Prod.mk.injEq, Option.isNone_iff_eq_none] at hvalues
  obtain ⟨hidle, happended, hhanded, hpending, hdropped⟩ := hvalues
  have hbalance := h rotatingConfiguration refusingWriter oneShot s
    (by decide) ⟨oneShot, List.prefix_refl _, hs⟩ hidle
  omega

end GameplayEventLog

end Exolon
