/-
The flush barrier: when a call to `flush` returns, and what it leaves.

A flush drives the drain until it sees no pending work. Each pass claims
at least one record, so the barrier ends (`rank` falls with every step)
provided a pass can claim at all: the log is not shut down and a batch
holds at least one record. Where it cannot, every pass returns with the
ring as it was, and the loop never ends (`Stuck`).

Two facts carry the result. The loss window never outlives the ring: it
is only open while a record is pending (`WindowBehindRing`), so an empty
ring ends the loop. And a pass always comes back, unless the formatter
traps on a record of its batch; `Printable` records never do.
-/
import Exolon.EventLog.Effects

namespace Exolon

-- ========================================================= printability

/-- The formatter has a line for the record. -/
def GameplayEvent.Printable (record : GameplayEvent) : Prop :=
  (appendPayload record).isSome = true

/-- Every record a line carries is printable. -/
def LogLine.Printable (line : LogLine) : Prop :=
  ∀ event, line.event? = some event → event.Printable

theorem LogLine.text?_isSome_iff (cfg : Configuration) (line : LogLine) :
    (line.text? cfg).isSome = true ↔ line.Printable := by
  cases line with
  | record seq rot event =>
      simp [LogLine.text?, formatRecord, LogLine.Printable, LogLine.event?,
        GameplayEvent.Printable]
  | _ => simp [LogLine.text?, LogLine.Printable, LogLine.event?]

/-- Texts of lines are all there, or one is missing. -/
theorem mapM_text?_isSome_iff (cfg : Configuration) (lines : List LogLine) :
    (lines.mapM (LogLine.text? cfg)).isSome = true
      ↔ ∀ line ∈ lines, line.Printable := by
  induction lines with
  | nil => simp
  | cons line lines ih =>
      rw [List.forall_mem_cons, ← ih, ← LogLine.text?_isSome_iff cfg,
        List.mapM_cons]
      cases line.text? cfg <;> cases lines.mapM (LogLine.text? cfg) <;> simp

namespace GameplayEventLog

variable {cfg : Configuration} {W : Type} (writer : GameplayEventWriter W)

-- ====================================================== the writing steps

/-- Lines that can be printed are written. -/
theorem write_some (s : GameplayEventLog cfg W) {lines : List LogLine}
    (h : ∀ line ∈ lines, line.Printable) :
    ∃ s', s.write writer lines = some s' := by
  obtain ⟨texts, htexts⟩ :=
    Option.isSome_iff_exists.mp ((mapM_text?_isSome_iff cfg lines).mpr h)
  exact ⟨_, by rw [write, htexts]; rfl⟩

/-- Lines that are written could be printed. -/
theorem printable_of_write {s s' : GameplayEventLog cfg W}
    {lines : List LogLine} (h : s.write writer lines = some s') :
    ∀ line ∈ lines, line.Printable := by
  obtain ⟨texts, htexts, _⟩ := Option.bind_eq_some_iff.mp h
  exact (mapM_text?_isSome_iff cfg lines).mp (by rw [htexts]; rfl)

theorem outputAppend_some (s : GameplayEventLog cfg W) {line : LogLine}
    (h : line.Printable) : ∃ s', s.outputAppend writer line = some s' := by
  have hlines : ∀ line' ∈ [line], line'.Printable := by simpa using h
  obtain ⟨s', hs'⟩ :=
    write_some writer { s with nextSeq := s.nextSeq + 1 } hlines
  exact ⟨_, by rw [outputAppend, hs']; rfl⟩

/-- Opening comes back with an answer. -/
theorem ensureFileOpen_some (s : GameplayEventLog cfg W) (wallUTC : Text)
    (tick frame : UInt32) :
    ∃ answer s', s.ensureFileOpen writer wallUTC tick frame
      = some (answer, s') := by
  unfold ensureFileOpen
  split
  · exact ⟨_, _, rfl⟩
  · split
    · exact ⟨_, _, rfl⟩
    · split
      · exact ⟨_, _, rfl⟩
      · dsimp only
        split
        · let opened : GameplayEventLog cfg W := { s with
            writer := (writer.openFirstFile s.writer).2
            archive := s.archive.opened (writer.openFirstFile s.writer).1
            fileIsOpen := true }
          have hline : (opened.beginLine writer wallUTC tick frame).Printable :=
            nofun
          obtain ⟨s', hs'⟩ := opened.outputAppend_some writer hline
          exact ⟨true, s', by rw [hs']; rfl⟩
        · exact ⟨_, _, rfl⟩

/-- So does a rotation. -/
theorem rotateFile_some (s : GameplayEventLog cfg W) (wallUTC : Text)
    (tick frame : UInt32) :
    ∃ s', s.rotateFile writer wallUTC tick frame = some s' := by
  have hline : (s.rotateLineOf writer tick frame).Printable := nofun
  obtain ⟨s₁, hs₁⟩ := s.outputAppend_some writer hline
  unfold rotateFile
  unfold rotateLineOf at hs₁
  rw [hs₁]
  dsimp only [Option.bind_eq_bind, Option.bind_some]
  split
  · let opened : GameplayEventLog cfg W := { s₁ with
      writer := (writer.rotateToNextFile s₁.writer).2
      archive := s₁.archive.rotated (writer.rotateToNextFile s₁.writer).1
      fileIsOpen := true }
    have hbegin : (opened.beginLine writer wallUTC tick frame).Printable :=
      nofun
    exact opened.outputAppend_some writer hbegin
  · exact ⟨_, rfl⟩

theorem recordLines_printable {rot : Int} {seq : Nat}
    {events : List GameplayEvent} :
    (∀ line ∈ recordLines rot seq events, line.Printable)
      ↔ ∀ event ∈ events, event.Printable := by
  induction events generalizing seq with
  | nil => simp [recordLines]
  | cons event rest ih =>
      rw [recordLines, List.forall_mem_cons, List.forall_mem_cons, ih]
      refine and_congr_left fun _ => ?_
      constructor
      · exact fun h => h event rfl
      · rintro h event' hevent
        cases hevent
        exact h

/-- A batch is printable when its records are. -/
theorem batchLines_printable (s : GameplayEventLog cfg W) (batch : Batch) :
    (∀ line ∈ s.batchLines writer batch, line.Printable)
      ↔ ∀ event ∈ batch.scratch, event.Printable := by
  unfold batchLines
  rw [List.forall_mem_append, recordLines_printable]
  refine and_iff_right fun line hline => ?_
  unfold dropLines at hline
  split at hline
  · rw [List.mem_singleton.mp hline]
    nofun
  · cases hline

/-- A printable batch is written. -/
theorem drainWrite_some (s : GameplayEventLog cfg W) {batch : Batch}
    (h : ∀ event ∈ batch.scratch, event.Printable) :
    ∃ w, s.drainWrite writer batch = some { s with
      nextSeq := s.nextSeq + (s.batchLines writer batch).length
      archive := s.archive.write (s.batchLines writer batch)
      writer := w, phase := .idle } := by
  obtain ⟨s₁, hwrite⟩ := write_some writer
    { s with nextSeq := s.nextSeq + (s.batchLines writer batch).length }
    ((s.batchLines_printable writer batch).mpr h)
  unfold drainWrite
  dsimp only
  rw [hwrite]
  obtain ⟨w, rfl⟩ := write_inv hwrite
  dsimp only [Option.bind_eq_bind, Option.bind_some]
  split
  case isTrue => exact ⟨_, rfl⟩
  case isFalse => exact ⟨_, rfl⟩

-- =============================================================== the call

/-- The first `n` steps of a drain, each with its own clock. -/
def drainActs (clock : Nat → Text) : Nat → List Action
  | 0 => []
  | n + 1 => .drain (clock 0) :: drainActs (fun i => clock (i + 1)) n

/-- A call to `flush` on `s`, during which no other thread steps, returns
after finitely many steps and leaves `t`. -/
def FlushReturns (clock : Nat → Text) (s t : GameplayEventLog cfg W) :
    Prop :=
  ∃ s₀ n, s.step writer .flush = some s₀
    ∧ Run.run (step writer) s₀ (drainActs clock n) = some t
    ∧ t.flushing = false

/-- What the barrier promises: it returns, and nothing waits any more. -/
def FlushEmpties (clock : Nat → Text) (s : GameplayEventLog cfg W) : Prop :=
  ∃ t, FlushReturns writer clock s t
    ∧ t.ring.pending = 0 ∧ t.droppedSinceDrain = 0

-- ========================================================= the loss window

/-- The loss window is open only while a record is pending. -/
def WindowBehindRing (s : GameplayEventLog cfg W) : Prop :=
  0 < s.droppedSinceDrain → 0 < s.ring.pending

variable {writer}

theorem Effect.windowBehindRing {action : Action}
    {s s' : GameplayEventLog cfg W} (h : Effect writer action s s') (hI : s.WindowBehindRing) :
    s'.WindowBehindRing := by
  cases h with
  | append s₀ record phase _ hs₀ _ _ _ =>
      -- a store leaves at least the record it stored
      have hstored := s.ring.store_pos record
      intro _
      rcases hs₀ with rfl | ⟨_, zone, rfl⟩ <;>
      · rw [store_eq]
        exact hstored
  | claim n hpos hle hrun hphase => exact fun h => absurd h (lt_irrefl 0)
  | _ => exact hI

variable (writer)

theorem reachable_windowBehindRing {w : W} {s : GameplayEventLog cfg W}
    (h : Run.Reachable (step writer) (init cfg w) s) : s.WindowBehindRing :=
  h.invariant (fun h => absurd h (lt_irrefl 0))
    fun hI hstep => (step_effect writer hstep).windowBehindRing hI

-- ============================================================ the way down

/-- Nothing the flush writes can trap: the log has given up its file and
writes no batch, or every record it holds is printable. -/
def Writes (s : GameplayEventLog cfg W) : Prop :=
  (s.openFailed = true
      ∧ ∀ batch, s.phase ≠ .opened batch ∧ s.phase ≠ .rotated batch)
    ∨ ((∀ event ∈ s.ring.contents, event.Printable)
      ∧ ∀ batch, s.phase.batch? = some batch →
        ∀ event ∈ batch.scratch, event.Printable)

/-- A flush that makes progress. -/
structure Flows (s : GameplayEventLog cfg W) : Prop where
  flushing : s.flushing = true
  running : s.isShutDown = false
  window : s.WindowBehindRing
  entered : s.phase = .entered → 0 < s.ring.pending
  writes : s.Writes

/-- Steps to go: five a pending record, and the rest of the pass. -/
def rank (s : GameplayEventLog cfg W) : Nat :=
  5 * s.ring.pending + match s.phase with
    | .entered => 0
    | .idle => 1
    | .rotated _ => 2
    | .opened _ => 3
    | .claimed _ => 4

/-- A step of the flush came back with nothing waiting, or nearer to
it. -/
def Nearer (s s' : GameplayEventLog cfg W) : Prop :=
  (s'.flushing = false ∧ s'.ring.pending = 0 ∧ s'.droppedSinceDrain = 0)
    ∨ (s'.Flows ∧ s'.rank < s.rank)

/-- Between batches only the ring can hold an unprintable record. -/
theorem Writes.of_batch_none {s s' : GameplayEventLog cfg W} (h : s.Writes)
    (hring : s'.ring = s.ring) (hfailed : s'.openFailed = s.openFailed)
    (hnone : s'.phase.batch? = none) : s'.Writes := by
  rcases h with ⟨hf, _⟩ | ⟨hcontents, _⟩
  · refine .inl ⟨hfailed.trans hf, fun batch => ⟨fun h => ?_, fun h => ?_⟩⟩ <;>
    · rw [h] at hnone
      cases hnone
  · refine .inr ⟨hring ▸ hcontents, fun batch h => ?_⟩
    rw [hnone] at h
    cases h

/-- Between passes the flush ends, or calls the next `drainNow`. -/
theorem drain_flows_idle {s : GameplayEventLog cfg W} (hs : s.Flows)
    (hphase : s.phase = .idle) (wallUTC : Text) :
    ∃ s', s.drain writer wallUTC = some s' ∧ s.Nearer s' := by
  unfold drain
  rw [hphase]
  dsimp only
  rw [if_pos hs.flushing]
  by_cases hwork : s.hasPendingWork = true
  · refine ⟨_, if_pos hwork, .inr ⟨⟨hs.flushing, hs.running, hs.window, ?_,
      ?_⟩, ?_⟩⟩
    · intro _
      simp only [hasPendingWork, decide_eq_true_eq] at hwork
      rcases hwork with h | h
      · exact h
      · exact hs.window h
    · exact hs.writes.of_batch_none rfl rfl rfl
    · simp only [rank, hphase]
      omega
  · refine ⟨_, if_neg hwork, .inl ⟨rfl, ?_⟩⟩
    simp only [hasPendingWork, decide_eq_true_eq, not_or, not_lt,
      Nat.le_zero] at hwork
    exact hwork

/-- A pass that may claim takes at least one record. -/
theorem drainClaim_claims {s : GameplayEventLog cfg W}
    (hmode : cfg.mode ≠ .off) (hbatch : 1 ≤ cfg.limits.drainBatchEvents)
    (hrunning : s.isShutDown = false) (hpending : 0 < s.ring.pending) :
    ∃ n, 0 < n ∧ n ≤ s.ring.pending
      ∧ s.drainClaim = some { s with
        ring := s.ring.claim n, droppedSinceDrain := 0
        phase := .claimed (s.batchOf n) } := by
  refine ⟨(min (s.ring.pending : Int) cfg.limits.drainBatchEvents).toNat, ?_,
    ?_, ?_⟩
  · omega
  · omega
  · unfold drainClaim
    rw [if_neg (by simp [hmode, hrunning])]
    dsimp only
    rw [if_neg (by omega), if_neg (by omega)]
    rfl

theorem drain_flows_entered (hmode : cfg.mode ≠ .off)
    (hbatch : 1 ≤ cfg.limits.drainBatchEvents) {s : GameplayEventLog cfg W}
    (hs : s.Flows) (hphase : s.phase = .entered) (wallUTC : Text) :
    ∃ s', s.drain writer wallUTC = some s' ∧ s.Nearer s' := by
  obtain ⟨n, hpos, hle, hclaim⟩ :=
    drainClaim_claims hmode hbatch hs.running (hs.entered hphase)
  unfold drain
  rw [hphase]
  refine ⟨_, hclaim, .inr ⟨⟨hs.flushing, hs.running, ?_, nofun, ?_⟩, ?_⟩⟩
  · exact fun h => absurd h (lt_irrefl 0)
  · rcases hs.writes with ⟨hfailed, _⟩ | ⟨hcontents, _⟩
    · exact .inl ⟨hfailed, fun batch => ⟨nofun, nofun⟩⟩
    · right
      refine ⟨fun event hevent => ?_, fun batch hb event hevent => ?_⟩
      · rw [Ring.contents_claim] at hevent
        exact hcontents event (List.mem_of_mem_drop hevent)
      · cases hb
        rw [batchOf, Ring.taken_eq] at hevent
        exact hcontents event (List.mem_of_mem_take hevent)
  · simp only [rank, hphase, Ring.claim_pending]
    omega

/-- Opening neither touches the ring nor the loss window, and never comes
back with a file once the log has given it up. -/
theorem ensureFileOpen_kept {s s' : GameplayEventLog cfg W} {wallUTC : Text}
    {tick frame : UInt32} {answer : Bool}
    (h : s.ensureFileOpen writer wallUTC tick frame = some (answer, s')) :
    s'.ring = s.ring ∧ s'.droppedSinceDrain = s.droppedSinceDrain
      ∧ s'.flushing = s.flushing ∧ s'.isShutDown = s.isShutDown
      ∧ (s.openFailed = true → answer = false ∧ s'.openFailed = true) := by
  rcases ensureFileOpen_inv h with
    ⟨rfl, w, openFailed, archive, rfl, _, hkeep, _⟩
    | ⟨rfl, rfl, _, hfailed⟩ | ⟨rfl, _, hfailed, w, rot, path, rfl⟩
  · exact ⟨rfl, rfl, rfl, rfl, fun h => ⟨rfl, hkeep h⟩⟩
  · exact ⟨rfl, rfl, rfl, rfl, fun h => absurd h (by simp [hfailed])⟩
  · exact ⟨rfl, rfl, rfl, rfl, fun h => absurd h (by simp [hfailed])⟩

theorem drain_flows_claimed {s : GameplayEventLog cfg W} {batch : Batch}
    (hs : s.Flows) (hphase : s.phase = .claimed batch) (wallUTC : Text) :
    ∃ s', s.drain writer wallUTC = some s' ∧ s.Nearer s' := by
  obtain ⟨answer, s₁, hopen⟩ := s.ensureFileOpen_some writer wallUTC
    batch.stampTick batch.stampFrame
  obtain ⟨hring, hdsd, hfl, hsd, hfailed⟩ := ensureFileOpen_kept writer hopen
  have hwindow : 0 < s₁.droppedSinceDrain → 0 < s₁.ring.pending := by
    rw [hring, hdsd]
    exact hs.window
  unfold drain drainOpen
  rw [hphase]
  dsimp only
  rw [hopen]
  cases answer with
  | true =>
      refine ⟨_, rfl, .inr ⟨⟨hfl.trans hs.flushing, hsd.trans hs.running,
        hwindow, nofun, ?_⟩, ?_⟩⟩
      · rcases hs.writes with ⟨hf, _⟩ | ⟨hcontents, hscratch⟩
        · cases (hfailed hf).1
        · right
          refine ⟨hring ▸ hcontents, fun batch' hb => ?_⟩
          cases hb
          exact hscratch batch (by rw [hphase]; rfl)
      · simp only [rank, hphase, hring]
        omega
  | false =>
      refine ⟨_, rfl, .inr ⟨⟨hfl.trans hs.flushing, hsd.trans hs.running,
        hwindow, nofun, ?_⟩, ?_⟩⟩
      · rcases hs.writes with ⟨hf, _⟩ | ⟨hcontents, _⟩
        · exact .inl ⟨(hfailed hf).2, fun batch => ⟨nofun, nofun⟩⟩
        · exact .inr ⟨hring ▸ hcontents, nofun⟩
      · simp only [rank, hphase, hring]
        omega

theorem drain_flows_opened {s : GameplayEventLog cfg W} {batch : Batch}
    (hs : s.Flows) (hphase : s.phase = .opened batch) (wallUTC : Text) :
    ∃ s', s.drain writer wallUTC = some s' ∧ s.Nearer s' := by
  have hwrites : (∀ event ∈ s.ring.contents, event.Printable)
      ∧ ∀ event ∈ batch.scratch, event.Printable := by
    rcases hs.writes with ⟨_, hnone⟩ | ⟨hcontents, hscratch⟩
    · exact absurd hphase (hnone batch).1
    · exact ⟨hcontents, hscratch batch (by rw [hphase]; rfl)⟩
  unfold drain drainRotate
  rw [hphase]
  dsimp only
  split
  case isTrue =>
    obtain ⟨s₁, hrotate⟩ := s.rotateFile_some writer wallUTC batch.stampTick
      batch.stampFrame
    rw [hrotate]
    rcases rotateFile_inv hrotate with
      ⟨retired, rot, fromPath, toPath, path, w, rfl⟩
      | ⟨_, retired, fromPath, toPath, w, rfl⟩ <;>
    · refine ⟨_, rfl, .inr ⟨⟨hs.flushing, hs.running, hs.window, nofun,
        .inr ⟨hwrites.1, ?_⟩⟩, ?_⟩⟩
      · intro batch' hb
        cases hb
        exact hwrites.2
      · simp only [rank, hphase]
        omega
  case isFalse =>
    refine ⟨_, rfl, .inr ⟨⟨hs.flushing, hs.running, hs.window, nofun,
      .inr ⟨hwrites.1, ?_⟩⟩, ?_⟩⟩
    · intro batch' hb
      cases hb
      exact hwrites.2
    · simp only [rank, hphase]
      omega

theorem drain_flows_rotated {s : GameplayEventLog cfg W} {batch : Batch}
    (hs : s.Flows) (hphase : s.phase = .rotated batch) (wallUTC : Text) :
    ∃ s', s.drain writer wallUTC = some s' ∧ s.Nearer s' := by
  have hwrites : (∀ event ∈ s.ring.contents, event.Printable)
      ∧ ∀ event ∈ batch.scratch, event.Printable := by
    rcases hs.writes with ⟨_, hnone⟩ | ⟨hcontents, hscratch⟩
    · exact absurd hphase (hnone batch).2
    · exact ⟨hcontents, hscratch batch (by rw [hphase]; rfl)⟩
  obtain ⟨w, hwrite⟩ := drainWrite_some writer s hwrites.2
  have hdrain : s.drain writer wallUTC = s.drainWrite writer batch := by
    unfold drain
    rw [hphase]
  rw [hdrain, hwrite]
  refine ⟨_, rfl, .inr ⟨⟨hs.flushing, hs.running, hs.window, nofun,
    .inr ⟨hwrites.1, nofun⟩⟩, ?_⟩⟩
  simp only [rank, hphase]
  omega

/-- One step of a flush in progress: it returns with nothing waiting, or
is nearer to it. -/
theorem drain_flows (hmode : cfg.mode ≠ .off)
    (hbatch : 1 ≤ cfg.limits.drainBatchEvents) {s : GameplayEventLog cfg W}
    (hs : s.Flows) (wallUTC : Text) :
    ∃ s', s.drain writer wallUTC = some s' ∧ s.Nearer s' := by
  cases hphase : s.phase with
  | idle => exact drain_flows_idle writer hs hphase wallUTC
  | entered => exact drain_flows_entered writer hmode hbatch hs hphase wallUTC
  | claimed batch => exact drain_flows_claimed writer hs hphase wallUTC
  | opened batch => exact drain_flows_opened writer hs hphase wallUTC
  | rotated batch => exact drain_flows_rotated writer hs hphase wallUTC

/-- A drain step is the drain's, whatever the producers may do. -/
theorem step_drain (s : GameplayEventLog cfg W) (wallUTC : Text) :
    s.step writer (.drain wallUTC) = s.drain writer wallUTC := by
  simp [step, Action.produces]

/-- A flush that makes progress returns with nothing waiting. -/
theorem run_flows (hmode : cfg.mode ≠ .off)
    (hbatch : 1 ≤ cfg.limits.drainBatchEvents) {s : GameplayEventLog cfg W}
    (hs : s.Flows) (clock : Nat → Text) :
    ∃ n t, Run.run (step writer) s (drainActs clock n) = some t
      ∧ t.flushing = false ∧ t.ring.pending = 0
      ∧ t.droppedSinceDrain = 0 := by
  induction hrank : s.rank using Nat.strongRecOn generalizing s clock with
  | ind rank ih =>
      obtain ⟨s', hdrain, hnearer⟩ :=
        drain_flows writer hmode hbatch hs (clock 0)
      have hstep : s.step writer (.drain (clock 0)) = some s' := by
        rw [step_drain, hdrain]
      rcases hnearer with hdone | ⟨hs', hlt⟩
      · refine ⟨1, s', ?_, hdone⟩
        rw [drainActs, Run.run_cons, hstep]
        rfl
      · obtain ⟨n, t, hrun, hdone⟩ :=
          ih s'.rank (hrank ▸ hlt) hs' (fun i => clock (i + 1)) rfl
        refine ⟨n + 1, t, ?_, hdone⟩
        rw [drainActs, Run.run_cons, hstep]
        exact hrun

-- =============================================================== no way down

/-- A flush whose passes cannot claim. -/
structure Stuck (s : GameplayEventLog cfg W) : Prop where
  flushing : s.flushing = true
  pending : 0 < s.ring.pending
  blocked : s.isShutDown = true ∨ cfg.limits.drainBatchEvents ≤ 0
  empty : s.phase.batch? = none

/-- A pass of a stuck flush changes nothing. -/
theorem drain_stuck {s s' : GameplayEventLog cfg W} {wallUTC : Text}
    (hs : s.Stuck) (h : s.drain writer wallUTC = some s') : s'.Stuck := by
  obtain ⟨hflushing, hpending, hblocked, hempty⟩ := hs
  unfold drain at h
  cases hphase : s.phase with
  | idle =>
      rw [hphase] at h
      dsimp only at h
      rw [if_pos hflushing, if_pos (by simp [hasPendingWork, hpending])] at h
      injection h with h
      subst h
      exact ⟨hflushing, hpending, hblocked, rfl⟩
  | entered =>
      rw [hphase] at h
      dsimp only at h
      unfold drainClaim at h
      split at h
      case isTrue =>
        injection h with h
        subst h
        exact ⟨hflushing, hpending, hblocked, rfl⟩
      case isFalse hrun =>
        have hsize : cfg.limits.drainBatchEvents ≤ 0 :=
          hblocked.resolve_left fun hshut => hrun (.inr hshut)
        dsimp only at h
        split at h
        case isTrue => cases h
        case isFalse =>
          rw [if_pos (by omega)] at h
          injection h with h
          subst h
          exact ⟨hflushing, hpending, hblocked, rfl⟩
  | claimed batch | opened batch | rotated batch =>
      rw [hphase] at hempty
      cases hempty

/-- What every drain step keeps, a run of drain steps keeps. -/
theorem run_drainActs {I : GameplayEventLog cfg W → Prop}
    (hstep : ∀ {s s' wallUTC}, I s → s.drain writer wallUTC = some s' → I s')
    {clock : Nat → Text} {n : Nat} {s t : GameplayEventLog cfg W} (hs : I s)
    (hrun : Run.run (step writer) s (drainActs clock n) = some t) : I t := by
  induction n generalizing s clock with
  | zero =>
      cases hrun
      exact hs
  | succ n ih =>
      obtain ⟨s', hs', hrest⟩ := Run.run_cons_inv hrun
      rw [step_drain] at hs'
      exact ih (hstep hs hs') hrest

-- ================================================================ the trap

/-- A flush over a file that will take its batches, with a record waiting
that has no line. -/
structure Trapped (s : GameplayEventLog cfg W) : Prop where
  flushing : s.flushing = true
  accepting : s.openFailed = false
  waiting : (∃ event ∈ s.ring.contents, ¬event.Printable)
    ∨ ∃ batch, s.phase.batch? = some batch
      ∧ ∃ event ∈ batch.scratch, ¬event.Printable

/-- Over a writer that grants every call, no step of such a flush gets
past the record. -/
theorem drain_trapped (hmode : cfg.mode ≠ .off) (hgrants : writer.Grants)
    {s s' : GameplayEventLog cfg W} {wallUTC : Text} (hs : s.Trapped)
    (h : s.drain writer wallUTC = some s') : s'.Trapped := by
  obtain ⟨hflushing, haccepting, hwaiting⟩ := hs
  unfold drain at h
  cases hphase : s.phase with
  | idle =>
      have hring : ∃ event ∈ s.ring.contents, ¬event.Printable := by
        rcases hwaiting with h | ⟨batch, hb, _⟩
        · exact h
        · rw [hphase] at hb
          cases hb
      have hpending : 0 < s.ring.pending := by
        obtain ⟨event, hevent, _⟩ := hring
        rw [← Ring.length_contents]
        exact List.length_pos_of_mem hevent
      rw [hphase] at h
      dsimp only at h
      rw [if_pos hflushing, if_pos (by simp [hasPendingWork, hpending])] at h
      injection h with h
      subst h
      exact ⟨hflushing, haccepting, .inl hring⟩
  | entered =>
      have hring : ∃ event ∈ s.ring.contents, ¬event.Printable := by
        rcases hwaiting with h | ⟨batch, hb, _⟩
        · exact h
        · rw [hphase] at hb
          cases hb
      rw [hphase] at h
      dsimp only at h
      unfold drainClaim at h
      split at h
      case isTrue =>
        injection h with h
        subst h
        exact ⟨hflushing, haccepting, .inl hring⟩
      case isFalse =>
        dsimp only at h
        split at h
        case isTrue => cases h
        case isFalse =>
          split at h
          case isTrue =>
            injection h with h
            subst h
            exact ⟨hflushing, haccepting, .inl hring⟩
          case isFalse =>
            injection h with h
            subst h
            obtain ⟨event, hevent, hnot⟩ := hring
            refine ⟨hflushing, haccepting, ?_⟩
            dsimp only [Phase.batch?]
            rw [Ring.contents_claim]
            rw [← List.take_append_drop
              (min (s.ring.pending : Int) cfg.limits.drainBatchEvents).toNat
              s.ring.contents] at hevent
            rcases List.mem_append.mp hevent with htake | hdrop
            · exact .inr ⟨_, rfl, event, by rwa [Ring.taken_eq], hnot⟩
            · exact .inl ⟨event, hdrop, hnot⟩
  | claimed batch =>
      have hwaiting' (s' : GameplayEventLog cfg W) (hring : s'.ring = s.ring)
          (hb : s'.phase.batch? = s.phase.batch?) :
          (∃ event ∈ s'.ring.contents, ¬event.Printable)
            ∨ ∃ batch, s'.phase.batch? = some batch
              ∧ ∃ event ∈ batch.scratch, ¬event.Printable := by
        rw [hring, hb]
        exact hwaiting
      rw [hphase] at h
      dsimp only at h
      unfold drainOpen at h
      obtain ⟨⟨answer, s₁⟩, hopen, hs'⟩ := Option.bind_eq_some_iff.mp h
      rcases ensureFileOpen_inv hopen with
        ⟨rfl, w, openFailed, archive, rfl, _, _, hrefused⟩
        | ⟨rfl, rfl, _, _⟩ | ⟨rfl, _, _, w, rot, path, rfl⟩
      · rcases hrefused with hf | hoff | ⟨_, hw⟩
        · rw [haccepting] at hf
          cases hf
        · exact absurd hoff hmode
        · rw [hgrants.opens] at hw
          cases hw
      · injection hs' with hs'
        subst hs'
        exact ⟨hflushing, haccepting,
          hwaiting' _ rfl (by rw [hphase]; rfl)⟩
      · injection hs' with hs'
        subst hs'
        exact ⟨hflushing, haccepting,
          hwaiting' _ rfl (by rw [hphase]; rfl)⟩
  | opened batch =>
      rw [hphase] at h
      dsimp only at h
      unfold drainRotate at h
      split at h
      case isTrue =>
        obtain ⟨s₁, hrotate, hs'⟩ := Option.bind_eq_some_iff.mp h
        injection hs' with hs'
        subst hs'
        rcases rotateFile_inv hrotate with
          ⟨retired, rot, fromPath, toPath, path, w, rfl⟩ | ⟨hanswer, _⟩
        · rw [hphase] at hwaiting
          exact ⟨hflushing, haccepting, hwaiting⟩
        · rw [rotationAnswer_of_grants hgrants] at hanswer
          cases hanswer
      case isFalse =>
        injection h with h
        subst h
        rw [hphase] at hwaiting
        exact ⟨hflushing, haccepting, hwaiting⟩
  | rotated batch =>
      rw [hphase] at h
      dsimp only at h
      unfold drainWrite at h
      obtain ⟨s₁, hwrite, hs'⟩ := Option.bind_eq_some_iff.mp h
      -- the batch was written, so the record is still in the ring
      have hprinted := (s.batchLines_printable writer batch).mp
        (printable_of_write writer hwrite)
      have hring : ∃ event ∈ s.ring.contents, ¬event.Printable := by
        rcases hwaiting with h | ⟨batch', hb, event, hevent, hnot⟩
        · exact h
        · rw [hphase] at hb
          cases hb
          exact absurd (hprinted event hevent) hnot
      obtain ⟨w, rfl⟩ := write_inv hwrite
      dsimp only at hs'
      injection hs' with hs'
      subst hs'
      split
      case isTrue => exact ⟨hflushing, haccepting, .inl hring⟩
      case isFalse => exact ⟨hflushing, haccepting, .inl hring⟩

-- ============================================================== the barrier

/-- A pass can claim, or has nothing to claim. -/
def MayClaim (s : GameplayEventLog cfg W) : Prop :=
  s.ring.pending = 0
    ∨ (s.isShutDown = false ∧ 1 ≤ cfg.limits.drainBatchEvents)

/-- A call to `flush` starts on a free drain thread. -/
theorem step_flush (hmode : cfg.mode ≠ .off) {s : GameplayEventLog cfg W}
    (hfree : s.free = true) :
    s.step writer .flush = some { s with flushing := true } := by
  simp [step, Action.produces, hmode, hfree]

theorem drain_idle {s : GameplayEventLog cfg W} {wallUTC : Text}
    (hidle : s.phase = .idle) :
    s.drain writer wallUTC = if s.flushing then
        if s.hasPendingWork then some { s with phase := .entered }
        else some { s.synchronize writer with
          flushing := false, closing := s.closing.flushDone }
      else none := by
  unfold drain
  rw [hidle]

/-- With nothing waiting the loop is not entered. -/
theorem flush_empties_of_empty (hmode : cfg.mode ≠ .off)
    {s : GameplayEventLog cfg W} (hfree : s.free = true)
    (hwindow : s.WindowBehindRing) (hpending : s.ring.pending = 0)
    (clock : Nat → Text) : FlushEmpties writer clock s := by
  have hdsd : s.droppedSinceDrain = 0 := by
    by_contra hne
    have := hwindow (Nat.pos_of_ne_zero hne)
    omega
  have hidle := free_phase hfree
  have hdrain : ({ s with flushing := true }).drain writer (clock 0)
      = some { s.synchronize writer with
        flushing := false, closing := s.closing.flushDone } := by
    have hidle' : ({ s with flushing := true }).phase = .idle := hidle
    rw [drain_idle writer hidle', if_pos rfl,
      if_neg (by simp [hasPendingWork, hpending, hdsd])]
    rfl
  have hrun : Run.run (step writer) { s with flushing := true }
      (drainActs clock 1) = some { s.synchronize writer with
        flushing := false, closing := s.closing.flushDone } := by
    rw [drainActs, Run.run_cons, step_drain, hdrain]
    rfl
  exact ⟨_, ⟨_, 1, step_flush writer hmode hfree, hrun, rfl⟩, hpending, hdsd⟩

/-- In every reachable state whose drain thread is free, a flush that no
other thread disturbs returns with nothing pending and no loss
undeclared if a pass can claim and the formatter has a line for what is
pending (or the log has given up its file); and if it so returns, a pass
could claim, and, over a writer that grants its calls, there was a line
for everything. -/
theorem flush_barrier {w : W} {s : GameplayEventLog cfg W}
    (hreach : Run.Reachable (step writer) (init cfg w) s)
    (hfree : s.free = true) (hmode : cfg.mode ≠ .off)
    (clock : Nat → Text) :
    (s.MayClaim ∧ s.Writes → FlushEmpties writer clock s)
      ∧ (FlushEmpties writer clock s →
        s.MayClaim ∧ (writer.Grants → s.Writes)) := by
  have hwindow := reachable_windowBehindRing writer hreach
  have hidle := free_phase hfree
  constructor
  · rintro ⟨hpending | ⟨hrunning, hbatch⟩, hwrites⟩
    · exact flush_empties_of_empty writer hmode hfree hwindow hpending clock
    · have hflows : Flows { s with flushing := true } := by
        refine ⟨rfl, hrunning, hwindow, fun h => ?_, hwrites⟩
        rw [show s.phase = .entered from h] at hidle
        cases hidle
      obtain ⟨n, t, hrun, hdone, hempty⟩ :=
        run_flows writer hmode hbatch hflows clock
      exact ⟨t, ⟨_, n, step_flush writer hmode hfree, hrun, hdone⟩, hempty⟩
  · rintro ⟨t, ⟨s₀, n, hflush, hrun, hdone⟩, _⟩
    rw [step_flush writer hmode hfree] at hflush
    injection hflush with hflush
    subst hflush
    constructor
    · -- a pass that cannot claim never lets the loop end
      by_contra hnot
      unfold MayClaim at hnot
      rw [not_or, not_and_or] at hnot
      have hstuck : Stuck { s with flushing := true } := by
        refine ⟨rfl, Nat.pos_of_ne_zero hnot.1, ?_, ?_⟩
        · rcases hnot.2 with h | h
          · exact .inl (by simpa using h)
          · exact .inr (by omega)
        · show s.phase.batch? = none
          rw [hidle]
          rfl
      have hstill := run_drainActs writer (drain_stuck writer) hstuck hrun
      rw [hstill.flushing] at hdone
      cases hdone
    · intro hgrants
      by_contra hnot
      have htrapped : Trapped { s with flushing := true } := by
        unfold Writes at hnot
        rw [not_or] at hnot
        refine ⟨rfl, ?_, .inl ?_⟩
        · rw [← Bool.not_eq_true]
          intro hfailed
          refine hnot.1 ⟨hfailed, fun batch => ?_⟩
          rw [hidle]
          exact ⟨nofun, nofun⟩
        · by_contra hall
          refine hnot.2 ⟨fun event hevent => ?_, fun batch hb => ?_⟩
          · by_contra hn
            exact hall ⟨event, hevent, hn⟩
          · rw [hidle] at hb
            cases hb
      have hstill := run_drainActs writer
        (drain_trapped writer hmode hgrants) htrapped hrun
      rw [hstill.flushing] at hdone
      cases hdone

-- ================================================= a flush after shutdown

/-- A log with a queue. -/
def queueConfiguration : Configuration where
  mode := .asynchronous
  level := 2
  runToken := "run".toList
  limits := { ringCapacity := 16 }

/-- A shutdown with nothing waiting, and one record after it. -/
def lateRecord : List Action :=
  [.shutdown .appQuit, .close [], .drain [], .close [], .close [],
    .emit .playerShootBlaster 1 0 0 9 8]

/-- The same record with no shutdown before it. -/
def earlyRecord : List Action := [.emit .playerShootBlaster 1 0 0 9 8]

/-- A log that is not shut down flushes the record. -/
theorem flush_barrier_earlyRecord :
    ∃ s, Run.run (step (GameplayEventMemoryWriter.writer false))
        (init queueConfiguration {}) earlyRecord = some s
      ∧ s.ring.pending = 1
      ∧ FlushEmpties (GameplayEventMemoryWriter.writer false)
        (fun _ => []) s := by
  have hrun : ((Run.run (step (GameplayEventMemoryWriter.writer false))
      (init queueConfiguration {}) earlyRecord).map fun s =>
        (s.free, s.isShutDown, s.ring.pending,
          s.ring.contents.all fun event => (appendPayload event).isSome))
      = some (true, false, 1, true) := by decide +kernel
  obtain ⟨s, hs, hvalues⟩ := Option.map_eq_some_iff.mp hrun
  simp only [Prod.mk.injEq] at hvalues
  obtain ⟨hfree, hrunning, hpending, hprintable⟩ := hvalues
  refine ⟨s, hs, hpending, (flush_barrier
    (GameplayEventMemoryWriter.writer false) ⟨earlyRecord, hs⟩ hfree
    (by decide) _).1 ⟨.inr ⟨hrunning, by decide⟩, .inr ⟨?_, ?_⟩⟩⟩
  · exact fun event hevent => List.all_eq_true.mp hprintable event hevent
  · intro batch hb
    rw [free_phase hfree] at hb
    cases hb

/-- After a shutdown a flush of one record never returns. -/
theorem flush_never_returns :
    ¬ ∀ (cfg : Configuration) (w : GameplayEventMemoryWriter)
        (s : GameplayEventLog cfg GameplayEventMemoryWriter),
      Run.Reachable (step (GameplayEventMemoryWriter.writer false))
        (init cfg w) s →
      s.free = true → cfg.mode ≠ .off →
      ∀ clock, FlushEmpties (GameplayEventMemoryWriter.writer false)
        clock s := by
  intro h
  have hrun : ((Run.run (step (GameplayEventMemoryWriter.writer false))
      (init queueConfiguration {}) lateRecord).map fun s =>
        (s.free, s.isShutDown, s.ring.pending)) = some (true, true, 1) := by
    decide +kernel
  obtain ⟨s, hs, hvalues⟩ := Option.map_eq_some_iff.mp hrun
  simp only [Prod.mk.injEq] at hvalues
  obtain ⟨hfree, hshut, hpending⟩ := hvalues
  obtain ⟨t, ⟨s₀, n, hflush, hdrains, hdone⟩, _⟩ :=
    h queueConfiguration {} s ⟨lateRecord, hs⟩ hfree (by decide)
      (fun _ => [])
  rw [step_flush _ (by decide) hfree] at hflush
  injection hflush with hflush
  subst hflush
  have hstuck : Stuck { s with flushing := true } := by
    refine ⟨rfl, ?_, .inl hshut, ?_⟩
    · show 0 < s.ring.pending
      omega
    · show s.phase.batch? = none
      rw [free_phase hfree]
      rfl
  have hstill := run_drainActs _ (drain_stuck _) hstuck hdrains
  rw [hstill.flushing] at hdone
  cases hdone

end GameplayEventLog

end Exolon
