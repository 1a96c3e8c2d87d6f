/-
The files of a finished log, read as one stream.

The log is a journal (Lib.Journal): `view` reads its archive as numbered
lines, the drain under way as the journal's batch, the ring as its queue
and the history as the fate of everything stored. Every effect of a step
is a journal run (`Effect.refines`), so the journal's invariant holds in
every state: dense numbers, stamps that never decrease, and gaps that
name the numbers around them.

# What the journal does not know

`Filed` keeps the rest: how the lines are cut into files, that the
history is the ring's past, and that a shutdown ends with nothing left
to write. It needs three facts about each step (`Orderly`): the open or
rotation it makes is granted, the producer thread makes none after its
`shutdown`, and no counter of ticks or frames wraps.
-/
import Exolon.EventLog.Conserve
import Exolon.Lib.Journal

namespace Exolon

-- ============================================================ the lines

namespace LogLine

def seq : LogLine → Nat
  | .begin seq .. | .rotate seq .. | .eventsDropped seq .. | .ended seq ..
  | .record seq .. => seq

/-- The tick a line is stamped with: a record's own. -/
def tick : LogLine → UInt32
  | .begin _ tick .. | .rotate _ tick .. | .eventsDropped _ tick ..
  | .ended _ tick .. => tick
  | .record _ _ event => event.tick

/-- The frame a line is stamped with: a record's own. -/
def frame : LogLine → UInt32
  | .begin _ _ frame .. | .rotate _ _ frame .. | .eventsDropped _ _ frame ..
  | .ended _ _ frame .. => frame
  | .record _ _ event => event.frame

/-- A header. -/
def begins : LogLine → Bool
  | .begin .. => true
  | _ => false

/-- The last line of a file that has a successor. -/
def rotates : LogLine → Bool
  | .rotate .. => true
  | _ => false

/-- The last line of the last file. -/
def ends : LogLine → Bool
  | .ended .. => true
  | _ => false

/-- A line between a header and a last line. -/
def inBody : LogLine → Bool
  | .eventsDropped .. | .record .. => true
  | _ => false

/-- The appended records a line stands for, in their order: `none` for
one that is missing. -/
def standsFor : LogLine → List (Option GameplayEvent)
  | .eventsDropped _ _ _ _ drops .. => List.replicate drops none
  | .record _ _ event => [some event]
  | _ => []

end LogLine

/-- What became of a record: `none` when the ring has lapped it. -/
def Appended.fate (entry : Appended) : Option GameplayEvent :=
  if entry.lapped then none else some entry.event

-- ============================================================ the files

/-- A file that is written to: a header and a body. -/
def OpenFile (file : List LogLine) : Prop :=
  ∃ header body, file = header :: body ∧ header.begins = true
    ∧ ∀ line ∈ body, line.inBody = true

/-- A file closed by a line of its own. -/
def ClosedFile (terminates : LogLine → Bool) (file : List LogLine) : Prop :=
  ∃ written last, file = written ++ [last] ∧ OpenFile written
    ∧ terminates last = true

theorem OpenFile.header {line : LogLine} (h : line.begins = true) :
    OpenFile [line] :=
  ⟨line, [], rfl, h, nofun⟩

theorem OpenFile.write {file lines : List LogLine} (h : OpenFile file)
    (hlines : ∀ line ∈ lines, line.inBody = true) :
    OpenFile (file ++ lines) := by
  obtain ⟨header, body, rfl, hheader, hbody⟩ := h
  refine ⟨header, body ++ lines, rfl, hheader, ?_⟩
  intro line hline
  rcases List.mem_append.mp hline with h | h
  · exact hbody line h
  · exact hlines line h

theorem OpenFile.ne_nil {file : List LogLine} (h : OpenFile file) :
    file ≠ [] := by
  obtain ⟨header, body, rfl, _, _⟩ := h
  exact List.cons_ne_nil _ _

namespace GameplayEventLog

variable {cfg : Configuration} {W : Type} {writer : GameplayEventWriter W}

/-- What the files of a finished log are, read in rotation order. -/
structure TotalOrder (s : GameplayEventLog cfg W) : Prop where
  /-- The numbers are 0, 1, 2, ... -/
  numbered : s.archive.stream.map LogLine.seq
    = List.range s.archive.stream.length
  /-- Retired files end in a rotation, the last file in the log's end. -/
  files : ∃ retired last, s.archive.files = retired ++ [last]
    ∧ (∀ file ∈ retired, ClosedFile LogLine.rotates file)
    ∧ ClosedFile LogLine.ends last
  /-- Stamps never decrease. -/
  ordered : s.archive.stream.Pairwise fun line later =>
    line.tick ≤ later.tick ∧ line.frame ≤ later.frame
  /-- The body records are the appended ones less the lapped ones. -/
  body : s.archive.stream.filterMap LogLine.event?
    = s.history.filterMap Appended.fate
  /-- Every appended record stands in its place, or is missing there. -/
  complete : s.archive.stream.flatMap LogLine.standsFor
    = s.history.map Appended.fate
  /-- A drop line stands where records are missing, for all that are
  missing there, and names the lines around it. -/
  holes : ∀ before after seq tick frame rot drops last first total count,
    s.archive.stream = before
      ++ .eventsDropped seq tick frame rot drops last first total count
      :: after →
    0 < drops
      ∧ (before.flatMap LogLine.standsFor).getLast? ≠ some none
      ∧ (∃ line ∈ before.getLast?, (line.seq : Int) = last)
      ∧ ∃ (number : Nat) (rot : Int) (event : GameplayEvent)
          (rest : List LogLine),
        after = .record number rot event :: rest ∧ (number : Int) = first
  /-- The history is what the two counters counted. -/
  totals : s.history.length = s.appendedTotal
    ∧ s.history.countP Appended.lapped = s.droppedTotal

-- ============================================================== the view

/-- When a record was stamped. -/
def stampOf (event : GameplayEvent) : Nat × Nat :=
  (event.tick.toNat, event.frame.toNat)

end GameplayEventLog

/-- A line of the log as a line of the journal. -/
def LogLine.journal : LogLine → Journal.Line GameplayEvent (Nat × Nat)
  | .begin seq tick frame .. | .rotate seq tick frame ..
  | .ended seq tick frame .. => .mark seq (tick.toNat, frame.toNat)
  | .eventsDropped seq tick frame _ drops last first _ _ =>
      .gap seq (tick.toNat, frame.toNat) drops last first
  | .record seq _ event => .item seq event

theorem LogLine.journal_seq (line : LogLine) :
    line.journal.seq = line.seq := by
  cases line <;> rfl

theorem LogLine.journal_accounts (line : LogLine) :
    line.journal.accounts = line.standsFor := by
  cases line <;> rfl

theorem LogLine.journal_stampedAt (line : LogLine) :
    line.journal.stampedAt GameplayEventLog.stampOf
      = (line.tick.toNat, line.frame.toNat) := by
  cases line <;> rfl

namespace GameplayEventLog

variable {cfg : Configuration} {W : Type} {writer : GameplayEventWriter W}

/-- The log as a journal. -/
def view (s : GameplayEventLog cfg W) : Journal GameplayEvent (Nat × Nat) where
  lines := s.archive.stream.map LogLine.journal
  batch := s.phase.batch?.map fun batch => ⟨batch.scratch, batch.drops⟩
  window := s.droppedSinceDrain
  queue := s.ring.contents
  fates := s.history.map Appended.fate
  now := (s.tickValue.toNat, s.frameValue.toNat)

theorem init_view (cfg : Configuration) (w : W) :
    (init cfg w).view = Journal.fresh (0, 0) := rfl

-- ============================================================= history

/-- The history is the ring's past, followed by what the ring holds. -/
def Remembered (s : GameplayEventLog cfg W) : Prop :=
  ∃ past, s.history = past ++ s.ring.contents.map (⟨·, false⟩)
    ∧ past.length = s.ring.head

theorem modify_at_length {α : Type} (f : α → α) (front : List α) (x : α)
    (rest : List α) :
    (front ++ x :: rest).modify front.length f = front ++ f x :: rest := by
  induction front with
  | nil => rfl
  | cons y front ih =>
      rw [List.cons_append, List.length_cons, List.modify_succ_cons, ih]
      rfl

/-- A full ring has an oldest record. -/
theorem contents_of_full {s : GameplayEventLog cfg W}
    (hfull : s.ring.full = true) :
    ∃ oldest rest, s.ring.contents = oldest :: rest := by
  have hpos := Nat.pos_of_isPowerOfTwo s.ring.pow
  rw [Ring.full_iff] at hfull
  apply List.exists_cons_of_length_pos
  rw [Ring.length_contents]
  omega

/-- The record a lap loses is the one `markLapped` marks. -/
theorem markLapped_eq {s : GameplayEventLog cfg W} {past : List Appended}
    {oldest : GameplayEvent} {rest : List GameplayEvent}
    (hhistory : s.history = past ++ s.ring.contents.map (⟨·, false⟩))
    (hpast : past.length = s.ring.head)
    (hcontents : s.ring.contents = oldest :: rest) :
    s.markLapped = past ++ ⟨oldest, true⟩ :: rest.map (⟨·, false⟩) := by
  unfold markLapped
  rw [hhistory, ← hpast, hcontents, List.map_cons]
  exact modify_at_length _ past _ _

/-- Claiming moves records from the ring to its past. -/
theorem Remembered.claim {s : GameplayEventLog cfg W} (h : s.Remembered)
    {n : Nat} (hle : n ≤ s.ring.pending) :
    ∃ past, s.history = past ++ (s.ring.claim n).contents.map (⟨·, false⟩)
      ∧ past.length = (s.ring.claim n).head := by
  obtain ⟨past, hhistory, hpast⟩ := h
  refine ⟨past ++ (s.ring.contents.take n).map (⟨·, false⟩), ?_, ?_⟩
  · rw [Ring.contents_claim, List.append_assoc, ← List.map_append,
      List.take_append_drop]
    exact hhistory
  · simp [hpast]
    omega

/-- Storing keeps the history. -/
theorem Remembered.store {s : GameplayEventLog cfg W} (h : s.Remembered)
    (record : GameplayEvent) : (s.store record).Remembered := by
  obtain ⟨past, hhistory, hpast⟩ := h
  unfold Remembered
  rw [store_eq]
  dsimp only
  rw [Ring.contents_store, Ring.store_head]
  by_cases hfull : s.ring.full = true
  · obtain ⟨oldest, rest, hcontents⟩ := contents_of_full hfull
    refine ⟨past ++ [⟨oldest, true⟩], ?_, ?_⟩
    · rw [if_pos hfull, if_pos hfull, markLapped_eq hhistory hpast hcontents,
        hcontents]
      simp
    · simp [hfull, hpast]
  · refine ⟨past, ?_, ?_⟩
    · rw [if_neg hfull, if_neg hfull, hhistory]
      simp
    · simp [hfull, hpast]

/-- A store counts one more record, and one more lapped one when the ring
was full. -/
theorem store_totals {s : GameplayEventLog cfg W} (h : s.Remembered)
    (record : GameplayEvent) :
    (s.store record).history.length = s.history.length + 1
      ∧ (s.store record).history.countP Appended.lapped
        = s.history.countP Appended.lapped + s.lapped := by
  obtain ⟨past, hhistory, hpast⟩ := h
  rw [store_eq]
  dsimp only [lapped]
  by_cases hfull : s.ring.full = true
  · obtain ⟨oldest, rest, hcontents⟩ := contents_of_full hfull
    rw [if_pos hfull, if_pos hfull, markLapped_eq hhistory hpast hcontents,
      hhistory, hcontents]
    constructor
    · simp
      omega
    · simp
      omega
  · rw [if_neg hfull, if_neg hfull]
    constructor <;> simp

/-- A store is one step of the journal: it pushes, or laps. -/
theorem store_view {s : GameplayEventLog cfg W} (h : s.Remembered)
    {record : GameplayEvent} (htick : record.tick = s.tickValue)
    (hframe : record.frame = s.frameValue) :
    Journal.Step stampOf s.view (s.store record).view := by
  obtain ⟨past, hhistory, hpast⟩ := h
  have hstamp : stampOf record = s.view.now := by
    simp [stampOf, view, htick, hframe]
  rw [store_eq]
  unfold lapped
  by_cases hfull : s.ring.full = true
  · obtain ⟨oldest, rest, hcontents⟩ := contents_of_full hfull
    have hstep := Journal.Step.lap s.view record oldest rest
      (past.map Appended.fate) hstamp hcontents (by
        simp [view, hhistory, hcontents, Appended.fate])
    convert hstep using 1
    simp [view, hfull, markLapped_eq hhistory hpast hcontents,
      Ring.contents_store, hcontents, Appended.fate]
  · have hstep := Journal.Step.push s.view record hstamp
    convert hstep using 1
    simp [view, hfull, Ring.contents_store, Appended.fate]

-- =========================================================== invariant

/-- How the lines are cut into files, what the history remembers, and what
a shutdown under way knows. -/
structure Filed (s : GameplayEventLog cfg W) : Prop where
  remembered : s.Remembered
  totals : s.history.length = s.appendedTotal
    ∧ s.history.countP Appended.lapped = s.droppedTotal
  numbered : s.nextSeq = s.archive.stream.length
  granted : s.openFailed = false
  /-- A batch is stamped by its first record. -/
  batch : ∀ batch, s.phase.batch? = some batch → ∃ first rest,
    batch.scratch = first :: rest ∧ batch.stampTick = first.tick
      ∧ batch.stampFrame = first.frame
  retired : s.closing ≠ .done →
    ∀ file ∈ s.archive.retired, ClosedFile LogLine.rotates file
  current : ∀ file, s.archive.current = some file → OpenFile file
  closed : s.closing = .done → ∃ files last,
    s.archive = ⟨files ++ [last], none⟩
      ∧ (∀ file ∈ files, ClosedFile LogLine.rotates file)
      ∧ ClosedFile LogLine.ends last
  /-- The flush of a shutdown leaves nothing behind. -/
  drained : s.closing.drained = true →
    s.phase.batch? = none ∧ s.hasPendingWork = false
  /-- What a shutdown captured is still so. -/
  closer : ∀ closer, s.closing.closer? = some closer →
    closer.lastTick = s.tickValue ∧ closer.lastFrame = s.frameValue

/-- The open or the rotation a step makes is granted. -/
structure CallsGranted (writer : GameplayEventWriter W)
    (s : GameplayEventLog cfg W) (action : Action) : Prop where
  opens : s.fileIsOpen = false →
    (∃ batch, s.phase = .claimed batch)
      ∨ (∃ closer, s.closing = .marked closer) →
    (writer.openFirstFile s.writer).1 = true
  rotates : RotationGranted writer s action

/-- A step that keeps the stream in order: its calls are granted, the
producer thread makes none once it has called `shutdown`, and no counter
wraps. -/
structure Orderly (writer : GameplayEventWriter W)
    (s : GameplayEventLog cfg W) (action : Action) : Prop where
  granted : CallsGranted writer s action
  quiet : s.closing ≠ .running → action.produces = false
  ticks : action.ticks = true → s.tickValue.toNat + 1 < 2 ^ 32
  frames : action.frames = true → s.frameValue.toNat + 1 < 2 ^ 32

theorem init_filed (cfg : Configuration) (w : W) : (init cfg w).Filed where
  remembered := ⟨[], rfl, rfl⟩
  totals := ⟨rfl, rfl⟩
  numbered := rfl
  granted := rfl
  batch := nofun
  retired := fun _ => nofun
  current := nofun
  closed := nofun
  drained := nofun
  closer := nofun

theorem Action.produces_of_ticks {action : Action}
    (h : action.ticks = true) : action.produces = true := by
  cases action <;> first | rfl | cases h

theorem Action.produces_of_frames {action : Action}
    (h : action.frames = true) : action.produces = true := by
  cases action <;> first | rfl | cases h

/-- Producing steps come before the shutdown. -/
theorem Orderly.running {s : GameplayEventLog cfg W} {action : Action}
    (h : Orderly writer s action) (hact : action.produces = true) :
    s.closing = .running := by
  by_contra hclosing
  rw [h.quiet hclosing] at hact
  cases hact

/-- A file that is asked for is not refused. -/
theorem Filed.not_refused {s : GameplayEventLog cfg W} (hF : s.Filed)
    (hmode : cfg.mode ≠ .off)
    (hopens : s.fileIsOpen = false → (writer.openFirstFile s.writer).1 = true)
    (hrefused : s.openFailed = true ∨ cfg.mode = .off
      ∨ (s.fileIsOpen = false ∧ (writer.openFirstFile s.writer).1 = false)) :
    False := by
  rcases hrefused with h | h | ⟨hopen, h⟩
  · rw [hF.granted] at h
    cases h
  · exact hmode h
  · rw [hopens hopen] at h
    cases h

/-- A held file has its header, so the stream is not empty. -/
theorem Filed.stream_ne_nil {s : GameplayEventLog cfg W} (hF : s.Filed)
    (hheld : s.archive.holds = true) : s.view.lines ≠ [] := by
  obtain ⟨file, hfile⟩ := Option.isSome_iff_exists.mp hheld
  have hne := (hF.current file hfile).ne_nil
  simp [view, Archive.stream, Archive.files, hfile, hne]

theorem hasPendingWork_eq_false {s : GameplayEventLog cfg W}
    (h : s.hasPendingWork = false) :
    s.ring.pending = 0 ∧ s.droppedSinceDrain = 0 := by
  unfold hasPendingWork at h
  simpa using h

-- =========================================================== the batches

/-- A batch is written as the journal writes it. -/
theorem batchLines_journal (writer : GameplayEventWriter W)
    (s : GameplayEventLog cfg W) {batch : Batch} {first : GameplayEvent}
    {rest : List GameplayEvent} (hscratch : batch.scratch = first :: rest)
    (htick : batch.stampTick = first.tick)
    (hframe : batch.stampFrame = first.frame) :
    (s.batchLines writer batch).map LogLine.journal
      = Journal.batchLines stampOf s.nextSeq
        ⟨batch.scratch, batch.drops⟩ := by
  have hrecords (rot : Int) (seq : Nat) (events : List GameplayEvent) :
      (recordLines rot seq events).map LogLine.journal
        = Journal.itemLines seq events := by
    induction events generalizing seq with
    | nil => rfl
    | cons event events ih =>
        rw [recordLines, List.map_cons, ih]
        rfl
  unfold batchLines dropLines Journal.batchLines
  rw [List.map_append, hrecords, hscratch]
  by_cases hdrops : batch.drops > 0
  · simp [hdrops, LogLine.journal, stampOf, htick, hframe]
  · simp [hdrops]

/-- What a batch is written as stands in a file's body. -/
theorem batchLines_inBody (s : GameplayEventLog cfg W) (batch : Batch) :
    ∀ line ∈ s.batchLines writer batch, line.inBody = true := by
  have hrecords (rot : Int) (seq : Nat) (events : List GameplayEvent) :
      ∀ line ∈ recordLines rot seq events, line.inBody = true := by
    induction events generalizing seq with
    | nil => nofun
    | cons event events ih =>
        intro line hline
        rcases List.mem_cons.mp hline with rfl | hline
        · rfl
        · exact ih _ line hline
  intro line hline
  rcases List.mem_append.mp hline with h | h
  · unfold dropLines at h
    split at h
    case isTrue =>
      rw [List.mem_singleton.mp h]
      rfl
    case isFalse => cases h
  · exact hrecords _ _ _ line h

-- ========================================================== refinement

/-- What a drain writes in front of its batch is a mark of the journal. -/
theorem markBatch_step {s : GameplayEventLog cfg W} (hF : s.Filed)
    {batch : Batch} (hbatch : s.phase.batch? = some batch)
    (lines : List (Journal.Line GameplayEvent (Nat × Nat))) :
    Journal.Step stampOf { s.view with lines := lines }
      { s.view with lines := lines ++ [.mark lines.length
        (batch.stampTick.toNat, batch.stampFrame.toNat)] } := by
  obtain ⟨first, rest, hscratch, htick, hframe⟩ := hF.batch batch hbatch
  rw [htick, hframe]
  exact .markBatch _ first rest batch.drops (by simp [view, hbatch, hscratch])

/-- What a shutdown writes is a mark of the journal. -/
theorem markEnd_step {s : GameplayEventLog cfg W} (hF : s.Filed)
    {closer : Closer} (hclosing : s.closing = .marked closer)
    (lines : List (Journal.Line GameplayEvent (Nat × Nat))) :
    Journal.Step stampOf { s.view with lines := lines }
      { s.view with lines := lines ++ [.mark lines.length
        (closer.lastTick.toNat, closer.lastFrame.toNat)] } := by
  obtain ⟨hbatch, hwork⟩ := hF.drained (by rw [hclosing]; rfl)
  obtain ⟨hpending, _⟩ := hasPendingWork_eq_false hwork
  obtain ⟨htick, hframe⟩ := hF.closer closer (by rw [hclosing]; rfl)
  rw [htick, hframe]
  refine .markEnd { s.view with lines := lines } ?_ ?_
  · simp [view, hbatch]
  · apply List.eq_nil_of_length_eq_zero
    show s.ring.contents.length = 0
    rw [Ring.length_contents, hpending]

/-- What the journal does not see is no step of it. -/
theorem refl_of_view {s s' : GameplayEventLog cfg W}
    (h : s'.view = s.view) :
    Relation.ReflTransGen (Journal.Step stampOf) s.view s'.view := by
  rw [h]

/-- Every effect is a run of the journal. -/
theorem Effect.refines {action : Action} {s s' : GameplayEventLog cfg W}
    (h : Effect writer action s s') (hA : s.Accounted) (hF : s.Filed)
    (hmode : cfg.mode ≠ .off)
    (hO : Orderly writer s action) :
    Relation.ReflTransGen (Journal.Step stampOf) s.view s'.view := by
  have hcount : s.view.lines.length = s.nextSeq := by
    rw [hF.numbered]
    exact List.length_map _
  cases h with
  | control flowValue isShutDown flushing phase closing w hphase =>
      have hbatch : phase.batch? = s.phase.batch? := by
        rcases hphase with rfl | ⟨hold, hnew⟩
        · rfl
        · rw [hold, hnew]
      apply refl_of_view
      simp [view, hbatch]
  | tick zoneValue hact =>
      apply Relation.ReflTransGen.single
      refine .advance s.view _ ⟨?_, le_refl _⟩
      have hroom := hO.ticks hact
      simp [view]
      omega
  | frame hact =>
      apply Relation.ReflTransGen.single
      refine .advance s.view _ ⟨le_refl _, ?_⟩
      have hroom := hO.frames hact
      simp [view]
      omega
  | append s₀ record phase hact hs₀ htick hframe hphase =>
      have hbatch : phase.batch? = s.phase.batch? := by
        rcases hphase with rfl | ⟨hold, rfl⟩
        · rfl
        · rw [hold]
          rfl
      let s₁ := { s₀ with appendedTotal := s.appendedTotal + 1 }
      have hkept : s₁.Remembered := by
        rcases hs₀ with rfl | ⟨_, zone, rfl⟩ <;> exact hF.remembered
      have hphase₁ : (s₁.store record).phase.batch? = s.phase.batch? := by
        rw [store_phase]
        rcases hs₀ with rfl | ⟨_, zone, rfl⟩ <;> rfl
      have hstore := store_view hkept htick hframe
      have hview : (s₁.store record).view
          = { s₁.store record with phase := phase }.view := by
        simp [view, hbatch, hphase₁]
      rw [hview] at hstore
      rcases hs₀ with rfl | ⟨hticks, zone, rfl⟩
      · exact .single hstore
      · -- the tick before its heartbeat
        have hroom := hO.ticks hticks
        refine .tail (.single (.advance s.view
          ((s.tickValue + 1).toNat, s.frameValue.toNat)
          ⟨?_, le_refl _⟩)) hstore
        simp [view]
        omega
  | claim n hpos hle hrun hphase =>
      apply Relation.ReflTransGen.single
      have hstep : Journal.Step stampOf s.view _ :=
        .claim s.view n hpos (by simpa [view] using hle)
          (by simp [view, hphase, Phase.batch?])
      convert hstep using 1
      simp [view, Phase.batch?, batchOf, Ring.taken_eq, Ring.contents_claim]
  | openRefused batch openFailed archive w hphase _ _ hrefused =>
      exact (hF.not_refused hmode (fun hopen =>
        hO.granted.opens hopen (.inl ⟨batch, hphase⟩)) hrefused).elim
  | openHeld batch hphase =>
      apply refl_of_view
      simp [view, hphase, Phase.batch?]
  | openFirst batch rot wallUTC path w hphase hopen hfailed =>
      have hbatch : s.phase.batch? = some batch := by rw [hphase]; rfl
      have hmark := markBatch_step hF hbatch s.view.lines
      apply Relation.ReflTransGen.single
      convert hmark using 1
      have hstream := Archive.stream_opened (hA.unopened hopen) true
      simp [view, hphase, Phase.batch?, Archive.stream_write, hstream,
        LogLine.journal, hF.numbered]
  | rotateSkip batch hphase =>
      apply refl_of_view
      simp [view, hphase, Phase.batch?]
  | rotateDone batch retired rot fromPath toPath wallUTC path w hphase =>
      have hbatch : s.phase.batch? = some batch := by rw [hphase]; rfl
      have hheld := hA.held batch (.inl hphase)
      have hmark := markBatch_step hF hbatch s.view.lines
      have hmark' := markBatch_step hF hbatch (s.view.lines
        ++ [.mark s.view.lines.length
          (batch.stampTick.toNat, batch.stampFrame.toNat)])
      refine .tail (.single hmark) ?_
      convert hmark' using 1
      simp [view, hphase, Phase.batch?, Archive.stream_write, hheld,
        LogLine.journal, hF.numbered]
  | rotateFailed batch retired fromPath toPath w hphase hact hdue hanswer =>
      rw [hO.granted.rotates batch hact hphase hdue] at hanswer
      cases hanswer
  | write batch w hphase =>
      have hbatch : s.phase.batch? = some batch := by rw [hphase]; rfl
      have hheld := hA.held batch (.inr hphase)
      obtain ⟨first, rest, hscratch, htick, hframe⟩ := hF.batch batch hbatch
      have hlines := batchLines_journal writer s hscratch htick hframe
      have hstep : Journal.Step stampOf s.view _ :=
        .write s.view ⟨batch.scratch, batch.drops⟩ (by simp [view, hbatch])
          (hF.stream_ne_nil hheld)
      apply Relation.ReflTransGen.single
      convert hstep using 1
      rw [hcount, ← hlines]
      simp [view, Phase.batch?, Archive.stream_write hheld]
  | closeRefused closer openFailed archive w hclosing _ _ _ hrefused =>
      exact (hF.not_refused hmode (fun hopen =>
        hO.granted.opens hopen (.inr ⟨closer, hclosing⟩)) hrefused).elim
  | closeHeld closer rot w hclosing hphase hopen hfailed =>
      have hheld := hA.opened hopen hfailed (by simp [hclosing])
      have hmark := markEnd_step hF hclosing s.view.lines
      apply Relation.ReflTransGen.single
      convert hmark using 1
      simp [view, Archive.stream_write, hheld, LogLine.journal, hF.numbered]
  | closeFirst closer rot rot' wallUTC path w hclosing hphase hopen hfailed =>
      have hmark := markEnd_step hF hclosing s.view.lines
      have hmark' := markEnd_step hF hclosing (s.view.lines
        ++ [.mark s.view.lines.length
          (closer.lastTick.toNat, closer.lastFrame.toNat)])
      refine .tail (.single hmark) ?_
      convert hmark' using 1
      have hstream := Archive.stream_opened (hA.unopened hopen) true
      simp [view, Archive.stream_write, hstream, LogLine.journal, hF.numbered]

-- ========================================================== preservation

/-- A log that holds a batch has not finished closing. -/
theorem Accounted.busy_of_batch {s : GameplayEventLog cfg W}
    (hA : s.Accounted) {batch : Batch}
    (hbatch : s.phase.batch? = some batch) : s.closing ≠ .done :=
  hA.busy (hbatch ▸ Option.some_ne_none batch)

/-- A drain moves its batch on: the lines it writes keep the files in
shape, and no shutdown has drained yet. -/
theorem Filed.moved {s : GameplayEventLog cfg W} (hF : s.Filed)
    (hA : s.Accounted) {batch : Batch} (hbatch : s.phase.batch? = some batch)
    (fileIsOpen : Bool) (w : W) {nextSeq : Nat} {archive : Archive LogLine}
    {phase : Phase} (hphase : ∀ batch', phase.batch? = some batch' →
      batch' = batch)
    (hnumbered : nextSeq = archive.stream.length)
    (hretired : ∀ file ∈ archive.retired, ClosedFile LogLine.rotates file)
    (hcurrent : ∀ file, archive.current = some file → OpenFile file) :
    Filed { s with
      fileIsOpen := fileIsOpen, nextSeq := nextSeq, writer := w
      archive := archive, phase := phase } := by
  have hbusy : s.closing ≠ .done := hA.busy_of_batch hbatch
  refine ⟨hF.remembered, hF.totals, hnumbered, hF.granted, ?_,
    fun _ => hretired, hcurrent, fun hdone => absurd hdone hbusy, ?_,
    hF.closer⟩
  · intro batch' h
    rw [hphase batch' h]
    exact hF.batch batch hbatch
  · intro hnow
    have hidle := (hF.drained hnow).1
    rw [hbatch] at hidle
    cases hidle

/-- The last file is ended: the log has its files. -/
theorem Filed.finished {s : GameplayEventLog cfg W} (hF : s.Filed)
    {closer : Closer} (hclosing : s.closing = .marked closer)
    (fileIsOpen : Bool) (w : W) {nextSeq : Nat} {archive : Archive LogLine}
    (last : LogLine) {written : List LogLine}
    (hnumbered : nextSeq = archive.stream.length)
    (harchive : archive
      = ⟨s.archive.retired ++ [written ++ [last]], none⟩)
    (hwritten : OpenFile written) (hlast : last.ends = true) :
    Filed { s with
      fileIsOpen := fileIsOpen, nextSeq := nextSeq, writer := w
      archive := archive, closing := .done } := by
  have hrunning : s.closing ≠ .done := by
    rw [hclosing]
    nofun
  refine ⟨hF.remembered, hF.totals, hnumbered, hF.granted, hF.batch,
    fun h => absurd rfl h, ?_, fun _ => ?_, fun _ => ?_, nofun⟩
  · intro file hfile
    rw [show archive.current = none by rw [harchive]] at hfile
    cases hfile
  · exact ⟨s.archive.retired, written ++ [last], harchive,
      hF.retired hrunning, written, last, rfl, hwritten, hlast⟩
  · exact hF.drained (by rw [hclosing]; rfl)

/-- An append before any shutdown keeps the files and the history. -/
theorem Filed.stored {s : GameplayEventLog cfg W} (hF : s.Filed)
    (hrunning : s.closing = .running) {phase : Phase}
    (hphase : phase.batch? = s.phase.batch?) (zone : UInt16) (tick : UInt32)
    (record : GameplayEvent) :
    Filed { ({ s with
      zoneValue := zone, tickValue := tick
      appendedTotal := s.appendedTotal + 1 } :
        GameplayEventLog cfg W).store record with phase := phase } := by
  let s₁ : GameplayEventLog cfg W := { s with
    zoneValue := zone, tickValue := tick
    appendedTotal := s.appendedTotal + 1 }
  have hkept : s₁.Remembered := hF.remembered
  have hremembered := hkept.store record
  obtain ⟨hlength, hlapped⟩ := store_totals hkept record
  obtain ⟨hall, hlost⟩ := hF.totals
  rw [store_eq] at hremembered hlength hlapped ⊢
  refine ⟨hremembered, ⟨?_, ?_⟩, hF.numbered, hF.granted, ?_, hF.retired,
    hF.current, hF.closed, ?_, ?_⟩
  · exact hlength.trans (congrArg (· + 1) hall)
  · exact hlapped.trans (congrArg (· + lapped s₁) hlost)
  · intro batch h
    exact hF.batch batch (hphase ▸ h)
  · intro h
    rw [show s.closing = .running from hrunning] at h
    cases h
  · intro closer h
    rw [show s.closing = .running from hrunning] at h
    cases h

/-- `Filed` survives every orderly step. -/
theorem Effect.filed {action : Action} {s s' : GameplayEventLog cfg W}
    (h : Effect writer action s s') (hA : s.Accounted) (hF : s.Filed)
    (hmode : cfg.mode ≠ .off)
    (hO : Orderly writer s action) : s'.Filed := by
  have hF' := hF
  obtain ⟨hremembered, htotals, hnumbered, hgranted, hbatched, hretired,
    hcurrent, hclosed, hdrained, hcloser⟩ := hF
  cases h with
  | control flowValue isShutDown flushing phase closing w hphase hdone hshut
      hending hdrain hcapture _ =>
      have hbatch : phase.batch? = s.phase.batch? := by
        rcases hphase with rfl | ⟨hold, hnew⟩
        · rfl
        · rw [hold, hnew]
      refine ⟨hremembered, htotals, hnumbered, hgranted, ?_, ?_, hcurrent,
        ?_, ?_, ?_⟩
      · intro batch h
        exact hbatched batch (hbatch ▸ h)
      · intro hclosing
        exact hretired fun hd => hclosing (hdone.mpr hd)
      · intro hclosing
        exact hclosed (hdone.mp hclosing)
      · intro hnow
        rcases hdrain hnow with h | ⟨hidle, hwork⟩
        · obtain ⟨hidle, hwork⟩ := hdrained h
          exact ⟨hbatch.trans hidle, hwork⟩
        · exact ⟨hbatch.trans hidle, hwork⟩
      · intro closer h
        rcases hcapture closer h with h | h
        · exact hcloser closer h
        · exact h
  | tick zoneValue hact =>
      have hrunning := hO.running (Action.produces_of_ticks hact)
      refine ⟨hremembered, htotals, hnumbered, hgranted, hbatched, hretired,
        hcurrent, hclosed, hdrained, ?_⟩
      intro closer h
      rw [show s.closing = .running from hrunning] at h
      cases h
  | frame hact =>
      have hrunning := hO.running (Action.produces_of_frames hact)
      refine ⟨hremembered, htotals, hnumbered, hgranted, hbatched, hretired,
        hcurrent, hclosed, hdrained, ?_⟩
      intro closer h
      rw [show s.closing = .running from hrunning] at h
      cases h
  | append s₀ record phase hact hs₀ htick hframe hphase =>
      have hrunning := hO.running hact
      have hbatch : phase.batch? = s.phase.batch? := by
        rcases hphase with rfl | ⟨hold, rfl⟩
        · rfl
        · rw [hold]
          rfl
      rcases hs₀ with rfl | ⟨_, zone, rfl⟩
      · exact hF'.stored hrunning hbatch s₀.zoneValue s₀.tickValue record
      · exact hF'.stored hrunning hbatch zone _ record
  | claim n hpos hle hrun hphase =>
      refine ⟨hremembered.claim hle, htotals, hnumbered, hgranted, ?_,
        hretired, hcurrent, hclosed, ?_, hcloser⟩
      · intro batch h
        cases h
        have hlength := s.ring.length_taken n
        cases htaken : s.ring.taken n with
        | nil =>
            rw [htaken, List.length_nil] at hlength
            omega
        | cons first rest =>
            refine ⟨first, rest, htaken, ?_, ?_⟩ <;>
              simp [batchOf, htaken]
      · intro hnow
        have hpending := (hasPendingWork_eq_false (hdrained hnow).2).1
        omega
  | openRefused batch openFailed archive w hphase _ _ hrefused =>
      exact (hF'.not_refused hmode (fun hopen =>
        hO.granted.opens hopen (.inl ⟨batch, hphase⟩)) hrefused).elim
  | openHeld batch hphase =>
      have hbatch : s.phase.batch? = some batch := by rw [hphase]; rfl
      refine hF'.moved hA hbatch s.fileIsOpen s.writer ?_ hnumbered
        (hretired (hA.busy_of_batch hbatch)) hcurrent
      exact fun _ h => (Option.some.inj h).symm
  | openFirst batch rot wallUTC path w hphase hopen hfailed =>
      have hbatch : s.phase.batch? = some batch := by rw [hphase]; rfl
      refine hF'.moved hA hbatch true w ?_ ?_
        (hretired (hA.busy_of_batch hbatch)) ?_
      · exact fun _ h => (Option.some.inj h).symm
      · have hstream := Archive.stream_opened (hA.unopened hopen) true
        rw [Archive.stream_write (by simp), hstream, hnumbered,
          List.length_append, List.length_singleton]
      · intro file hfile
        cases hfile
        exact OpenFile.header rfl
  | rotateSkip batch hphase =>
      have hbatch : s.phase.batch? = some batch := by rw [hphase]; rfl
      refine hF'.moved hA hbatch s.fileIsOpen s.writer ?_ hnumbered
        (hretired (hA.busy_of_batch hbatch)) hcurrent
      exact fun _ h => (Option.some.inj h).symm
  | rotateDone batch retired rot fromPath toPath wallUTC path w hphase =>
      have hbatch : s.phase.batch? = some batch := by rw [hphase]; rfl
      have hheld := hA.held batch (.inl hphase)
      obtain ⟨written, hwritten⟩ := Option.isSome_iff_exists.mp hheld
      refine hF'.moved hA hbatch true w ?_ ?_ ?_ ?_
      · exact fun _ h => (Option.some.inj h).symm
      · rw [Archive.stream_write (by simp), Archive.stream_rotated,
          Archive.stream_write hheld, hnumbered]
        simp
      · intro file hfile
        simp only [Archive.write, Archive.rotated, Archive.files, hwritten,
          Option.map_some, Option.toList_some] at hfile
        rcases List.mem_append.mp hfile with h | h
        · exact hretired (hA.busy_of_batch hbatch) file h
        · rw [List.mem_singleton.mp h]
          exact ⟨written, _, rfl, hcurrent written hwritten, rfl⟩
      · intro file hfile
        cases hfile
        exact OpenFile.header rfl
  | rotateFailed batch retired fromPath toPath w hphase hact hdue hanswer =>
      rw [hO.granted.rotates batch hact hphase hdue] at hanswer
      cases hanswer
  | write batch w hphase =>
      have hbatch : s.phase.batch? = some batch := by rw [hphase]; rfl
      have hheld := hA.held batch (.inr hphase)
      obtain ⟨written, hwritten⟩ := Option.isSome_iff_exists.mp hheld
      refine hF'.moved hA hbatch s.fileIsOpen w (fun _ h => by cases h) ?_
        (hretired (hA.busy_of_batch hbatch)) ?_
      · rw [Archive.stream_write hheld, hnumbered, List.length_append]
      · intro file hfile
        simp only [Archive.write, hwritten, Option.map_some] at hfile
        cases hfile
        exact (hcurrent written hwritten).write (s.batchLines_inBody batch)
  | closeRefused closer openFailed archive w hclosing _ _ _ hrefused =>
      exact (hF'.not_refused hmode (fun hopen =>
        hO.granted.opens hopen (.inr ⟨closer, hclosing⟩)) hrefused).elim
  | closeHeld closer rot w hclosing hphase hopen hfailed =>
      have hheld := hA.opened hopen hfailed (by simp [hclosing])
      obtain ⟨written, hwritten⟩ := Option.isSome_iff_exists.mp hheld
      refine hF'.finished hclosing s.fileIsOpen w (.ended s.nextSeq
        closer.lastTick closer.lastFrame rot closer.reason closer.events)
        ?_ ?_ (hcurrent written hwritten) rfl
      · rw [Archive.stream_closed, Archive.stream_write hheld, hnumbered,
          List.length_append, List.length_singleton]
      · simp only [Archive.closed, Archive.files, Archive.write, hwritten,
          Option.map_some, Option.toList_some]
  | closeFirst closer rot rot' wallUTC path w hclosing hphase hopen hfailed =>
      refine hF'.finished hclosing true w (.ended (s.nextSeq + 1)
        closer.lastTick closer.lastFrame rot' closer.reason closer.events)
        ?_ rfl (OpenFile.header rfl) rfl
      have hstream := Archive.stream_opened (hA.unopened hopen) true
      rw [Archive.stream_closed, Archive.stream_write (by simp),
        Archive.stream_write (by simp), hstream, hnumbered]
      simp

-- ================================================================= runs

/-- A step counts at most the tick or the frame it is. -/
theorem Effect.counters {action : Action} {s s' : GameplayEventLog cfg W}
    (h : Effect writer action s s') :
    s'.tickValue.toNat
        ≤ s.tickValue.toNat + (if action.ticks = true then 1 else 0)
      ∧ s'.frameValue.toNat
        ≤ s.frameValue.toNat + (if action.frames = true then 1 else 0) := by
  have hnext (x : UInt32) : (x + 1).toNat ≤ x.toNat + 1 := by
    simp
    omega
  cases h with
  | tick zoneValue hact =>
      rw [if_pos hact]
      exact ⟨hnext _, Nat.le_add_right _ _⟩
  | frame hact =>
      rw [if_pos hact]
      exact ⟨Nat.le_add_right _ _, hnext _⟩
  | append s₀ record phase hact hs₀ =>
      rw [store_eq]
      rcases hs₀ with rfl | ⟨hticks, zone, rfl⟩
      · exact ⟨Nat.le_add_right _ _, Nat.le_add_right _ _⟩
      · rw [if_pos hticks]
        exact ⟨hnext _, Nat.le_add_right _ _⟩
  | _ => exact ⟨Nat.le_add_right _ _, Nat.le_add_right _ _⟩

/-- Only the call of `shutdown` starts a shutdown. -/
theorem Effect.running {action : Action} {s s' : GameplayEventLog cfg W}
    (h : Effect writer action s s') (hrunning : s.closing = .running) :
    s'.closing = .running ∨ action.shuts = true := by
  cases h with
  | control _ _ _ _ _ _ _ _ _ _ _ _ hshuts => exact hshuts hrunning
  | append s₀ record phase hact hs₀ =>
      rw [store_eq]
      rcases hs₀ with rfl | ⟨_, zone, rfl⟩ <;> exact .inl hrunning
  | closeRefused _ _ _ _ hclosing =>
      rw [hrunning] at hclosing
      cases hclosing
  | closeHeld _ _ _ hclosing =>
      rw [hrunning] at hclosing
      cases hclosing
  | closeFirst _ _ _ _ _ _ hclosing =>
      rw [hrunning] at hclosing
      cases hclosing
  | _ => exact .inl hrunning

/-- The producer thread makes no step after a call of `shutdown`. -/
def StopsAtShutdown (acts : List Action) : Prop :=
  ∀ pre reason post, acts = pre ++ .shutdown reason :: post →
    ∀ action ∈ post, action.produces = false

theorem StopsAtShutdown.tail {action : Action} {rest : List Action}
    (h : StopsAtShutdown (action :: rest)) : StopsAtShutdown rest := by
  intro pre reason post hrest
  apply h (action :: pre) reason post
  rw [hrest]
  rfl

/-- Steps that produce nothing may follow the first shutdown. -/
theorem StopsAtShutdown.append {play ending : List Action}
    (hplay : ∀ action ∈ play, action.shuts = false)
    (hending : ∀ action ∈ ending, action.produces = false) :
    StopsAtShutdown (play ++ ending) := by
  induction play with
  | nil =>
      intro pre reason post hacts action haction
      apply hending action
      rw [show ending = pre ++ .shutdown reason :: post from hacts]
      exact List.mem_append_right _ (List.mem_cons_of_mem _ haction)
  | cons first play ih =>
      intro pre reason post hacts
      cases pre with
      | nil =>
          injection hacts with hfirst _
          have hshuts := hplay first List.mem_cons_self
          rw [hfirst] at hshuts
          cases hshuts
      | cons _ pre =>
          injection hacts with _ hrest
          exact ih (fun a ha => hplay a (List.mem_cons_of_mem _ ha)) pre
            reason post hrest

/-- What a run keeps, with `rest` of its steps to come. -/
structure InOrder (writer : GameplayEventWriter W) (rest : List Action)
    (s : GameplayEventLog cfg W) : Prop where
  accounted : s.Accounted
  filed : s.Filed
  valid : Journal.Valid stampOf s.view
  granted : Run.Along (step writer) (CallsGranted writer) s rest
  stops : StopsAtShutdown rest
  stopped : s.closing = .running ∨ ∀ action ∈ rest, action.produces = false
  ticks : s.tickValue.toNat + rest.countP Action.ticks < 2 ^ 32
  frames : s.frameValue.toNat + rest.countP Action.frames < 2 ^ 32

/-- The next step of a run in order is orderly. -/
theorem InOrder.orderly {action : Action} {rest : List Action}
    {s : GameplayEventLog cfg W} (hI : InOrder writer (action :: rest) s) :
    Orderly writer s action where
  granted := hI.granted.1
  quiet := by
    intro hclosing
    rcases hI.stopped with h | h
    · exact absurd h hclosing
    · exact h action List.mem_cons_self
  ticks := by
    intro hact
    have hticks := hI.ticks
    rw [List.countP_cons_of_pos hact] at hticks
    omega
  frames := by
    intro hact
    have hframes := hI.frames
    rw [List.countP_cons_of_pos hact] at hframes
    omega

/-- A step of a run in order leaves the rest of the run in order. -/
theorem InOrder.step {action : Action} {rest : List Action}
    {s s' : GameplayEventLog cfg W} (hI : InOrder writer (action :: rest) s)
    (hmode : cfg.mode ≠ .off)
    (hstep : GameplayEventLog.step writer s action = some s') :
    InOrder writer rest s' := by
  have heffect := step_effect writer hstep
  have hO := hI.orderly
  obtain ⟨hticks, hframes⟩ := heffect.counters
  have hcountTicks := hI.ticks
  have hcountFrames := hI.frames
  rw [List.countP_cons] at hcountTicks hcountFrames
  refine ⟨heffect.accounted hI.accounted hO.granted.rotates,
    heffect.filed hI.accounted hI.filed hmode hO,
    .of_steps (heffect.refines hI.accounted hI.filed hmode hO) hI.valid,
    hI.granted.2 s' hstep, hI.stops.tail, ?_, by omega, by omega⟩
  rcases hI.stopped with hrunning | hquiet
  · rcases heffect.running hrunning with h | h
    · exact .inl h
    · cases action with
      | shutdown reason => exact .inr (hI.stops [] reason rest rfl)
      | _ => cases h
  · exact .inr fun action h => hquiet action (List.mem_cons_of_mem _ h)

-- ============================================================ the stream

theorem standsFor_events (lines : List LogLine) :
    (lines.flatMap LogLine.standsFor).filterMap id
      = lines.filterMap LogLine.event? := by
  induction lines with
  | nil => rfl
  | cons line rest ih =>
      rw [List.flatMap_cons, List.filterMap_append, ih]
      cases line <;>
        simp [LogLine.standsFor, LogLine.event?, List.filterMap_cons]

/-- Once the log is done, nothing is on its way to the files. -/
theorem Filed.complete {s : GameplayEventLog cfg W} (hF : s.Filed)
    (hvalid : Journal.Valid stampOf s.view) (hdone : s.closing = .done) :
    s.archive.stream.flatMap LogLine.standsFor
      = s.history.map Appended.fate := by
  obtain ⟨hbatch, hwork⟩ := hF.drained (by rw [hdone]; rfl)
  obtain ⟨hpending, hwindow⟩ := hasPendingWork_eq_false hwork
  have hempty : s.ring.contents = [] := by
    apply List.eq_nil_of_length_eq_zero
    rw [Ring.length_contents, hpending]
  have haccounted := hvalid.accounted
  simp only [view, hbatch, hwindow, hempty, Option.map_none,
    Journal.batchAccounts, List.replicate_zero, List.map_nil,
    List.append_nil, List.flatMap_map] at haccounted
  rw [← haccounted]
  congr 1
  funext line
  exact line.journal_accounts.symm

/-- A drop line is a gap of the journal. -/
theorem hole_of_block {lines before after : List LogLine}
    (h : Journal.Block 0 (lines.map LogLine.journal)) {seq : Nat}
    {tick frame : UInt32} {rot : Int} {drops : Nat} {last first : Int}
    {total count : Nat}
    (hlines : lines = before
      ++ .eventsDropped seq tick frame rot drops last first total count
      :: after) :
    0 < drops
      ∧ (before.flatMap LogLine.standsFor).getLast? ≠ some none
      ∧ (∃ line ∈ before.getLast?, (line.seq : Int) = last)
      ∧ ∃ (number : Nat) (rot : Int) (event : GameplayEvent)
          (rest : List LogLine),
        after = .record number rot event :: rest
          ∧ (number : Int) = first := by
  rw [hlines, List.map_append, List.map_cons] at h
  obtain ⟨hdrops, hseq, hlast, hfirst⟩ := h.brackets
    (LogLine.eventsDropped seq tick frame rot drops last first total
      count).journal (by simp)
  have hposition := h.seq_eq
  rw [List.length_map, Nat.zero_add] at hposition
  have hposition : seq = before.length := hposition
  refine ⟨hdrops, ?_, ?_, ?_⟩
  · have hbefore := h.before_gap rfl
    rw [List.flatMap_map] at hbefore
    simpa only [LogLine.journal_accounts] using hbefore
  · -- the line before the gap carries the number before it
    cases before using List.reverseRecOn with
    | nil =>
        rw [List.length_nil] at hposition
        omega
    | append_singleton before line =>
        refine ⟨line, by simp, ?_⟩
        rw [List.map_append, List.map_singleton, List.append_assoc,
          List.singleton_append] at h
        have hline := h.seq_eq
        rw [LogLine.journal_seq, List.length_map] at hline
        rw [List.length_append, List.length_singleton] at hposition
        omega
  · obtain ⟨line, rest, hafter, hitem⟩ := h.after_gap rfl
    cases after with
    | nil => cases hafter
    | cons line' rest' =>
        rw [List.map_cons] at hafter
        injection hafter with hline _
        rw [← hline] at hitem
        cases line' with
        | record number rot' event =>
            refine ⟨number, rot', event, rest', rfl, ?_⟩
            rw [List.append_cons] at h
            have hnumber := h.seq_eq
            rw [LogLine.journal_seq] at hnumber
            simp [LogLine.seq] at hnumber
            omega
        | _ => cases hitem

/-- A finished log in order has its files in total order. -/
theorem InOrder.totalOrder {s : GameplayEventLog cfg W}
    (hI : InOrder writer [] s) (hdone : s.closing = .done) :
    s.TotalOrder where
  numbered := by
    have hnumbered := hI.valid.block.numbered
    simp only [view, List.map_map, List.length_map] at hnumbered
    rw [List.range_eq_range', ← hnumbered]
    apply List.map_congr_left
    intro line _
    exact line.journal_seq.symm
  files := by
    obtain ⟨files, last, harchive, hfiles, hlast⟩ := hI.filed.closed hdone
    refine ⟨files, last, ?_, hfiles, hlast⟩
    rw [harchive]
    simp [Archive.files]
  ordered := by
    have hsorted := hI.valid.sorted
    unfold Journal.stamps at hsorted
    rw [List.append_assoc, List.append_assoc, List.pairwise_append] at hsorted
    have hlines := hsorted.1
    simp only [view, List.map_map, List.pairwise_map,
      Function.comp_apply, LogLine.journal_stampedAt] at hlines
    refine hlines.imp ?_
    intro line later h
    exact ⟨UInt32.le_iff_toNat_le.mpr h.1, UInt32.le_iff_toNat_le.mpr h.2⟩
  body := by
    rw [← standsFor_events, hI.filed.complete hI.valid hdone,
      List.filterMap_map]
    rfl
  complete := hI.filed.complete hI.valid hdone
  holes := by
    intro before after seq tick frame rot drops last first total count
      hstream
    exact hole_of_block hI.valid.block hstream
  totals := hI.filed.totals

/-- The files of a finished log are in total order: in every run whose
opens and rotations are granted, however the producer thread's steps and
the drain's interleave, once the shutdown the producer thread ends with
is done. -/
theorem stream_totalOrder (cfg : Configuration)
    (writer : GameplayEventWriter W) (w : W) (acts : List Action)
    (hmode : cfg.mode = .synchronous ∨ cfg.mode = .asynchronous)
    (hgranted : Run.Along (step writer) (CallsGranted writer) (init cfg w)
      acts)
    (hstops : StopsAtShutdown acts)
    (hticks : acts.countP Action.ticks < 2 ^ 32)
    (hframes : acts.countP Action.frames < 2 ^ 32)
    {s : GameplayEventLog cfg W}
    (hrun : Run.run (step writer) (init cfg w) acts = some s)
    (hdone : s.closing = .done) : s.TotalOrder := by
  have hon : cfg.mode ≠ .off := by
    rcases hmode with h | h <;> rw [h] <;> nofun
  have hstart : InOrder writer acts (init cfg w) := by
    refine ⟨init_accounted cfg w, init_filed cfg w, ?_, hgranted, hstops,
      .inl rfl, ?_, ?_⟩
    · rw [init_view]
      exact Journal.fresh_valid stampOf (0, 0)
    · show 0 + acts.countP Action.ticks < 2 ^ 32
      omega
    · show 0 + acts.countP Action.frames < 2 ^ 32
      omega
  have hend : InOrder writer [] s :=
    Run.run_invariant_rest (fun hI hstep => hI.step hon hstep) hstart hrun
  exact hend.totalOrder hdone

-- ================================================= a run with a hole

/-- Over a writer that grants every call, every step's calls are
granted. -/
theorem callsGranted_of_grants (hgrants : writer.Grants)
    (s : GameplayEventLog cfg W) (action : Action) :
    CallsGranted writer s action where
  opens := fun _ _ => hgrants.opens s.writer
  rotates := rotationGranted_of_grants hgrants s action

/-- A log with a ring of sixteen that rotates at every batch. -/
def lappingConfiguration : Configuration where
  mode := .asynchronous
  level := 2
  runToken := "run".toList
  limits := { ringCapacity := 16, maxFileBytes := 0 }

/-- A frame, a tick, and one shot more than the ring holds. -/
def seventeenShots : List Action :=
  .beginFrame :: .beginTick 0
    :: List.replicate 17 (.emit .playerShootBlaster 1 0 0 9 8)

/-- A shutdown: its flush drains one batch, then the log is marked and
closed. -/
def shutdownSteps : List Action :=
  .shutdown .appQuit :: .close []
    :: List.replicate 6 (.drain []) ++ [.close [], .close []]

/-- The shot the ring lapped is announced where it is missing. -/
theorem stream_totalOrder_seventeenShots :
    ∃ s, Run.run (step (GameplayEventMemoryWriter.writer false))
        (init lappingConfiguration {}) (seventeenShots ++ shutdownSteps)
        = some s
      ∧ s.droppedTotal = 1 ∧ s.TotalOrder := by
  have hrun : ((Run.run (step (GameplayEventMemoryWriter.writer false))
      (init lappingConfiguration {}) (seventeenShots ++ shutdownSteps)).map
      fun s => (s.closing.drained, s.closing.closer?.isNone, s.droppedTotal))
      = some (true, true, 1) := by
    decide +kernel
  obtain ⟨s, hs, hvalues⟩ := Option.map_eq_some_iff.mp hrun
  simp only [Prod.mk.injEq] at hvalues
  obtain ⟨hdrained, hcloser, hdropped⟩ := hvalues
  have hdone : s.closing = .done := by
    cases hclosing : s.closing <;> rw [hclosing] at hdrained hcloser <;>
      simp_all [Closing.drained, Closing.closer?]
  refine ⟨s, hs, hdropped, stream_totalOrder lappingConfiguration
    (GameplayEventMemoryWriter.writer false) {}
    (seventeenShots ++ shutdownSteps) (.inr rfl) ?_ ?_ (by decide)
    (by decide) hs hdone⟩
  · exact Run.along_of_forall (fun action _ s => callsGranted_of_grants
      GameplayEventMemoryWriter.grants s action) _
  · exact StopsAtShutdown.append (by decide) (by decide)

end GameplayEventLog

end Exolon
