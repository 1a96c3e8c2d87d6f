/-
What one step of the log can do, said once.

`Effect action s s'` lists the ways an action changes the log, with the writer's
answers and the formatter's text already read off: fourteen cases, each
a record update. `step_effect` says every step is one of them; every
invariant of the log (Conserve, Flush, Stream) is a case analysis on it
and never unfolds a step.

The two cases in which the writer refused carry the evidence, so a run
over a writer that never refuses has neither.
-/
import Exolon.EventLog.Log

namespace Exolon

/-- The batch a drain under way holds. -/
def Phase.batch? : Phase → Option Batch
  | .idle | .entered => none
  | .claimed batch | .opened batch | .rotated batch => some batch

namespace Closing

/-- The shutdown has passed its mark. -/
def ending : Closing → Bool
  | .marked _ | .done => true
  | _ => false

/-- The flush of the shutdown has returned. -/
def drained : Closing → Bool
  | .flushed _ | .marked _ | .done => true
  | _ => false

/-- What the shutdown under way captured. -/
def closer? : Closing → Option Closer
  | .called closer | .draining closer | .flushed closer | .marked closer =>
      some closer
  | .running | .done => none

end Closing

namespace GameplayEventLog

variable {cfg : Configuration} {W : Type} (writer : GameplayEventWriter W)

/-- The steps that count a tick. -/
def Action.ticks : Action → Bool
  | .beginTick _ => true
  | _ => false

/-- The steps that count a frame. -/
def Action.frames : Action → Bool
  | .beginFrame => true
  | _ => false

/-- The call of `shutdown`. -/
def Action.shuts : Action → Bool
  | .shutdown _ => true
  | _ => false

/-- The steps of the drain. -/
def Action.drains : Action → Bool
  | .drain _ => true
  | _ => false

-- ============================================================= the rotation

/-- The rotation line of the file held. -/
def rotateLineOf (s : GameplayEventLog cfg W) (tick frame : UInt32) :
    LogLine :=
  .rotate s.nextSeq tick frame (writer.rotationIndex s.writer)
    (writer.currentPath s.writer) (writer.nextFilePath s.writer)

/-- What the writer answers to the rotation a drain of `batch` makes: the
call comes after the rotation line. -/
def rotationAnswer (s : GameplayEventLog cfg W) (batch : Batch) : Bool :=
  match s.outputAppend writer
      (s.rotateLineOf writer batch.stampTick batch.stampFrame) with
  | some s => (writer.rotateToNextFile s.writer).1
  | none => true

/-- A writer that grants every rotation grants this one. -/
theorem rotationAnswer_of_grants {writer : GameplayEventWriter W}
    (hgrants : writer.Grants) (s : GameplayEventLog cfg W) (batch : Batch) :
    s.rotationAnswer writer batch = true := by
  unfold rotationAnswer
  split
  · exact hgrants.rotates _
  · rfl

-- ================================================================= effects

/-- The stamp of a batch is its first record's. -/
def batchOf (s : GameplayEventLog cfg W) (n : Nat) : Batch where
  scratch := s.ring.taken n
  drops := s.droppedSinceDrain
  stampTick := ((s.ring.taken n).head?.map (·.tick)).getD s.tickValue
  stampFrame := ((s.ring.taken n).head?.map (·.frame)).getD s.frameValue

/-- The ways a step changes the log. -/
inductive Effect (writer : GameplayEventWriter W) (action : Action) :
    GameplayEventLog cfg W → GameplayEventLog cfg W → Prop where
  /-- Control only: nothing moves between ring, batch and files. -/
  | control (s) (flowValue : UInt16) (isShutDown flushing : Bool)
      (phase : Phase) (closing : Closing) (w : W)
      (hphase : phase = s.phase ∨
        (s.phase.batch? = none ∧ phase.batch? = none))
      (hdone : closing = .done ↔ s.closing = .done)
      (hshut : s.isShutDown = true → isShutDown = true)
      (hending : closing.ending = true →
        s.closing.ending = true ∨ isShutDown = true)
      (hdrained : closing.drained = true → s.closing.drained = true ∨
        (s.phase.batch? = none ∧ s.hasPendingWork = false))
      (hcloser : ∀ closer, closing.closer? = some closer →
        s.closing.closer? = some closer ∨
          (closer.lastTick = s.tickValue ∧ closer.lastFrame = s.frameValue))
      (hrunning : s.closing = .running →
        closing = .running ∨ action.shuts = true) :
      Effect writer action s { s with
        flowValue := flowValue, isShutDown := isShutDown
        flushing := flushing, phase := phase, closing := closing
        writer := w }
  /-- A tick without a heartbeat. -/
  | tick (s) (zoneValue : UInt16) (hact : action.ticks = true) :
      Effect writer action s { s with
        zoneValue := zoneValue, tickValue := s.tickValue + 1 }
  /-- A frame. -/
  | frame (s) (hact : action.frames = true) :
      Effect writer action s { s with frameValue := s.frameValue + 1 }
  /-- An append, after a tick when `s₀` is not `s`. -/
  | append (s s₀) (record : GameplayEvent) (phase : Phase)
      (hact : action.produces = true)
      (hs₀ : s₀ = s ∨ (action.ticks = true ∧ ∃ zone, s₀ = { s with
        zoneValue := zone, tickValue := s.tickValue + 1 }))
      (htick : record.tick = s₀.tickValue)
      (hframe : record.frame = s₀.frameValue)
      (hphase : phase = s.phase ∨
        (s.phase = .idle ∧ phase = .entered)) :
      Effect writer action s { ({ s₀ with
        appendedTotal := s.appendedTotal + 1 }).store record with
          phase := phase }
  /-- A batch leaves the ring, with the loss window before it. -/
  | claim (s) (n : Nat) (hpos : 0 < n) (hle : n ≤ s.ring.pending)
      (hrun : s.isShutDown = false) (hphase : s.phase = .entered) :
      Effect writer action s { s with
        ring := s.ring.claim n, droppedSinceDrain := 0
        phase := .claimed (s.batchOf n) }
  /-- No file for the batch: it is counted as dropped. -/
  | openRefused (s) (batch : Batch) (openFailed : Bool)
      (archive : Archive LogLine) (w : W)
      (hphase : s.phase = .claimed batch)
      (harchive : archive = s.archive ∨
        (s.fileIsOpen = false ∧ s.openFailed = false
          ∧ archive = s.archive.opened false))
      (hkeep : s.openFailed = true → openFailed = true)
      (hrefused : s.openFailed = true ∨ cfg.mode = .off
        ∨ (s.fileIsOpen = false ∧ (writer.openFirstFile s.writer).1 = false)) :
      Effect writer action s { s with
        openFailed := openFailed, archive := archive, writer := w
        droppedTotal := s.droppedTotal + batch.scratch.length
        phase := .idle }
  /-- The file was already open. -/
  | openHeld (s) (batch : Batch) (hphase : s.phase = .claimed batch)
      (hopen : s.fileIsOpen = true) (hfailed : s.openFailed = false) :
      Effect writer action s { s with phase := .opened batch }
  /-- The first file is opened and gets its header. -/
  | openFirst (s) (batch : Batch) (rot : Int) (wallUTC path : Text) (w : W)
      (hphase : s.phase = .claimed batch) (hopen : s.fileIsOpen = false)
      (hfailed : s.openFailed = false) :
      Effect writer action s { s with
        fileIsOpen := true, nextSeq := s.nextSeq + 1, writer := w
        archive := (s.archive.opened true).write [.begin s.nextSeq
          batch.stampTick batch.stampFrame rot wallUTC path s.flowValue]
        phase := .opened batch }
  /-- No rotation is due. -/
  | rotateSkip (s) (batch : Batch) (hphase : s.phase = .opened batch) :
      Effect writer action s { s with phase := .rotated batch }
  /-- The file is retired and its successor gets its header. -/
  | rotateDone (s) (batch : Batch) (retired rot : Int)
      (fromPath toPath wallUTC path : Text) (w : W)
      (hphase : s.phase = .opened batch) :
      Effect writer action s { s with
        fileIsOpen := true, nextSeq := s.nextSeq + 2, writer := w
        archive := ((s.archive.write [.rotate s.nextSeq batch.stampTick
            batch.stampFrame retired fromPath toPath]).rotated true).write
          [.begin (s.nextSeq + 1) batch.stampTick batch.stampFrame rot
            wallUTC path s.flowValue]
        phase := .rotated batch }
  /-- The file is retired and no successor is opened. -/
  | rotateFailed (s) (batch : Batch) (retired : Int)
      (fromPath toPath : Text) (w : W) (hphase : s.phase = .opened batch)
      (hact : action.drains = true) (hdue : s.rotationDue writer = true)
      (hanswer : s.rotationAnswer writer batch = false) :
      Effect writer action s { s with
        openFailed := true, nextSeq := s.nextSeq + 1, writer := w
        archive := (s.archive.write [.rotate s.nextSeq batch.stampTick
          batch.stampFrame retired fromPath toPath]).rotated false
        phase := .rotated batch }
  /-- The batch is written. -/
  | write (s) (batch : Batch) (w : W) (hphase : s.phase = .rotated batch) :
      Effect writer action s { s with
        nextSeq := s.nextSeq + (s.batchLines writer batch).length
        archive := s.archive.write (s.batchLines writer batch)
        writer := w, phase := .idle }
  /-- The log is closed without a file to end. -/
  | closeRefused (s) (closer : Closer) (openFailed : Bool)
      (archive : Archive LogLine) (w : W)
      (hclosing : s.closing = .marked closer) (hphase : s.phase = .idle)
      (harchive : archive = s.archive ∨
        (s.fileIsOpen = false ∧ s.openFailed = false
          ∧ archive = s.archive.opened false))
      (hkeep : s.openFailed = true → openFailed = true)
      (hrefused : s.openFailed = true ∨ cfg.mode = .off
        ∨ (s.fileIsOpen = false ∧ (writer.openFirstFile s.writer).1 = false)) :
      Effect writer action s { s with
        openFailed := openFailed, archive := archive, writer := w
        closing := .done }
  /-- The last file is ended and closed. -/
  | closeHeld (s) (closer : Closer) (rot : Int) (w : W)
      (hclosing : s.closing = .marked closer) (hphase : s.phase = .idle)
      (hopen : s.fileIsOpen = true) (hfailed : s.openFailed = false) :
      Effect writer action s { s with
        nextSeq := s.nextSeq + 1, writer := w
        archive := (s.archive.write [.ended s.nextSeq closer.lastTick
          closer.lastFrame rot closer.reason closer.events]).closed
        closing := .done }
  /-- A log that never wrote opens its only file, ends and closes it. -/
  | closeFirst (s) (closer : Closer) (rot rot' : Int) (wallUTC path : Text)
      (w : W) (hclosing : s.closing = .marked closer)
      (hphase : s.phase = .idle) (hopen : s.fileIsOpen = false)
      (hfailed : s.openFailed = false) :
      Effect writer action s { s with
        fileIsOpen := true, nextSeq := s.nextSeq + 2, writer := w
        archive := (((s.archive.opened true).write [.begin s.nextSeq
            closer.lastTick closer.lastFrame rot wallUTC path
            s.flowValue]).write
          [.ended (s.nextSeq + 1) closer.lastTick closer.lastFrame rot'
            closer.reason closer.events]).closed
        closing := .done }

-- ============================================================ the writer

variable {writer}

/-- Writing changes the writer and the archive. -/
theorem write_inv {s s' : GameplayEventLog cfg W} {lines : List LogLine}
    (h : s.write writer lines = some s') :
    ∃ w, s' = { s with writer := w, archive := s.archive.write lines } := by
  unfold write at h
  obtain ⟨texts, _, h⟩ := Option.bind_eq_some_iff.mp h
  injection h with h
  exact ⟨_, h.symm⟩

/-- A boundary line takes the next number. -/
theorem outputAppend_inv {s s' : GameplayEventLog cfg W} {line : LogLine}
    (h : s.outputAppend writer line = some s') :
    ∃ w, s' = { s with
      nextSeq := s.nextSeq + 1, writer := w
      archive := s.archive.write [line] } := by
  unfold outputAppend at h
  obtain ⟨s₁, hwrite, h⟩ := Option.bind_eq_some_iff.mp h
  obtain ⟨w, rfl⟩ := write_inv hwrite
  injection h with h
  exact ⟨_, h.symm⟩

/-- A file is refused, held, or opened with its header. -/
theorem ensureFileOpen_inv {s s' : GameplayEventLog cfg W} {wallUTC : Text}
    {tick frame : UInt32} {answer : Bool}
    (h : s.ensureFileOpen writer wallUTC tick frame = some (answer, s')) :
    (answer = false ∧ ∃ w openFailed archive,
      s' = { s with
        openFailed := openFailed, archive := archive, writer := w }
      ∧ (archive = s.archive ∨ (s.fileIsOpen = false
          ∧ s.openFailed = false ∧ archive = s.archive.opened false))
      ∧ (s.openFailed = true → openFailed = true)
      ∧ (s.openFailed = true ∨ cfg.mode = .off
        ∨ (s.fileIsOpen = false ∧ (writer.openFirstFile s.writer).1 = false)))
    ∨ (answer = true ∧ s' = s ∧ s.fileIsOpen = true ∧ s.openFailed = false)
    ∨ (answer = true ∧ s.fileIsOpen = false ∧ s.openFailed = false
      ∧ ∃ w rot path, s' = { s with
        fileIsOpen := true, nextSeq := s.nextSeq + 1, writer := w
        archive := (s.archive.opened true).write [.begin s.nextSeq tick
          frame rot wallUTC path s.flowValue] }) := by
  unfold ensureFileOpen at h
  split at h
  case isTrue hfailed =>
    injection h with h
    injection h with ha hs
    subst ha hs
    exact .inl ⟨rfl, s.writer, s.openFailed, s.archive, rfl, .inl rfl, id,
      .inl hfailed⟩
  case isFalse hfailed =>
    rw [Bool.not_eq_true] at hfailed
    split at h
    case isTrue hopen =>
      injection h with h
      injection h with ha hs
      subst ha hs
      exact .inr (.inl ⟨rfl, rfl, hopen, hfailed⟩)
    case isFalse hopen =>
      rw [Bool.not_eq_true] at hopen
      split at h
      case isTrue hoff =>
        injection h with h
        injection h with ha hs
        subst ha hs
        exact .inl ⟨rfl, s.writer, s.openFailed, s.archive, rfl, .inl rfl, id,
          .inr (.inl hoff)⟩
      case isFalse hoff =>
        dsimp only at h
        split at h
        case isTrue hanswer =>
          obtain ⟨s₁, happend, h⟩ := Option.bind_eq_some_iff.mp h
          injection h with h
          injection h with ha hs
          obtain ⟨w, rfl⟩ := outputAppend_inv happend
          subst ha hs
          refine .inr (.inr ⟨rfl, hopen, hfailed, w,
            writer.rotationIndex (writer.openFirstFile s.writer).2,
            writer.currentPath (writer.openFirstFile s.writer).2, ?_⟩)
          simp only [beginLine, hanswer]
        case isFalse hanswer =>
          rw [Bool.not_eq_true] at hanswer
          injection h with h
          injection h with ha hs
          subst ha hs
          refine .inl ⟨rfl, _, true, _, rfl, .inr ⟨hopen, hfailed, ?_⟩,
            fun _ => rfl, .inr (.inr ⟨hopen, hanswer⟩)⟩
          rw [hanswer]

/-- A rotation retires the file and opens the next, or fails to. -/
theorem rotateFile_inv {s s' : GameplayEventLog cfg W} {wallUTC : Text}
    {batch : Batch}
    (h : s.rotateFile writer wallUTC batch.stampTick batch.stampFrame
      = some s') :
    (∃ retired rot fromPath toPath path w, s' = { s with
        fileIsOpen := true, nextSeq := s.nextSeq + 2, writer := w
        archive := ((s.archive.write [.rotate s.nextSeq batch.stampTick
            batch.stampFrame retired fromPath toPath]).rotated true).write
          [.begin (s.nextSeq + 1) batch.stampTick batch.stampFrame rot
            wallUTC path s.flowValue] })
    ∨ (s.rotationAnswer writer batch = false
      ∧ ∃ retired fromPath toPath w, s' = { s with
        openFailed := true, nextSeq := s.nextSeq + 1, writer := w
        archive := (s.archive.write [.rotate s.nextSeq batch.stampTick
          batch.stampFrame retired fromPath toPath]).rotated false }) := by
  unfold rotateFile at h
  obtain ⟨s₁, happend, h⟩ := Option.bind_eq_some_iff.mp h
  have hanswer : s.rotationAnswer writer batch
      = (writer.rotateToNextFile s₁.writer).1 := by
    unfold rotationAnswer rotateLineOf
    rw [happend]
  obtain ⟨w, rfl⟩ := outputAppend_inv happend
  dsimp only at h hanswer
  split at h
  case isTrue hgranted =>
    obtain ⟨w', rfl⟩ := outputAppend_inv h
    refine .inl ⟨writer.rotationIndex s.writer,
      writer.rotationIndex (writer.rotateToNextFile w).2,
      writer.currentPath s.writer, writer.nextFilePath s.writer,
      writer.currentPath (writer.rotateToNextFile w).2, w', ?_⟩
    simp only [beginLine, hgranted]
  case isFalse hgranted =>
    rw [Bool.not_eq_true] at hgranted
    injection h with h
    refine .inr ⟨hanswer.trans hgranted, writer.rotationIndex s.writer,
      writer.currentPath s.writer, writer.nextFilePath s.writer,
      (writer.rotateToNextFile w).2, ?_⟩
    rw [← h, hgranted]

-- ============================================================== producers

/-- What a store loses: one record when the ring was full. -/
def lapped (s : GameplayEventLog cfg W) : Nat := if s.ring.full then 1 else 0

/-- A store touches the ring, the two loss counters and the history. -/
theorem store_eq (s : GameplayEventLog cfg W) (record : GameplayEvent) :
    s.store record = { s with
      ring := s.ring.store record
      droppedTotal := s.droppedTotal + s.lapped
      droppedSinceDrain := s.droppedSinceDrain + s.lapped
      history := (if s.ring.full then s.markLapped else s.history)
        ++ [⟨record, false⟩] } := by
  unfold store lapped
  split <;> rfl

/-- A store leaves the drain where it is. -/
theorem store_phase (s : GameplayEventLog cfg W) (record : GameplayEvent) :
    s.store record = { s.store record with phase := s.phase } := by
  rw [store_eq]

/-- An append is a store, entering the inline drain or not. -/
theorem appendRecord_inv (s : GameplayEventLog cfg W) (rawKind : UInt8)
    (entity : UInt16) (a b c d : Int16) :
    ∃ record phase, record.tick = s.tickValue ∧ record.frame = s.frameValue
      ∧ (phase = s.phase ∨
        (phase = .entered ∧ cfg.mode = .synchronous))
      ∧ s.appendRecord rawKind entity a b c d = { ({ s with
        appendedTotal := s.appendedTotal + 1 }).store record with
          phase := phase } := by
  unfold appendRecord storeLocked
  dsimp only
  split
  case isTrue hinline =>
    refine ⟨s.stamped rawKind entity a b c d, .entered, rfl, rfl,
      .inr ⟨rfl, ?_⟩, rfl⟩
    simp only [wantsInlineDrain, decide_eq_true_eq] at hinline
    exact hinline.1
  case isFalse =>
    exact ⟨s.stamped rawKind entity a b c d, s.phase, rfl, rfl, .inl rfl,
      store_phase _ _⟩

/-- A heartbeat is a store, and nothing else. -/
theorem appendHeartbeatLocked_inv (s : GameplayEventLog cfg W) :
    ∃ record, record.tick = s.tickValue ∧ record.frame = s.frameValue
      ∧ s.appendHeartbeatLocked = { ({ s with
        appendedTotal := s.appendedTotal + 1 }).store record with
          phase := s.phase } := by
  let events := GameplayEvent.split32 (Int32.ofNat s.appendedTotal)
  let drops := GameplayEvent.split32 (Int32.ofNat s.droppedTotal)
  exact ⟨s.stamped GameplayEventKind.tickHeartbeat.rawValue s.flowValue
    events.1 events.2 drops.1 drops.2, rfl, rfl, store_phase _ _⟩

theorem mayProduce_phase {s : GameplayEventLog cfg W}
    (hmode : cfg.mode = .synchronous) (h : s.mayProduce = true) :
    s.phase = .idle := by
  have hfree : s.free = true := by
    unfold mayProduce at h
    rw [hmode] at h
    cases hc : s.closing <;> simp_all
  unfold free at hfree
  cases hp : s.phase <;> simp_all

variable (writer)

/-- A producer's append is one effect. -/
theorem appendRecord_effect {s : GameplayEventLog cfg W} {action : Action}
    (hact : action.produces = true) (hmay : s.mayProduce = true) (rawKind : UInt8) (entity : UInt16)
    (a b c d : Int16) :
    Effect writer action s (s.appendRecord rawKind entity a b c d) := by
  obtain ⟨record, phase, htick, hframe, hphase, heq⟩ :=
    s.appendRecord_inv rawKind entity a b c d
  rw [heq]
  refine .append s s record phase hact (.inl rfl) htick hframe ?_
  rcases hphase with h | ⟨h, hmode⟩
  · exact .inl h
  · exact .inr ⟨mayProduce_phase hmode hmay, h⟩

/-- A tick is one effect, with its heartbeat if one is due. -/
theorem beginTick_effect {s s' : GameplayEventLog cfg W} {zone : Int}
    (h : s.beginTick zone = some s') :
    Effect writer (.beginTick zone) s s' := by
  unfold beginTick at h
  dsimp only at h
  split at h
  case isTrue =>
    injection h with h
    subst h
    exact .tick s _ rfl
  case isFalse =>
    split at h
    case isTrue => cases h
    case isFalse =>
      split at h
      case isTrue =>
        injection h with h
        subst h
        obtain ⟨record, htick, hframe, heq⟩ := appendHeartbeatLocked_inv
          { s with
            zoneValue := UInt16.ofInt (max 0 (min 65535 zone))
            tickValue := s.tickValue + 1 }
        rw [heq]
        exact .append s _ record s.phase rfl (.inr ⟨rfl, _, rfl⟩) htick hframe
          (.inl rfl)
      case isFalse =>
        injection h with h
        subst h
        exact .tick s _ rfl

/-- A step of control that leaves the shutdown where it is. -/
theorem control_effect (action : Action) (s : GameplayEventLog cfg W)
    (flowValue : UInt16) (flushing : Bool) {phase : Phase}
    (hphase : phase = s.phase ∨
      (s.phase.batch? = none ∧ phase.batch? = none)) :
    Effect writer action s { s with
      flowValue := flowValue, flushing := flushing, phase := phase } :=
  .control s flowValue s.isShutDown flushing phase s.closing s.writer hphase
    Iff.rfl id .inl .inl (fun _ => .inl) .inl

/-- Staying in place is an effect. -/
theorem Effect.refl (action : Action) (s : GameplayEventLog cfg W) :
    Effect writer action s s :=
  control_effect writer action s s.flowValue s.flushing (.inl rfl)

-- ================================================================ the drain

/-- A claim takes a batch, or the drain has nothing to do. -/
theorem drainClaim_effect {s s' : GameplayEventLog cfg W} (action : Action)
    (hphase : s.phase = .entered) (h : s.drainClaim = some s') :
    Effect writer action s s' := by
  have hidle : Effect writer action s { s with phase := .idle } := by
    refine control_effect writer action s s.flowValue s.flushing (.inr ⟨?_, rfl⟩)
    rw [hphase]
    rfl
  unfold drainClaim at h
  split at h
  case isTrue =>
    injection h with h
    subst h
    exact hidle
  case isFalse hrun =>
    dsimp only at h
    split at h
    case isTrue => cases h
    case isFalse hneg =>
      split at h
      case isTrue =>
        injection h with h
        subst h
        exact hidle
      case isFalse hzero =>
        injection h with h
        subst h
        refine .claim s _ ?_ ?_ ?_ hphase
        · omega
        · omega
        · rw [← Bool.not_eq_true]
          exact fun hshut => hrun (.inr hshut)

theorem drainOpen_effect {s s' : GameplayEventLog cfg W} {batch : Batch}
    {wallUTC : Text} (action : Action)
    (hphase : s.phase = .claimed batch)
    (h : s.drainOpen writer batch wallUTC = some s') :
    Effect writer action s s' := by
  unfold drainOpen at h
  obtain ⟨⟨answer, s₁⟩, hopen, hs'⟩ := Option.bind_eq_some_iff.mp h
  rcases ensureFileOpen_inv hopen with
    ⟨rfl, w, openFailed, archive, rfl, harchive, hkeep, hrefused⟩
    | ⟨rfl, rfl, hheld, hfailed⟩
    | ⟨rfl, hclosed, hfailed, w, rot, path, rfl⟩
  · injection hs' with hs'
    subst hs'
    exact .openRefused s batch openFailed archive w hphase harchive hkeep
      hrefused
  · injection hs' with hs'
    subst hs'
    exact .openHeld s₁ batch hphase hheld hfailed
  · injection hs' with hs'
    subst hs'
    exact .openFirst s batch rot wallUTC path w hphase hclosed hfailed

theorem drainRotate_effect {s s' : GameplayEventLog cfg W} {batch : Batch}
    {wallUTC : Text} {action : Action} (hact : action.drains = true)
    (hphase : s.phase = .opened batch)
    (h : s.drainRotate writer batch wallUTC = some s') :
    Effect writer action s s' := by
  unfold drainRotate at h
  split at h
  case isTrue hdue =>
    obtain ⟨s₁, hrotate, hs'⟩ := Option.bind_eq_some_iff.mp h
    injection hs' with hs'
    subst hs'
    rcases rotateFile_inv hrotate with
      ⟨retired, rot, fromPath, toPath, path, w, rfl⟩
      | ⟨hanswer, retired, fromPath, toPath, w, rfl⟩
    · exact .rotateDone s batch retired rot fromPath toPath wallUTC path w
        hphase
    · exact .rotateFailed s batch retired fromPath toPath w hphase hact hdue
        hanswer
  case isFalse =>
    injection h with h
    subst h
    exact .rotateSkip s batch hphase

theorem drainWrite_effect {s s' : GameplayEventLog cfg W} {batch : Batch}
    (action : Action) (hphase : s.phase = .rotated batch)
    (h : s.drainWrite writer batch = some s') :
    Effect writer action s s' := by
  unfold drainWrite at h
  obtain ⟨s₁, hwrite, hs'⟩ := Option.bind_eq_some_iff.mp h
  obtain ⟨w, rfl⟩ := write_inv hwrite
  dsimp only at hs'
  injection hs' with hs'
  subst hs'
  -- pushing the text to the file changes the writer only
  split
  case isTrue => exact .write s batch _ hphase
  case isFalse => exact .write s batch _ hphase

/-- A step of the drain is one effect. -/
theorem drain_effect {s s' : GameplayEventLog cfg W} {wallUTC : Text}
    (h : s.drain writer wallUTC = some s') :
    Effect writer (.drain wallUTC) s s' := by
  unfold drain at h
  cases hphase : s.phase with
  | idle =>
      rw [hphase] at h
      dsimp only at h
      split at h
      case isFalse => cases h
      case isTrue =>
        split at h
        case isTrue =>
          injection h with h
          subst h
          refine control_effect writer _ s s.flowValue s.flushing
            (.inr ⟨?_, rfl⟩)
          rw [hphase]
          rfl
        case isFalse hwork =>
          injection h with h
          subst h
          refine .control s s.flowValue s.isShutDown false s.phase
            s.closing.flushDone (writer.synchronize s.writer) (.inl rfl) ?_
            id ?_ (fun _ => .inr ⟨?_, by simpa using hwork⟩) ?_ ?_
          · cases s.closing <;> simp [Closing.flushDone]
          · cases s.closing <;> simp [Closing.flushDone, Closing.ending]
          · rw [hphase]
            rfl
          · intro closer hcloser
            left
            cases hclosing : s.closing <;> rw [hclosing] at hcloser <;>
              exact hcloser
          · intro hclosing
            rw [hclosing]
            exact .inl rfl
  | entered =>
      rw [hphase] at h
      exact drainClaim_effect writer _ hphase h
  | claimed batch =>
      rw [hphase] at h
      exact drainOpen_effect writer _ hphase h
  | opened batch =>
      rw [hphase] at h
      exact drainRotate_effect writer rfl hphase h
  | rotated batch =>
      rw [hphase] at h
      exact drainWrite_effect writer _ hphase h

-- =============================================================== shutdown

theorem free_phase {s : GameplayEventLog cfg W} (h : s.free = true) :
    s.phase = .idle := by
  unfold free at h
  cases hp : s.phase <;> simp_all

theorem close_effect {s s' : GameplayEventLog cfg W} {closer : Closer}
    {wallUTC : Text} (action : Action) (hclosing : s.closing = .marked closer)
    (hphase : s.phase = .idle)
    (h : s.close writer closer wallUTC = some s') :
    Effect writer action s s' := by
  unfold close at h
  obtain ⟨⟨answer, s₁⟩, hopen, hs'⟩ := Option.bind_eq_some_iff.mp h
  rcases ensureFileOpen_inv hopen with
    ⟨rfl, w, openFailed, archive, rfl, harchive, hkeep, hrefused⟩
    | ⟨rfl, rfl, hheld, hfailed⟩
    | ⟨rfl, hclosed, hfailed, w, rot, path, rfl⟩
  · injection hs' with hs'
    subst hs'
    exact .closeRefused s closer openFailed archive w hclosing hphase
      harchive hkeep hrefused
  · dsimp only at hs'
    rw [if_pos rfl] at hs'
    obtain ⟨s₂, happend, hend⟩ := Option.bind_eq_some_iff.mp hs'
    obtain ⟨w', rfl⟩ := outputAppend_inv happend
    injection hend with hend
    subst hend
    exact .closeHeld s₁ closer _ _ hclosing hphase hheld hfailed
  · dsimp only at hs'
    rw [if_pos rfl] at hs'
    obtain ⟨s₂, happend, hend⟩ := Option.bind_eq_some_iff.mp hs'
    obtain ⟨w', rfl⟩ := outputAppend_inv happend
    injection hend with hend
    subst hend
    exact .closeFirst s closer rot _ wallUTC path _ hclosing hphase hclosed
      hfailed

theorem closeStep_effect {s s' : GameplayEventLog cfg W} {wallUTC : Text}
    (h : s.closeStep writer wallUTC = some s') :
    Effect writer (.close wallUTC) s s' := by
  unfold closeStep at h
  split at h
  case h_1 closer hclosing =>
    split at h
    case isFalse => cases h
    case isTrue =>
      injection h with h
      subst h
      refine .control s s.flowValue s.isShutDown true s.phase
        (.draining closer) s.writer (.inl rfl) ?_ id nofun nofun
        (fun closer' hc => ?_) (fun hc => ?_)
      · simp [hclosing]
      · left
        rw [hclosing]
        exact hc
      · rw [hclosing] at hc
        cases hc
  case h_2 closer hclosing =>
    injection h with h
    subst h
    refine .control s s.flowValue true s.flushing s.phase (.marked closer)
      s.writer (.inl rfl) ?_ (fun _ => rfl) (fun _ => .inr rfl)
      (fun _ => .inl ?_) (fun closer' hc => ?_) (fun hc => ?_)
    · simp [hclosing]
    · rw [hclosing]
      rfl
    · left
      rw [hclosing]
      exact hc
    · rw [hclosing] at hc
      cases hc
  case h_3 closer hclosing =>
    split at h
    case isFalse => cases h
    case isTrue hfree =>
      exact close_effect writer _ hclosing (free_phase hfree) h
  all_goals cases h

theorem shutdown_effect {s s' : GameplayEventLog cfg W}
    {reason : GameplayLogEndReason} (h : s.shutdown reason = some s') :
    Effect writer (.shutdown reason) s s' := by
  unfold shutdown at h
  split at h
  case isTrue =>
    injection h with h
    subst h
    exact .refl writer _ s
  case isFalse =>
    split at h
    case h_1 hclosing =>
      injection h with h
      subst h
      refine .control s s.flowValue s.isShutDown s.flushing s.phase _
        s.writer (.inl rfl) ?_ id nofun nofun (fun closer hc => .inr ?_)
        (fun _ => .inr rfl)
      · simp [hclosing]
      · injection hc with hc
        rw [← hc]
        exact ⟨rfl, rfl⟩
    case h_2 => cases h

-- ================================================================== steps

/-- Every step of the log is one effect. -/
theorem step_effect {s s' : GameplayEventLog cfg W} {action : Action}
    (h : s.step writer action = some s') : Effect writer action s s' := by
  unfold step at h
  split at h
  case isTrue => cases h
  case isFalse hmay =>
    have hmay (hp : action.produces = true) : s.mayProduce = true := by
      by_cases hm : s.mayProduce = true
      · exact hm
      · exact absurd ⟨hp, hm⟩ hmay
    cases action with
    | emit kind entity a b c d =>
        injection h with h
        subst h
        unfold emit
        split
        case isTrue => exact .refl writer _ s
        case isFalse =>
          exact appendRecord_effect writer rfl (hmay rfl) _ _ _ _ _ _
    | appendRawKind rawKind entity a b c d =>
        injection h with h
        subst h
        exact appendRecord_effect writer rfl (hmay rfl) _ _ _ _ _ _
    | beginTick zone => exact beginTick_effect writer h
    | beginFrame =>
        injection h with h
        subst h
        exact .frame s rfl
    | setFlowState state =>
        injection h with h
        subst h
        exact control_effect writer _ s _ s.flushing (.inl rfl)
    | requestDrain =>
        dsimp only at h
        split at h
        case isTrue =>
          injection h with h
          subst h
          exact .refl writer _ s
        case isFalse =>
          split at h
          case isFalse => cases h
          case isTrue hfree =>
            injection h with h
            subst h
            refine control_effect writer _ s s.flowValue s.flushing
              (.inr ⟨?_, rfl⟩)
            rw [free_phase hfree]
            rfl
    | flush =>
        dsimp only at h
        split at h
        case isTrue =>
          injection h with h
          subst h
          exact .refl writer _ s
        case isFalse =>
          split at h
          case isFalse => cases h
          case isTrue hfree =>
            injection h with h
            subst h
            exact control_effect writer _ s s.flowValue true (.inl rfl)
    | drain wallUTC => exact drain_effect writer h
    | shutdown reason => exact shutdown_effect writer h
    | close wallUTC => exact closeStep_effect writer h

end GameplayEventLog

end Exolon
