/-
The gameplay event log: its state and every step it can take.

Producers append records to a ring under a lock; a drain copies a batch
out under the same lock, and opens the file, rotates and writes outside
of it. So one `drainNow` is four steps (`claim`, `open`, `rotate`,
`write`), and in asynchronous mode a producer may step between any two
of them. `step` is that system: one action, one step.

# Who may step when

- Asynchronous: producers always; the serial queue runs one `drainNow`,
  one `flush` or one part of `shutdown` at a time.
- Synchronous: one thread. A producer waits for the drain it started
  inline, for a flush and for a shutdown.

`none` is an action the state does not allow, or a trap: a negative
batch, a heartbeat period beyond 32 bits, a record whose line cannot be
formatted.

# Ghost state

`archive` is what the writer was handed (Writer), `history` every record
ever appended, each with a mark once the ring has lapped it. No step
reads either.
-/
import Exolon.EventLog.Format
import Exolon.EventLog.Writer
import Exolon.Lib.Ring
import Exolon.Lib.Run

namespace Exolon

-- ======================================================= configuration

/-- Who drains the ring. -/
inductive GameplayEventWriterMode where
  | off | synchronous | asynchronous
  deriving DecidableEq, Repr

/-- The limits the ring, the drain and the ticks read. -/
structure Limits where
  ringCapacity : Int := 65536
  drainBatchEvents : Int := 512
  maxFileBytes : Int := 8388608
  heartbeatSteps : Int := 600

structure Configuration where
  mode : GameplayEventWriterMode := .off
  level : Int := 0
  build : Text := "harness".toList
  seed : Text := "nondeterministic".toList
  runToken : Text
  limits : Limits := {}

/-- Double a candidate until it reaches `wanted`. The first argument
bounds the loop: a candidate grows by at least one a round. -/
def doubled : Nat → Nat → Nat → Nat
  | 0, _, candidate => candidate
  | n + 1, wanted, candidate =>
      if candidate < wanted then doubled n wanted (2 * candidate)
      else candidate

/-- The least power of two from sixteen on that holds `wanted`. -/
def roundedPowerOfTwo (wanted : Int) : Nat :=
  doubled wanted.toNat (max 16 wanted.toNat) 16

namespace Configuration

variable (cfg : Configuration)

/-- Slots of the ring. -/
def capacity : Nat := max 16 (roundedPowerOfTwo cfg.limits.ringCapacity)

/-- The level emissions are measured against. -/
def emissionLevel : Int := max 0 (min 2 cfg.level)

end Configuration

theorem doubled_pow (n wanted : Nat) {candidate : Nat}
    (h : candidate.isPowerOfTwo) : (doubled n wanted candidate).isPowerOfTwo := by
  induction n generalizing candidate with
  | zero => exact h
  | succ n ih =>
      unfold doubled
      split
      · obtain ⟨k, rfl⟩ := h
        exact ih ⟨k + 1, by rw [Nat.pow_succ, Nat.mul_comm]⟩
      · exact h

theorem le_doubled (n wanted candidate : Nat) :
    candidate ≤ doubled n wanted candidate := by
  induction n generalizing candidate with
  | zero => exact le_refl _
  | succ n ih =>
      unfold doubled
      split
      · have := ih (2 * candidate)
        omega
      · exact le_refl _

/-- The loop ends because its bound was enough, not because it ran out. -/
theorem le_doubled_wanted {n wanted candidate : Nat}
    (hpos : 0 < candidate) (hn : wanted ≤ candidate + n) :
    wanted ≤ doubled n wanted candidate := by
  induction n generalizing candidate with
  | zero => exact hn
  | succ n ih =>
      unfold doubled
      split
      · exact ih (by omega) (by omega)
      · omega

/-- A ring holds at least what the configuration asked for. -/
theorem roundedPowerOfTwo_ge (wanted : Int) :
    wanted ≤ roundedPowerOfTwo wanted := by
  have hle : max 16 wanted.toNat
      ≤ doubled wanted.toNat (max 16 wanted.toNat) 16 :=
    le_doubled_wanted (by decide) (by omega)
  unfold roundedPowerOfTwo
  omega

theorem Configuration.capacity_pow (cfg : Configuration) :
    cfg.capacity.isPowerOfTwo := by
  have hle : 16 ≤ roundedPowerOfTwo cfg.limits.ringCapacity := le_doubled _ _ _
  rw [Configuration.capacity, max_eq_right hle]
  exact doubled_pow _ _ ⟨4, by decide⟩

-- ================================================================ lines

/-- A line of the log with the numbers it was written with. -/
inductive LogLine where
  | begin (seq : Nat) (tick frame : UInt32) (rot : Int) (wallUTC path : Text)
      (flow : UInt16)
  | rotate (seq : Nat) (tick frame : UInt32) (retired : Int)
      (fromPath toPath : Text)
  | eventsDropped (seq : Nat) (tick frame : UInt32) (rot : Int) (drops : Nat)
      (lastRetainedSeq firstRetainedSeq : Int) (droppedTotal ringCount : Nat)
  | ended (seq : Nat) (tick frame : UInt32) (rot : Int)
      (reason : GameplayLogEndReason) (events : Nat)
  | record (seq : Nat) (rot : Int) (event : GameplayEvent)

namespace LogLine

/-- The text a line is written as; `none` is a trap of the formatter. -/
def text? (cfg : Configuration) : LogLine → Option Text
  | .begin seq tick frame rot wallUTC path flow =>
      some (beginRecordLine cfg.runToken cfg.build wallUTC cfg.seed
        cfg.emissionLevel flow seq rot path tick.toNat frame.toNat)
  | .rotate seq tick frame retired fromPath toPath =>
      some (rotateLine seq tick.toNat frame.toNat retired fromPath toPath)
  | .eventsDropped seq tick frame rot drops lastRetained firstRetained
      droppedTotal ringCount =>
      some (dropRecordLine drops lastRetained firstRetained droppedTotal
        ringCount seq rot tick.toNat frame.toNat)
  | .ended seq tick frame rot reason events =>
      some (endLine reason events seq tick.toNat frame.toNat rot)
  | .record seq rot event => formatRecord event seq rot

/-- The record a body line carries. -/
def event? : LogLine → Option GameplayEvent
  | .record _ _ event => some event
  | _ => none

end LogLine

-- ================================================================ state

/-- A batch a drain has claimed: the records copied out, the loss window
it declares, and the stamp of its first record. -/
structure Batch where
  scratch : List GameplayEvent
  drops : Nat
  stampTick : UInt32
  stampFrame : UInt32

/-- Where the one running `drainNow` stands. -/
inductive Phase where
  | idle
  | entered
  | claimed (batch : Batch)
  | opened (batch : Batch)
  | rotated (batch : Batch)

/-- What `shutdown` captured when it was called. -/
structure Closer where
  reason : GameplayLogEndReason
  events : Nat
  lastTick : UInt32
  lastFrame : UInt32

/-- Where the shutdown stands. -/
inductive Closing where
  | running
  | called (closer : Closer)
  | draining (closer : Closer)
  | flushed (closer : Closer)
  | marked (closer : Closer)
  | done

/-- The flush a shutdown waits for has returned. -/
def Closing.flushDone : Closing → Closing
  | .draining closer => .flushed closer
  | closing => closing

/-- A record ever appended, and whether the ring has lapped it since. -/
structure Appended where
  event : GameplayEvent
  lapped : Bool

/-- The log over a writer's state. -/
structure GameplayEventLog (cfg : Configuration) (W : Type) where
  ring : Ring GameplayEvent cfg.capacity
  droppedTotal : Nat
  droppedSinceDrain : Nat
  appendedTotal : Nat
  tickValue : UInt32
  frameValue : UInt32
  zoneValue : UInt16
  flowValue : UInt16
  nextSeq : Nat
  fileIsOpen : Bool
  openFailed : Bool
  isShutDown : Bool
  writer : W
  phase : Phase
  flushing : Bool
  closing : Closing
  -- ghost state: no step reads it
  archive : Archive LogLine
  history : List Appended

namespace GameplayEventLog

variable {cfg : Configuration} {W : Type}

/-- A log before its first step. -/
def init (cfg : Configuration) (writer : W) : GameplayEventLog cfg W where
  ring := Ring.empty .zero cfg.capacity_pow
  droppedTotal := 0
  droppedSinceDrain := 0
  appendedTotal := 0
  tickValue := 0
  frameValue := 0
  zoneValue := 0
  flowValue := 0
  nextSeq := 0
  fileIsOpen := false
  openFailed := false
  isShutDown := false
  writer := writer
  phase := .idle
  flushing := false
  closing := .running
  archive := .empty
  history := []

-- ============================================================ producers

/-- Mark the record the next lap loses. -/
def markLapped (s : GameplayEventLog cfg W) : List Appended :=
  s.history.modify s.ring.head fun entry => { entry with lapped := true }

/-- Store a record; a full ring loses its oldest one, counted twice: in
the total, and in the window the next drain declares. The source has this
code twice (`storeLocked`, `appendHeartbeatLocked`). -/
def store (s : GameplayEventLog cfg W) (record : GameplayEvent) :
    GameplayEventLog cfg W :=
  if s.ring.full then
    { s with
      ring := s.ring.store record
      droppedTotal := s.droppedTotal + 1
      droppedSinceDrain := s.droppedSinceDrain + 1
      history := s.markLapped ++ [⟨record, false⟩] }
  else
    { s with
      ring := s.ring.store record
      history := s.history ++ [⟨record, false⟩] }

/-- The inline drain a synchronous append asks for. -/
def wantsInlineDrain (s : GameplayEventLog cfg W) : Bool :=
  cfg.mode = .synchronous ∧ cfg.limits.drainBatchEvents ≤ s.ring.pending

def storeLocked (s : GameplayEventLog cfg W) (record : GameplayEvent) :
    GameplayEventLog cfg W :=
  s.store record

/-- A record stamped with the counters. -/
def stamped (s : GameplayEventLog cfg W) (rawKind : UInt8) (entity : UInt16)
    (a b c d : Int16) : GameplayEvent where
  tick := s.tickValue
  frame := s.frameValue
  zone := s.zoneValue
  entity := entity
  kind := rawKind
  a := a
  b := b
  c := c
  d := d

/-- Append a record stamped with the counters, and enter the inline drain
if one is due. -/
def appendRecord (s : GameplayEventLog cfg W) (rawKind : UInt8)
    (entity : UInt16) (a b c d : Int16) : GameplayEventLog cfg W :=
  let s := { s with appendedTotal := s.appendedTotal + 1 }
  let s := s.storeLocked (s.stamped rawKind entity a b c d)
  if s.wantsInlineDrain then { s with phase := .entered } else s

/-- Emissions below the configured level are dropped before the append. -/
def emit (s : GameplayEventLog cfg W) (kind : GameplayEventKind)
    (entity : UInt16) (a b c d : Int16) : GameplayEventLog cfg W :=
  if cfg.emissionLevel < kind.minimumLevel then s
  else s.appendRecord kind.rawValue entity a b c d

/-- The periodic record. Its counters are read before its own append, and
it never asks for an inline drain. -/
def appendHeartbeatLocked (s : GameplayEventLog cfg W) :
    GameplayEventLog cfg W :=
  let eventsSplit := GameplayEvent.split32 (Int32.ofNat s.appendedTotal)
  let dropsSplit := GameplayEvent.split32 (Int32.ofNat s.droppedTotal)
  let s := { s with appendedTotal := s.appendedTotal + 1 }
  s.store (s.stamped GameplayEventKind.tickHeartbeat.rawValue s.flowValue
    eventsSplit.1 eventsSplit.2 dropsSplit.1 dropsSplit.2)

/-- The only mutator of the tick counter. The heartbeat period is
converted to 32 bits, and the conversion traps beyond them. -/
def beginTick (s : GameplayEventLog cfg W) (zone : Int) :
    Option (GameplayEventLog cfg W) :=
  let s := { s with
    zoneValue := UInt16.ofInt (max 0 (min 65535 zone))
    tickValue := s.tickValue + 1 }
  let period := cfg.limits.heartbeatSteps
  if period ≤ 0 then some s
  else if 4294967296 ≤ period then none
  else if s.tickValue % UInt32.ofInt period = 0 then
    some s.appendHeartbeatLocked
  else some s

def beginFrame (s : GameplayEventLog cfg W) : GameplayEventLog cfg W :=
  { s with frameValue := s.frameValue + 1 }

def setFlowState (s : GameplayEventLog cfg W) (state : GameFlowState) :
    GameplayEventLog cfg W :=
  { s with flowValue := wireCode state }

-- ================================================================ drain

variable (writer : GameplayEventWriter W)

def hasPendingWork (s : GameplayEventLog cfg W) : Bool :=
  s.ring.pending > 0 ∨ s.droppedSinceDrain > 0

/-- Hand lines to the writer. -/
def write (s : GameplayEventLog cfg W) (lines : List LogLine) :
    Option (GameplayEventLog cfg W) := do
  let texts ← lines.mapM (LogLine.text? cfg)
  some { s with
    writer := writer.write s.writer texts.flatten
    archive := s.archive.write lines }

def synchronize (s : GameplayEventLog cfg W) : GameplayEventLog cfg W :=
  { s with writer := writer.synchronize s.writer }

/-- Write one boundary line, numbered, and push it. -/
def outputAppend (s : GameplayEventLog cfg W) (line : LogLine) :
    Option (GameplayEventLog cfg W) := do
  let s ← { s with nextSeq := s.nextSeq + 1 }.write writer [line]
  some (s.synchronize writer)

/-- The header of the file the writer holds. -/
def beginLine (s : GameplayEventLog cfg W) (wallUTC : Text)
    (tick frame : UInt32) : LogLine :=
  .begin s.nextSeq tick frame (writer.rotationIndex s.writer) wallUTC
    (writer.currentPath s.writer) s.flowValue

/-- Open the first file if none was opened; a failed open is final. -/
def ensureFileOpen (s : GameplayEventLog cfg W) (wallUTC : Text)
    (tick frame : UInt32) : Option (Bool × GameplayEventLog cfg W) :=
  if s.openFailed then some (false, s)
  else if s.fileIsOpen then some (true, s)
  else if cfg.mode = .off then some (false, s)
  else
    let (answer, w) := writer.openFirstFile s.writer
    let s := { s with writer := w, archive := s.archive.opened answer }
    if answer then do
      let s := { s with fileIsOpen := true }
      let s ← s.outputAppend writer (s.beginLine writer wallUTC tick frame)
      some (true, s)
    else some (false, { s with openFailed := true })

/-- End the file held with its rotation line and open the next one. When
that fails, emission is disabled, but the drain under way goes on. -/
def rotateFile (s : GameplayEventLog cfg W) (wallUTC : Text)
    (tick frame : UInt32) : Option (GameplayEventLog cfg W) := do
  let s ← s.outputAppend writer (.rotate s.nextSeq tick frame
    (writer.rotationIndex s.writer) (writer.currentPath s.writer)
    (writer.nextFilePath s.writer))
  let (answer, w) := writer.rotateToNextFile s.writer
  let s := { s with writer := w, archive := s.archive.rotated answer }
  if answer then
    let s := { s with fileIsOpen := true }
    s.outputAppend writer (s.beginLine writer wallUTC tick frame)
  else some { s with openFailed := true }

/-- The locked part of `drainNow`: claim a batch, and with it the loss
window it can declare. A negative batch size traps. -/
def drainClaim (s : GameplayEventLog cfg W) :
    Option (GameplayEventLog cfg W) :=
  if cfg.mode = .off ∨ s.isShutDown then some { s with phase := .idle }
  else
    let size := min (s.ring.pending : Int) cfg.limits.drainBatchEvents
    if size < 0 then none
    else if size = 0 then some { s with phase := .idle }
    else
      let scratch := s.ring.taken size.toNat
      some { s with
        ring := s.ring.claim size.toNat
        droppedSinceDrain := 0
        phase := .claimed {
          scratch := scratch
          drops := s.droppedSinceDrain
          stampTick := (scratch.head?.map (·.tick)).getD s.tickValue
          stampFrame := (scratch.head?.map (·.frame)).getD s.frameValue } }

/-- The batch needs a file. Without one it is counted as dropped. -/
def drainOpen (s : GameplayEventLog cfg W) (batch : Batch) (wallUTC : Text) :
    Option (GameplayEventLog cfg W) := do
  let (answer, s) ←
    s.ensureFileOpen writer wallUTC batch.stampTick batch.stampFrame
  if answer then some { s with phase := .opened batch }
  else some { s with
    droppedTotal := s.droppedTotal + batch.scratch.length
    phase := .idle }

/-- A rotation is due: the file held has reached its bound. -/
def rotationDue (s : GameplayEventLog cfg W) : Bool :=
  writer.bytesInCurrentFile s.writer ≥ cfg.limits.maxFileBytes

/-- Rotation is decided per batch, before any of it is numbered. -/
def drainRotate (s : GameplayEventLog cfg W) (batch : Batch)
    (wallUTC : Text) : Option (GameplayEventLog cfg W) :=
  if s.rotationDue writer then do
    let s ← s.rotateFile writer wallUTC batch.stampTick batch.stampFrame
    some { s with phase := .rotated batch }
  else some { s with phase := .rotated batch }

/-- The records of a batch, numbered from `seq` on. -/
def recordLines (rot : Int) : Nat → List GameplayEvent → List LogLine
  | _, [] => []
  | seq, event :: rest =>
      .record seq rot event :: recordLines rot (seq + 1) rest

/-- The line that brackets the loss window, if there is one. -/
def dropLines (s : GameplayEventLog cfg W) (batch : Batch) : List LogLine :=
  if batch.drops > 0 ∧ batch.scratch ≠ [] then
    [.eventsDropped s.nextSeq batch.stampTick batch.stampFrame
      (writer.rotationIndex s.writer) batch.drops
      (s.nextSeq - 1) (s.nextSeq + 1) s.droppedTotal cfg.capacity]
  else []

/-- What a batch is written as. -/
def batchLines (s : GameplayEventLog cfg W) (batch : Batch) : List LogLine :=
  s.dropLines writer batch
    ++ recordLines (writer.rotationIndex s.writer)
      (s.nextSeq + (s.dropLines writer batch).length) batch.scratch

/-- Records that are pushed to the file at once. -/
def shouldFlush (record : GameplayEvent) : Bool :=
  ((GameplayEventKind.ofRawValue record.kind).map (·.shouldFlush)).getD false
    || record.tick % 60 == 0

/-- Write the batch. -/
def drainWrite (s : GameplayEventLog cfg W) (batch : Batch) :
    Option (GameplayEventLog cfg W) := do
  let lines := s.batchLines writer batch
  let s ← { s with nextSeq := s.nextSeq + lines.length }.write writer lines
  let wantsSync := (batch.drops > 0 && batch.scratch ≠ [])
    || batch.scratch.any shouldFlush
  some { (if wantsSync then s.synchronize writer else s) with phase := .idle }

/-- The next step of the drain under way, or of the flush that drives it:
a flush drains batch by batch until it sees no pending work. -/
def drain (s : GameplayEventLog cfg W) (wallUTC : Text) :
    Option (GameplayEventLog cfg W) :=
  match s.phase with
  | .idle =>
      if s.flushing then
        if s.hasPendingWork then some { s with phase := .entered }
        else some { s.synchronize writer with
          flushing := false
          closing := s.closing.flushDone }
      else none
  | .entered => s.drainClaim
  | .claimed batch => s.drainOpen writer batch wallUTC
  | .opened batch => s.drainRotate writer batch wallUTC
  | .rotated batch => s.drainWrite writer batch

-- ============================================================= shutdown

/-- The drain thread is free: no `drainNow` runs and no flush waits. -/
def free (s : GameplayEventLog cfg W) : Bool :=
  match s.phase with
  | .idle => !s.flushing
  | _ => false

/-- `shutdown` reads its closing counters. A second one returns at once. -/
def shutdown (s : GameplayEventLog cfg W) (reason : GameplayLogEndReason) :
    Option (GameplayEventLog cfg W) :=
  if s.isShutDown ∨ cfg.mode = .off then some s
  else match s.closing with
  | .running => some { s with closing := .called {
      reason := reason, events := s.appendedTotal
      lastTick := s.tickValue, lastFrame := s.frameValue } }
  | _ => none

/-- The terminal line, and the end of the last file. -/
def close (s : GameplayEventLog cfg W) (closer : Closer) (wallUTC : Text) :
    Option (GameplayEventLog cfg W) := do
  let (answer, s) ←
    s.ensureFileOpen writer wallUTC closer.lastTick closer.lastFrame
  if answer then do
    let s ← s.outputAppend writer (.ended s.nextSeq closer.lastTick
      closer.lastFrame (writer.rotationIndex s.writer) closer.reason
      closer.events)
    some { s with
      writer := writer.closeFile s.writer
      archive := s.archive.closed
      closing := .done }
  else some { s with closing := .done }

/-- The next step of a shutdown: flush, mark, close. The flush and the
closer run on the drain thread and wait for it; the mark is set beside
whatever that thread does. -/
def closeStep (s : GameplayEventLog cfg W) (wallUTC : Text) :
    Option (GameplayEventLog cfg W) :=
  match s.closing with
  | .called closer =>
      if s.free then
        some { s with flushing := true, closing := .draining closer }
      else none
  | .flushed closer =>
      some { s with isShutDown := true, closing := .marked closer }
  | .marked closer =>
      if s.free then s.close writer closer wallUTC else none
  | .running | .draining _ | .done => none

-- ================================================================ steps

/-- One step. The text is the wall clock's answer, should a header be
written. -/
inductive Action where
  | emit (kind : GameplayEventKind) (entity : UInt16) (a b c d : Int16)
  | appendRawKind (rawKind : UInt8) (entity : UInt16) (a b c d : Int16)
  | beginTick (zone : Int)
  | beginFrame
  | setFlowState (state : GameFlowState)
  | requestDrain
  | flush
  | drain (wallUTC : Text)
  | shutdown (reason : GameplayLogEndReason)
  | close (wallUTC : Text)

/-- The steps of the threads that play the game. -/
def Action.produces : Action → Bool
  | .emit .. | .appendRawKind .. | .beginTick _ | .beginFrame
  | .setFlowState _ => true
  | _ => false

/-- A producer may step: always beside a queue; in a single thread only
when no drain, flush or shutdown is under way. -/
def mayProduce (s : GameplayEventLog cfg W) : Bool :=
  match cfg.mode, s.closing with
  | .synchronous, .running => s.free
  | .synchronous, .done => s.free
  | .synchronous, _ => false
  | _, _ => true

/-- One step of the log. -/
def step (s : GameplayEventLog cfg W) (action : Action) :
    Option (GameplayEventLog cfg W) :=
  if action.produces ∧ ¬s.mayProduce then none
  else match action with
  | .emit kind entity a b c d => some (s.emit kind entity a b c d)
  | .appendRawKind rawKind entity a b c d =>
      some (s.appendRecord rawKind entity a b c d)
  | .beginTick zone => s.beginTick zone
  | .beginFrame => some s.beginFrame
  | .setFlowState state => some (s.setFlowState state)
  | .requestDrain =>
      if cfg.mode ≠ .asynchronous then some s
      else if s.free then some { s with phase := .entered } else none
  | .flush =>
      if cfg.mode = .off then some s
      else if s.free then some { s with flushing := true } else none
  | .drain wallUTC => s.drain writer wallUTC
  | .shutdown reason => s.shutdown reason
  | .close wallUTC => s.closeStep writer wallUTC

end GameplayEventLog

end Exolon
