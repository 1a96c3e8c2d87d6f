/-
The intake of tasks.

An intake answers the task it has queued before, by its request (a recorded
result) or by its work (`idempotency_key`), or it queues a new generation of
its source, and the tasks of the older generations are superseded.

What an intake reads elsewhere is an argument: the clock, the new id, the
authority of its observation, and the answers of the other parts of the
factory.
-/
import Exolon.Store.Commands

namespace Exolon.Store

open Factory Contracts Transaction

variable (digests : Digests)

-- ================================================================ intake

/-- `factory.semantic_repair_intake_status` -/
inductive RepairIntakeStatus
  | ordinary
  | allowed
  | bound
  | digestMismatch
  | actorMismatch
  | notPending
  | headMismatch
  | other
  deriving DecidableEq

/-- What an intake reads beside the tables. -/
structure IntakeReadings where
  clock : Clock
  taskId : Uuid
  /-- `_verify_m0_authority` -/
  trusted : Bool
  repairStatus : RepairIntakeStatus
  /-- `execution_recovery_cancel_task` of a superseded task -/
  projected : Uuid → Bool

/-- `HEX64` -/
def isHex64 (text : Text) : Bool :=
  text.length == 64
    && text.all fun c => ('0' ≤ c && c ≤ '9') || ('a' ≤ c && c ≤ 'f')

def isRepairSource (intake : TaskIntakeV1) : Bool :=
  intake.sourceType == "api".toList && isHex64 intake.sourceId

/-- The checks of a source that may be a repair proposal. -/
def checkRepairSource (intake : TaskIntakeV1) (status : RepairIntakeStatus) :
    Except Failure Unit :=
  match status with
  | .digestMismatch =>
      .error (.store "repair proposal source digest mismatch")
  | .actorMismatch =>
      .error (.store
        "repair proposal source requires the exact repair child broker")
  | .notPending =>
      .error (.store "repair child broker source is not a pending proposal")
  | .headMismatch =>
      .error (.store
        "repair child intake head does not match proposal parent head")
  | .other => .error (.store "repair child intake is not authorized")
  | .ordinary => .ok ()
  | .allowed | .bound =>
      check (intake.m0Authority.exactHeadSha
          = some intake.governance.exactHeadSha)
        (.store "repair child intake head does not match proposal parent head")

/-- The task is of the identity. -/
def Task.OfIdentity (t : Task) (repositoryId sourceType sourceId : Text) :
    Prop :=
  t.repositoryId = repositoryId ∧ t.sourceType = sourceType
    ∧ t.sourceId = sourceId

instance (t : Task) (repositoryId sourceType sourceId : Text) :
    Decidable (t.OfIdentity repositoryId sourceType sourceId) :=
  inferInstanceAs (Decidable (_ ∧ _))

/-- The task is of the identity of the intake. -/
abbrev Task.IsOf (t : Task) (intake : TaskIntakeV1) : Prop :=
  t.OfIdentity intake.repositoryId intake.sourceType intake.sourceId

/-- The body of the loop over the older tasks: the task is superseded,
unless it is terminal. -/
def supersedeTask (intake : TaskIntakeV1) (actor : Actor)
    (reads : IntakeReadings) (oldId : Uuid) (h : Held) :
    Except Failure (Unit × Held) := do
  let answer ← terminalizeTask .superseded reads.clock 3 h
  match answer.1 with
  | none => return ((), answer.2)
  | some result =>
      check (reads.projected oldId)
        (.store "execution supersede projection failed")
      let t ← answer.2.task.event actor .superseded
        (digests.event (.superseded intake.intentDigest))
        [("replacement_intent_digest", .digest intake.intentDigest),
          ("accounting_quarantined", .flag result.accountingQuarantined),
          ("from_state", .status result.fromState),
          ("target", .status .superseded),
          ("operation", .operation result.operation)] true
      return ((), { answer.2 with task := t })

/-- A task of the same identity is superseded. -/
def supersede (intake : TaskIntakeV1) (actor : Actor)
    (reads : IntakeReadings) (oldId : Uuid) (db : Db) : Except Failure Db := do
  let answer ← db.onTask oldId (.key oldId)
    (supersedeTask digests intake actor reads oldId)
  return answer.2

/-- The tasks of the old ids are superseded, one after the other. -/
def supersedeAll (intake : TaskIntakeV1) (actor : Actor)
    (reads : IntakeReadings) : List Uuid → Db → Except Failure Db
  | [], db => .ok db
  | oldId :: rest, db => do
      let db ← supersede digests intake actor reads oldId db
      supersedeAll intake actor reads rest db

/-- The new row of `tasks`. -/
def queuedTask (intake : TaskIntakeV1) (reads : IntakeReadings)
    (generation : Nat) : Task where
  taskId := reads.taskId
  repositoryId := intake.repositoryId
  sourceType := intake.sourceType
  sourceId := intake.sourceId
  state := .queued
  generation := generation
  intentDigest := intake.intentDigest
  workKey := intake.idempotencyKey
  packetDigest := intake.intentDigest
  deadlineAt := reads.clock.now + seconds intake.limits.wallSeconds
  createdAt := reads.clock.now
  costLimit := intake.limits.maxCostUsdMicros
  tokenLimit := intake.limits.maxTokenUnits
  outputLimit := intake.limits.maxOutputBytes
  eventLimit := intake.limits.maxEvents
  wallLimit := intake.limits.wallSeconds
  repairLimit := intake.limits.semanticRepairs
  infrastructureRetries := intake.limits.infrastructureRetries
  retries := intake.limits.bounded.2.2.2.2.2

/-- What an insert of the row asks for: the primary key,
`UNIQUE(intent_digest)`, `UNIQUE(idempotency_key)`, the unique generation and
`tasks_one_active_identity`. -/
def Db.checkTask (db : Db) (t : Task) : Except Failure Unit := do
  check (∀ t' ∈ db.tasks, t'.taskId ≠ t.taskId
      ∧ t'.intentDigest ≠ t.intentDigest ∧ t'.workKey ≠ t.workKey)
    .database
  check (∀ t' ∈ db.tasks,
      t'.OfIdentity t.repositoryId t.sourceType t.sourceId →
        t'.generation ≠ t.generation ∧ t'.state.isTerminal)
    .database

/-- A new generation: the older tasks are superseded, and the task is
queued. -/
def createGeneration (intake : TaskIntakeV1) (actor : Actor)
    (reads : IntakeReadings) (db : Db) : Except Failure (IntakeResult × Db) :=
  do
  let oldIds := (db.tasks.filter fun t =>
      t.IsOf intake ∧ t.state.isTerminal = false).map Task.taskId
  let db ← supersedeAll digests intake actor reads oldIds db
  let generation := ((db.tasks.filter fun t => t.IsOf intake).map
    Task.generation).foldr max 0 + 1
  let t := queuedTask intake reads generation
  db.checkTask t
  let t ← t.event actor .intakeQueued intake.idempotencyKey
    [("generation", .number generation)]
  return ({ task := t.projection, created := true },
    { db with tasks := db.tasks ++ [t] })

/-- `_intake_result_from_command` -/
def intakeReplay : CommandResult → Except Failure IntakeResult
  | .intake result => do
      check (1 ≤ result.task.generation)
        (.store "stored intake command result is invalid")
      return result
  | _ => .error (.store "stored intake command result is invalid")

/-- `intake` -/
def intake (intake : TaskIntakeV1) (actor : Actor) (reads : IntakeReadings)
    (db : Db) : Except Failure (IntakeResult × Db) :=
  db.keyed digests (some (digests.intakeCommandKey intake.requestId)) actor
    (.intake intake) intakeReplay .intake fun db => do
      let status :=
        if isRepairSource intake then reads.repairStatus else .ordinary
      checkRepairSource intake status
      check reads.trusted (.authority
        "M0 authority is not trusted for repository/policy/action")
      match db.tasks.find? fun t => t.workKey = intake.idempotencyKey with
      | some t => return ({ task := t.projection, created := false }, db)
      | none => do
          check (status ≠ .bound)
            (.store "bound repair proposal source cannot be superseded")
          createGeneration digests intake actor reads db

end Exolon.Store
