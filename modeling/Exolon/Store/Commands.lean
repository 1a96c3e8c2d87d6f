/-
The tables of the store, and the commands with a key.

A command with an idempotency key records its result under it. A call that
finds its key recorded answers the recorded result, where actor, action and
request are the same ones, and raises otherwise (`commandReplay`); a call
that does not find it runs, and records (`keyed`).

A request is what is digested of a call, in the words of its action; which
digest a document has is left to `Digests`. A key is a digest of the
caller's: the column takes nothing else.
-/
import Exolon.Factory.Contracts
import Exolon.Store.Lease

namespace Exolon.Store

open Factory Contracts Transaction

-- ============================================================== requests

/-- A lease in a request: a grant without its expiry. -/
structure GrantDocument where
  taskId : Uuid
  runId : Uuid
  owner : Text
  role : RunRole
  fence : Nat
  packetDigest : Digest
  deriving DecidableEq

def LeaseGrant.document (grant : LeaseGrant) : GrantDocument where
  taskId := grant.taskId
  runId := grant.runId
  owner := grant.owner
  role := grant.role
  fence := grant.fence
  packetDigest := grant.packetDigest

structure ClaimRequest where
  owner : Text
  role : RunRole
  repositories : List Text
  leaseSeconds : Nat

/-- The value of the enumeration. -/
def FailureClass.value : FailureClass → Text
  | .databaseUnavailable => "database_unavailable".toList
  | .workerLost => "worker_lost".toList
  | .providerTransportUnavailable => "provider_transport_unavailable".toList
  | .temporaryResourceExhaustion => "temporary_resource_exhaustion".toList
  | .validation => "validation".toList
  | .policy => "policy".toList
  | .authentication => "authentication".toList
  | .unsupportedCapability => "unsupported_capability".toList
  | .budget => "budget".toList
  | .security => "security".toList
  | .staleInput => "stale_input".toList
  | .protocol => "protocol".toList
  | .providerQuality => "provider_quality".toList

/-- `outcome_value` -/
def Outcome.value : Outcome → Text
  | .failure c => c.value
  | .completed => "completed".toList
  | .other outcome => outcome

/-- The `command` of a call, by its action. -/
inductive Request
  | intake (intake : TaskIntakeV1)
  | claim (request : ClaimRequest)
  | heartbeat (grant : GrantDocument)
  | transitionPhase (grant : GrantDocument) (target : TaskStatus)
  | release (taskId runId : Uuid) (fence : Nat) (outcome : Text)
  | reserveBudget (taskId runId : Uuid) (fence cost tokens wall : Nat)
      (reasonDigest : Digest)
  | observeUsage (taskId runId : Uuid) (fence : Nat) (providerCallId : Text)
      (priceTableDigest : Option Text) (cost tokens output : Nat)
      (components : UsageComponents)
  | setKill (scope : Text) (enabled : Bool) (reason : Text)
  | reconcile (limit : Nat) (cursor : Option Uuid)
  | cancel (taskId : Uuid) (reason : Text)
  | executionFinalize (taskId runId : Uuid) (packetDigest : Digest)
  | executionPropose (grant : GrantDocument) (event : Text)
  /-- a command of another part of the factory -/
  | other (action document : Text)

/-- `action` of a recorded command -/
def Request.action : Request → Text
  | .intake _ => "intake".toList
  | .claim _ => "claim".toList
  | .heartbeat _ => "heartbeat".toList
  | .transitionPhase _ _ => "transition_phase".toList
  | .release _ _ _ _ => "release".toList
  | .reserveBudget _ _ _ _ _ _ _ => "reserve_budget".toList
  | .observeUsage _ _ _ _ _ _ _ _ _ => "observe_usage".toList
  | .setKill _ _ _ => "set_kill".toList
  | .reconcile _ _ => "reconcile".toList
  | .cancel _ _ => "cancel".toList
  | .executionFinalize _ _ _ => "execution_finalize".toList
  | .executionPropose _ _ => "execution_propose".toList
  | .other action _ => action

/-- `canonical_digest`, of the documents the store digests. -/
structure Digests where
  event : EventIdentity → Digest
  request : Request → Digest
  /-- `_intake_command_key` -/
  intakeCommandKey : Text → Digest
  /-- the key of the observation of a proposal's command -/
  usageObservationKey : Digest → Digest

-- =============================================================== results

/-- `IntakeResult` -/
structure IntakeResult where
  task : TaskProjection
  created : Bool

/-- `UsageResult` -/
structure UsageResult where
  observationId : Uuid
  created : Bool

/-- `ReconcileResult` -/
structure ReconcileResult where
  candidates : Nat
  repaired : Nat
  cursor : Option Uuid

/-- `result` of a recorded command -/
inductive CommandResult
  | intake (result : IntakeResult)
  | grant (grant : Option LeaseGrant)
  | expiresAt (expires : Time)
  | status (status : TaskStatus)
  | reservation (reservationId : Uuid)
  | observation (result : UsageResult)
  | accountingBlocked
  | enabled (enabled : Bool)
  | reconciled (result : ReconcileResult)
  | cancelled (taskId : Uuid)
  | finalized (result : WorkspaceResult)
  | proposed
  | other

-- ================================================================ tables

/-- `command_results` -/
structure CommandRow where
  idempotencyKey : Digest
  actorId : Text
  action : Text
  requestDigest : Digest
  result : CommandResult

/-- `kill_switches` -/
structure KillSwitch where
  switchId : Uuid
  scope : Text
  enabled : Bool
  idempotencyKey : Digest
  createdAt : Time

/-- The tables. -/
structure Db where
  tasks : List Task := []
  counters : Scope → Nat := fun _ => 0
  commands : List CommandRow := []
  kills : List KillSwitch := []

namespace Db

/-- The row of a task. -/
def task? (db : Db) (taskId : Uuid) : Option Task :=
  db.tasks.find? fun t => t.taskId = taskId

/-- Lock the counters and a task. -/
def held (db : Db) (t : Task) : Held where
  counters := db.counters
  task := t

/-- Write the counters and the task. -/
def put (db : Db) (h : Held) : Db :=
  { db with
    counters := h.counters
    tasks := Table.update (fun t => t.taskId = h.task.taskId) (fun _ => h.task)
      db.tasks }

/-- A command on one task. -/
def onTask {α : Type} (db : Db) (taskId : Uuid) (missing : Failure)
    (command : Held → Except Failure (α × Held)) :
    Except Failure (α × Db) := do
  let t ← fetch (db.task? taskId) missing
  let answer ← command (db.held t)
  return (answer.1, db.put answer.2)

-- =========================================================== keyed calls

variable (digests : Digests)

/-- `_command_replay` -/
def commandReplay (db : Db) (key : Option Digest) (actor : Actor)
    (request : Request) : Except Failure (Option CommandResult) :=
  match key.bind fun key => db.commands.find? fun c => c.idempotencyKey = key
  with
  | none => .ok none
  | some row => do
      check (row.actorId = actor.actorId ∧ row.action = request.action
          ∧ row.requestDigest = digests.request request)
        (.store "idempotency key reused with different command")
      return some row.result

/-- `_record_command`; the key is a primary key. -/
def recordCommand (db : Db) (key : Option Digest) (actor : Actor)
    (request : Request) (result : CommandResult) : Except Failure Db :=
  match key with
  | none => .ok db
  | some key => do
      check (∀ c ∈ db.commands, c.idempotencyKey ≠ key) .database
      return { db with
        commands := db.commands ++ [{
          idempotencyKey := key
          actorId := actor.actorId
          action := request.action
          requestDigest := digests.request request
          result := result }] }

/-- A keyed command: the recorded result, as it is read back, or the body,
recorded. -/
def keyed {α : Type} (db : Db) (key : Option Digest) (actor : Actor)
    (request : Request) (replay : CommandResult → Except Failure α)
    (record : α → CommandResult) (body : Db → Except Failure (α × Db)) :
    Except Failure (α × Db) := do
  match ← db.commandReplay digests key actor request with
  | some prior =>
      let a ← replay prior
      return (a, db)
  | none =>
      let answer ← body db
      let db ← answer.2.recordCommand digests key actor request
        (record answer.1)
      return (answer.1, db)

end Db

end Exolon.Store
