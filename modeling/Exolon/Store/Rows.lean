/-
The rows of the factory's store.

A row that names a task is kept with its task, and one that names a run with
its run: the schema has the foreign keys, and `UNIQUE(run_id)` where there is
one row of a run (its attempt, its allocation). A task's fence is the last
one of `lease_sequences`, and no counter is the same as a counter of zero.

A `Clock` is what one transaction reads of the time; `clock_timestamp()` is
another at every reading, so nothing is said of their order.
-/
import Exolon.Lib.Table
import Exolon.Store.States

namespace Exolon.Store

open Factory

-- ================================================================== times

/-- A point in time, in microseconds. -/
abbrev Time := Int

/-- A number of seconds. -/
def seconds (n : Nat) : Time := n * 1000000

/-- The readings of a transaction: its `now()`, the `clock_timestamp()` at
the row of an id where a query looks at many rows, and the others in order. -/
structure Clock where
  now : Time
  row : Uuid → Time
  read : Nat → Time

/-- A `uuid` is compared byte by byte, and so is its text. -/
def uuidLt (u v : Uuid) : Bool := u.text < v.text

-- ============================================================== capacity

inductive RunRole
  | reader
  | writer
  deriving DecidableEq

/-- `scope_key` of `capacity_counters` -/
inductive Scope
  | global (role : RunRole)
  | repository (repositoryId : Text)
  deriving DecidableEq

/-- `capacity_counters_canonical_policy` -/
def Scope.ceiling : Scope → Nat
  | .global .reader => 20
  | .global .writer => 1
  | .repository _ => 10

/-- `keys` of the capacity functions: a reader counts in its repository
too. -/
def scopes (role : RunRole) (repositoryId : Text) : List Scope :=
  match role with
  | .writer => [.global .writer]
  | .reader => [.global .reader, .repository repositoryId]

/-- `capacity_allocations` -/
structure Allocation where
  repositoryId : Text
  role : RunRole
  releasedAt : Option Time := none

def Allocation.scopes (a : Allocation) : List Scope :=
  Store.scopes a.role a.repositoryId

-- ================================================================== runs

inductive RunStatus
  | leased
  | released
  | failed
  | expired
  | completed
  deriving DecidableEq

/-- `workspace_results`: what the execution of a run came to -/
structure WorkspaceResult where
  workspaceResultDigest : Digest
  taskPacketDigest : Digest
  workspaceSnapshotDigest : Digest
  m4Status : TaskStatus
  deriving DecidableEq

/-- `runs`, with the `attempt_no` of its attempt, its allocation and its
result -/
structure Run where
  runId : Uuid
  owner : Text
  role : RunRole
  packetDigest : Digest
  fence : Nat
  state : RunStatus
  leaseExpiresAt : Time
  deadlineAt : Time
  releasedAt : Option Time := none
  attemptNo : Nat
  allocation : Allocation
  result : Option WorkspaceResult := none
  /-- the check of `attempts` -/
  attempt : 1 ≤ attemptNo ∧ attemptNo ≤ 3

/-- `LeaseGrant` -/
structure LeaseGrant where
  taskId : Uuid
  runId : Uuid
  owner : Text
  role : RunRole
  fence : Nat
  expiresAt : Time
  packetDigest : Digest
  deriving DecidableEq

-- ================================================================ budgets

/-- `budget_reservations` -/
structure Reservation where
  reservationId : Uuid
  runId : Uuid
  idempotencyKey : Digest
  cost : Nat
  tokens : Nat
  wall : Nat
  reasonDigest : Digest
  releasedAt : Option Time := none

/-- The three token buckets of the first version, and two more. -/
structure UsageComponents where
  inputTokens : Nat := 0
  outputTokens : Nat := 0
  reasoningTokens : Nat := 0
  cachedInputTokens : Nat := 0
  cacheWriteTokens : Nat := 0
  deriving DecidableEq

/-- What is observed of one call to a provider. -/
structure UsageEvidence where
  priceTableDigest : Digest
  cost : Nat
  tokens : Nat
  output : Nat
  components : UsageComponents
  deriving DecidableEq

/-- `usage_observations` -/
structure Observation where
  observationId : Uuid
  runId : Uuid
  providerCallId : Text
  evidence : UsageEvidence

-- ================================================================= events

inductive EventAction
  | intakeQueued
  | superseded
  | retryExhausted
  | claimed
  | phaseTransitioned
  | released
  | orphanReconciled
  | deadlineExpired
  | cancelled
  deriving DecidableEq

/-- A value in an event's metadata. -/
inductive MetadataValue
  | text (value : Text)
  | number (value : Nat)
  | flag (value : Bool)
  | status (value : TaskStatus)
  | operation (value : TransitionOperation)
  | role (value : RunRole)
  | digest (value : Digest)
  | uuid (value : Uuid)
  deriving DecidableEq

/-- `task_events` -/
structure Event where
  sequence : Nat
  idempotencyKey : Digest
  actorId : Text
  action : EventAction
  metadata : List (String × MetadataValue)
  mandatoryCleanup : Bool

-- ================================================================== tasks

/-- `tasks`, with the rows that name the task -/
structure Task where
  taskId : Uuid
  repositoryId : Text
  sourceType : Text
  sourceId : Text
  state : TaskStatus
  generation : Nat
  /-- `intent_digest` of the accepted intent -/
  intentDigest : Digest
  /-- `idempotency_key` of the accepted intent -/
  workKey : Digest
  packetDigest : Digest
  currentRunId : Option Uuid := none
  currentFence : Option Nat := none
  deadlineAt : Time
  createdAt : Time
  costLimit : Nat
  tokenLimit : Nat
  outputLimit : Nat
  eventLimit : Nat
  wallLimit : Nat
  costReserved : Nat := 0
  costObserved : Nat := 0
  tokensReserved : Nat := 0
  tokensObserved : Nat := 0
  wallReserved : Nat := 0
  accountingBlocked : Bool := false
  repairLimit : Nat
  repairCount : Nat := 0
  infrastructureRetries : Nat
  lastFence : Nat := 0
  runs : List Run := []
  reservations : List Reservation := []
  observations : List Observation := []
  events : List Event := []
  /-- `tasks_infrastructure_retries_closed` -/
  retries : infrastructureRetries ≤ 2

namespace Task

/-- The events that count against the limit. -/
def ordinaryEvents (t : Task) : Nat :=
  t.events.countP fun e => !e.mandatoryCleanup

/-- An open reservation of the task. -/
def hasReservation (t : Task) : Bool :=
  t.reservations.any fun b => b.releasedAt.isNone

/-- Nothing is blocked and no total is reserved. -/
def settled (t : Task) : Bool :=
  !t.accountingBlocked && t.costReserved == 0 && t.tokensReserved == 0
    && t.wallReserved == 0

/-- `accounting_quarantined` -/
def quarantined (t : Task) : Bool := !t.settled || t.hasReservation

/-- Write a run of the task. -/
def updateRun (t : Task) (runId : Uuid) (f : Run → Run) : Task :=
  { t with runs := Table.update (fun r => r.runId = runId) f t.runs }

@[simp] theorem updateRun_runs (t : Task) (runId : Uuid) (f : Run → Run) :
    (t.updateRun runId f).runs
      = Table.update (fun r => r.runId = runId) f t.runs := rfl

theorem updateRun_updateRun (t : Task) (runId : Uuid) (f g : Run → Run)
    (h : ∀ r, (f r).runId = r.runId) :
    (t.updateRun runId f).updateRun runId g
      = t.updateRun runId fun r => g (f r) := by
  unfold updateRun
  dsimp only
  rw [Table.update_update]
  intro r hr
  rw [h r]
  exact hr

end Task

/-- `FactoryTaskV1` -/
structure TaskProjection where
  taskId : Uuid
  repositoryId : Text
  status : TaskStatus
  generation : Nat
  intentDigest : Digest
  packetDigest : Digest
  deadlineAt : Time

def Task.projection (t : Task) : TaskProjection where
  taskId := t.taskId
  repositoryId := t.repositoryId
  status := t.state
  generation := t.generation
  intentDigest := t.intentDigest
  packetDigest := t.packetDigest
  deadlineAt := t.deadlineAt

-- ================================================================= errors

/-- What a call raises: a `StoreError` or one of its subclasses, a
`KeyError`, or an error of the database. -/
inductive Failure
  | store (reason : String)
  | fence (reason : String)
  | budget (reason : String)
  | authority (reason : String)
  | unavailable (reason : String)
  | transition (reason : String)
  | integrity (reason : String)
  | key (taskId : Uuid)
  | database
  deriving DecidableEq

/-- What a command on one task has locked: the counters and the task. -/
structure Held where
  counters : Scope → Nat
  task : Task

end Exolon.Store
