/-
Leases: a claim takes the oldest task it may take, a heartbeat renews the
lease, a worker goes through the phases with it and releases it.

What a claim reads elsewhere is an argument: the clock, the new id, the rows
another transaction has locked, and which tasks the semantic plane lets it
take.
-/
import Exolon.Store.Commands

namespace Exolon.Store

open Factory Contracts Transaction

variable (digests : Digests)

-- ================================================================= claim

/-- What a claim reads beside the tables. -/
structure ClaimReadings where
  clock : Clock
  runId : Uuid
  /-- the rows another transaction has locked -/
  locked : Uuid → Bool
  /-- `factory.semantic_task_claimable` -/
  claimable : Uuid → Bool

/-- `ORDER BY scope_key,created_at DESC,switch_id DESC` -/
def KillSwitch.before (k k' : KillSwitch) : Bool :=
  k'.createdAt < k.createdAt
    || k'.createdAt == k.createdAt && uuidLt k'.switchId k.switchId

/-- The switch of a scope that counts. -/
def Db.currentSwitch (db : Db) (scope : Text) : Option KillSwitch :=
  Table.first KillSwitch.before (db.kills.filter fun k => k.scope = scope)

/-- `_is_killed` -/
def Db.isKilled (db : Db) (repositories : List Text) : Bool :=
  ("global".toList :: repositories.map ("repository:".toList ++ ·)).any
    fun scope => (db.currentSwitch scope).any KillSwitch.enabled

/-- `octet_length(repository) BETWEEN 1 AND 128` -/
def isRepository (repositoryId : Text) : Bool :=
  1 ≤ (utf8 repositoryId).length && (utf8 repositoryId).length ≤ 128

/-- `capacity_eligible_repositories` -/
def Db.capacityEligibleRepositories (db : Db) (role : RunRole)
    (repositories : List Text) : Except Failure (List Text) :=
  if (Scope.global role).ceiling ≤ db.counters (.global role) then .ok []
  else
    match role with
    | .writer => .ok repositories
    | .reader => do
        check (∀ repository ∈ repositories, isRepository repository) .database
        return repositories.filter fun repository =>
          db.counters (.repository repository)
            < (Scope.repository repository).ceiling

/-- A task the claim may take. -/
def Task.isClaimable (t : Task) (repositories : List Text)
    (reads : ClaimReadings) : Bool :=
  t.state.isQueued && repositories.contains t.repositoryId
    && reads.clock.row t.taskId < t.deadlineAt && t.settled
    && !t.hasReservation && reads.claimable t.taskId && !reads.locked t.taskId

/-- `ORDER BY t.created_at,t.task_id` -/
def Task.before (t t' : Task) : Bool :=
  t.createdAt < t'.createdAt
    || t.createdAt == t'.createdAt && uuidLt t.taskId t'.taskId

/-- The oldest of them. -/
def Db.claimed (db : Db) (repositories : List Text) (reads : ClaimReadings) :
    Option Task :=
  Table.first Task.before
    (db.tasks.filter fun t => t.isClaimable repositories reads)

/-- `max(attempt_no)` -/
def Task.lastAttempt (t : Task) : Nat := (t.runs.map Run.attemptNo).foldr max 0

/-- A task without attempts left is dead. -/
def retryExhausted (t : Task) (actor : Actor) : Except Failure Task := do
  let current := t.state
  let operation := TransitionOperation.retryExhausted
  let t ← t.applyTransition current
    { actorKind := .controlPlane, target := .dead, operation := operation }
  t.event actor .retryExhausted
    (digests.event
      (.retryExhausted t.taskId t.lastAttempt t.infrastructureRetries current))
    [("attempts", .number t.lastAttempt),
      ("infrastructure_retries", .number t.infrastructureRetries),
      ("from_state", .status current), ("target", .status .dead),
      ("operation", .operation operation)] true

/-- The new row of `runs`, with its attempt and its allocation. -/
def leasedRun (t : Task) (request : ClaimRequest) (reads : ClaimReadings)
    (hleft : t.lastAttempt + 1 ≤ t.infrastructureRetries + 1) : Run where
  runId := reads.runId
  owner := request.owner
  role := request.role
  packetDigest := t.packetDigest
  fence := t.lastFence + 1
  state := .leased
  leaseExpiresAt :=
    min (reads.clock.read 0 + seconds request.leaseSeconds) t.deadlineAt
  deadlineAt := t.deadlineAt
  attemptNo := t.lastAttempt + 1
  allocation := { repositoryId := t.repositoryId, role := request.role }
  attempt := by
    have hretries := t.retries
    omega

def Run.grant (r : Run) (taskId : Uuid) : LeaseGrant where
  taskId := taskId
  runId := r.runId
  owner := r.owner
  role := r.role
  fence := r.fence
  expiresAt := r.leaseExpiresAt
  packetDigest := r.packetDigest

/-- `capacity_allocate` of a new run: there is room in every scope, and
`capacity_one_live_writer` holds. -/
def capacityAllocate (h : Held) (r : Run) (liveWriter : Bool) :
    Except Failure Held := do
  check (isRepository r.allocation.repositoryId) .database
  check ((∀ s ∈ r.allocation.scopes, h.counters s < s.ceiling)
      ∧ ¬ (r.role = .writer ∧ liveWriter))
    (.store "capacity changed during claim")
  return { h with
    counters := fun s =>
      if s ∈ r.allocation.scopes then h.counters s + 1 else h.counters s }

/-- The task is leased to the run. -/
def lease (h : Held) (r : Run) (actor : Actor) (liveWriter : Bool) :
    Except Failure Held := do
  let current := h.task.state
  let operation := TransitionOperation.claim
  let h ← capacityAllocate
    { h with
      task := { h.task with
        lastFence := r.fence, runs := h.task.runs ++ [r] } } r liveWriter
  let t ← h.task.applyTransition current
    { actorKind := .controlPlane, target := .leased, operation := operation }
    (.set r.runId r.fence)
  let t ← t.event actor .claimed (digests.event (.claim r.runId r.fence))
    [("from_state", .status current), ("target", .status .leased),
      ("operation", .operation operation), ("run_id", .uuid r.runId),
      ("fence", .number r.fence), ("role", .role r.role)]
  return { h with task := t }

/-- A live writer's allocation. -/
def Db.liveWriter (db : Db) : Bool :=
  db.tasks.any fun t => t.runs.any fun r =>
    r.allocation.role = .writer ∧ r.allocation.releasedAt = none

/-- The selected task is leased, or is dead. -/
def claimTask (request : ClaimRequest) (actor : Actor) (reads : ClaimReadings)
    (t : Task) (db : Db) : Except Failure (Option LeaseGrant × Db) :=
  if hleft : t.lastAttempt + 1 ≤ t.infrastructureRetries + 1 then do
    let r := leasedRun t request reads hleft
    -- the keys of `runs` and `attempts`
    check (∀ t' ∈ db.tasks, ∀ r' ∈ t'.runs, r'.runId ≠ r.runId) .database
    check (∀ r' ∈ t.runs, r'.fence ≠ r.fence) .database
    let h ← lease digests (db.held t) r actor db.liveWriter
    return (some (r.grant t.taskId), db.put h)
  else do
    let dead ← retryExhausted digests t actor
    return (none, db.put { db.held t with task := dead })

/-- `prior["grant"]` -/
def grantReplay : CommandResult → Except Failure (Option LeaseGrant)
  | .grant grant => .ok grant
  | _ => .error (.store "stored claim command result is invalid")

/-- `claim` -/
def claim (request : ClaimRequest) (actor : Actor) (key : Option Digest)
    (reads : ClaimReadings) (db : Db) :
    Except Failure (Option LeaseGrant × Db) := do
  check (actor.kind = .worker ∧ request.owner = actor.actorId)
    (.store "claim owner must match worker actor")
  db.keyed digests key actor (.claim request) grantReplay .grant fun db =>
    if db.isKilled request.repositories then .ok (none, db)
    else do
      let eligible ← db.capacityEligibleRepositories request.role
        request.repositories
      match db.claimed eligible reads with
      | none => return (none, db)
      | some t => claimTask digests request actor reads t db

-- ================================================================ leases

/-- `prior["expires_at"]` -/
def expiryReplay (grant : LeaseGrant) : CommandResult → Except Failure LeaseGrant
  | .expiresAt expires => .ok { grant with expiresAt := expires }
  | _ => .error (.store "stored heartbeat command result is invalid")

/-- The lease runs half a minute more, at most to its deadline. -/
def renew (grant : LeaseGrant) (clock : Clock) (h : Held) :
    Except Failure (LeaseGrant × Held) := do
  let r ← h.task.lockGrant grant false clock
  let expires := min (clock.read 0 + seconds 30) r.deadlineAt
  return ({ grant with expiresAt := expires },
    { h with
      task := h.task.updateRun r.runId fun r =>
        { r with leaseExpiresAt := expires } })

/-- What a fenced command answers for a task that is not there. -/
def staleFence : Failure := .fence "stale or expired fence"

/-- `heartbeat` -/
def heartbeat (grant : LeaseGrant) (actor : Actor) (key : Option Digest)
    (clock : Clock) (db : Db) : Except Failure (LeaseGrant × Db) :=
  db.keyed digests key actor (.heartbeat grant.document) (expiryReplay grant)
    (fun grant => .expiresAt grant.expiresAt) fun db =>
      db.onTask grant.taskId staleFence (renew grant clock)

/-- `prior["status"]` -/
def statusReplay : CommandResult → Except Failure TaskStatus
  | .status status => .ok status
  | _ => .error (.store "stored command result is invalid")

/-- The task goes to its next phase. -/
def enterPhase (grant : LeaseGrant) (target : TaskStatus) (actor : Actor)
    (clock : Clock) (h : Held) : Except Failure (TaskStatus × Held) := do
  let r ← h.task.lockGrant grant false clock
  let current := h.task.state
  let operation := TransitionOperation.phase
  let t ← h.task.applyTransition current
    { actorKind := .worker, target := target, operation := operation }
  let t ← t.event actor .phaseTransitioned
    (digests.event (.phaseTransitioned grant.runId grant.fence target))
    [("from_state", .status current), ("target", .status target),
      ("operation", .operation operation), ("run_id", .uuid r.runId),
      ("fence", .number grant.fence)]
  return (target, { h with task := t })

/-- `transition_phase` -/
def transitionPhase (grant : LeaseGrant) (target : TaskStatus) (actor : Actor)
    (key : Option Digest) (clock : Clock) (db : Db) :
    Except Failure (TaskStatus × Db) :=
  db.keyed digests key actor (.transitionPhase grant.document target)
    statusReplay .status fun db =>
      db.onTask grant.taskId staleFence
        (enterPhase digests grant target actor clock)

/-- `release` -/
def release (grant : LeaseGrant) (outcome : Outcome) (actor : Actor)
    (key : Option Digest) (clock : Clock) (db : Db) :
    Except Failure (TaskStatus × Db) :=
  db.keyed digests key actor
    (.release grant.taskId grant.runId grant.fence outcome.value)
    statusReplay .status fun db =>
      db.onTask grant.taskId staleFence fun h =>
        releaseLocked digests.event h grant outcome actor false false clock

end Exolon.Store
