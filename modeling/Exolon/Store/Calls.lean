/-
The other calls of the store, and its runs.

Every call is one transaction: it reads the tables and writes them, or it
raises and has written nothing. `observe_usage` and the proposal of a usage
also commit a refusal, `blocked`, and raise after it.

What a call reads elsewhere is an argument: the clock, the new ids, and the
answers of the other parts of the factory.
-/
import Exolon.Store.Budget
import Exolon.Store.Intake

namespace Exolon.Store

open Factory Contracts Transaction

variable (digests : Digests)

-- ================================================================= kills

/-- `prior["enabled"]` -/
def enabledReplay : CommandResult → Except Failure Bool
  | .enabled enabled => .ok enabled
  | _ => .error (.store "stored kill command result is invalid")

/-- `set_kill` -/
def setKill (scope : Text) (enabled : Bool) (reason : Text) (key : Digest)
    (actor : Actor) (switchId : Uuid) (clock : Clock) (db : Db) :
    Except Failure (Bool × Db) := do
  check (scope = "global".toList ∨ "repository:".toList <+: scope)
    (.store "invalid kill scope")
  check (reason ≠ [] ∧ reason.length ≤ 128) (.store "invalid kill evidence")
  db.keyed digests (some key) actor (.setKill scope enabled reason)
    enabledReplay .enabled fun db => do
      check (∀ k ∈ db.kills, k.switchId ≠ switchId) .database
      -- ON CONFLICT(idempotency_key) DO NOTHING
      if ∃ k ∈ db.kills, k.idempotencyKey = key then return (enabled, db)
      else
        return (enabled, { db with
          kills := db.kills ++ [{
            switchId := switchId
            scope := scope
            enabled := enabled
            idempotencyKey := key
            createdAt := clock.now }] })

-- ======================================================== reconciliation

/-- A row the reconciliation looks at: a live run whose lease has run out, or
a queued task past its deadline. -/
inductive Candidate
  | run (taskId runId : Uuid) (owner : Text) (role : RunRole) (fence : Nat)
      (expires : Time) (packetDigest : Digest)
  | taskDeadline (taskId : Uuid)

def Candidate.taskId : Candidate → Uuid
  | .run taskId _ _ _ _ _ _ => taskId
  | .taskDeadline taskId => taskId

/-- A run that holds its lease and its capacity. -/
def Run.isLive (r : Run) : Bool :=
  r.releasedAt = none ∧ r.allocation.releasedAt = none

/-- The candidates of a task. -/
def Task.candidates (t : Task) (clock : Clock) : List Candidate :=
  ((t.runs.filter fun r => r.isLive ∧ r.leaseExpiresAt ≤ clock.row r.runId).map
    fun r => .run t.taskId r.runId r.owner r.role r.fence r.leaseExpiresAt
      r.packetDigest)
    ++ if t.state.isQueued ∧ t.currentRunId = none
        ∧ t.deadlineAt ≤ clock.row t.taskId ∧ !t.runs.any Run.isLive then
      [.taskDeadline t.taskId]
    else []

/-- The candidates behind the cursor, by their task. -/
def Db.candidates (db : Db) (cursor : Option Uuid) (limit : Nat)
    (clock : Clock) : List Candidate :=
  let rows := (db.tasks.flatMap fun t => t.candidates clock).filter fun c =>
    cursor.all fun cursor => uuidLt cursor c.taskId
  (rows.mergeSort fun c c' => !uuidLt c'.taskId c.taskId).take limit

/-- `UPDATE factory.runs SET state='expired'`, and one more repair where the
limit leaves one. -/
def Task.expireRun (t : Task) (runId : Uuid) (repairs : Bool) : Task :=
  let t := t.updateRun runId fun r => { r with state := .expired }
  if repairs then { t with repairCount := t.repairCount + 1 } else t

/-- An expired lease is released as a failure, and its run is expired. -/
def releaseExpired (h : Held) (grant : LeaseGrant) (failure : FailureClass)
    (actor : Actor) (deadlineExpired repairs : Bool) (clock : Clock) :
    Except Failure Held := do
  let answer ← releaseLocked digests.event h grant (.failure failure) actor
    true deadlineExpired clock
  return { answer.2 with task := answer.2.task.expireRun grant.runId repairs }

/-- One candidate of `reconcile`: whether it was repaired. -/
def reconcileCandidate (candidate : Candidate) (actor : Actor) (clock : Clock)
    (h : Held) : Except Failure (Bool × Held) :=
  match candidate with
  | .taskDeadline _ => do
      let answer ← terminalizeExpiredUnleasedTask digests.event h.task actor
        clock
      return (answer.1, { h with task := answer.2 })
  | .run taskId runId owner role fence expires packetDigest =>
      if h.capacityLockRun runId then
        let t := h.task
        let deadlineExpired : Bool := t.deadlineAt ≤ clock.read 2
        let repairs : Bool := t.repairCount < t.repairLimit
        let failure :=
          if deadlineExpired || repairs then FailureClass.workerLost
          else .providerQuality
        if t.state.isLeased ∧ t.currentRunId = some runId
            ∧ t.currentFence = some fence then do
          let h ← releaseExpired digests h
            { taskId := taskId
              runId := runId
              owner := owner
              role := role
              fence := fence
              expiresAt := expires
              packetDigest := packetDigest } failure actor deadlineExpired
            (!deadlineExpired && repairs) clock
          return (true, h)
        else do
          let answer ← closeOrphanRun digests.event h runId actor clock
          if answer.1 then
            let expired ← terminalizeExpiredUnleasedTask digests.event
              answer.2.task actor clock
            return (true, { answer.2 with task := expired.2 })
          else return (false, answer.2)
      else .ok (false, h)

/-- The candidates that are handled before the time runs out. -/
def reconcileAll (actor : Actor) (clocks : Nat → Clock) :
    List Candidate → Nat → Db → Except Failure (Nat × Db)
  | [], _, db => .ok (0, db)
  | candidate :: rest, n, db => do
      let answer ← db.onTask candidate.taskId
        (.store "reconciliation task is missing")
        (reconcileCandidate digests candidate actor (clocks n))
      let others ← reconcileAll actor clocks rest (n + 1) answer.2
      return (others.1 + (if answer.1 then 1 else 0), others.2)

/-- The allocations that are live in a scope. -/
def Task.live (t : Task) (s : Scope) : Nat :=
  t.runs.countP fun r => r.allocation.releasedAt = none
    ∧ s ∈ r.allocation.scopes

/-- The allocations that are live in a scope. -/
def Db.live (db : Db) (s : Scope) : Nat := (db.tasks.map fun t => t.live s).sum

/-- What a reconciliation reads beside the tables: the clocks of the query
and of each candidate, how many candidates it handles before its time runs
out or a statement is cancelled, and whether it still commits. -/
structure ReconcileReadings where
  clock : Clock
  clocks : Nat → Clock
  handled : Nat
  inTime : Bool
  /-- the repositories with a counter -/
  repositories : List Text

/-- `_capacity_consistent` -/
def Db.isCapacityConsistent (db : Db) (repositories : List Text) : Bool :=
  (.global .reader :: .global .writer :: repositories.map .repository).all
    fun s => db.counters s == db.live s

/-- `prior` of `reconcile` -/
def reconcileReplay : CommandResult → Except Failure ReconcileResult
  | .reconciled result => .ok result
  | _ => .error (.store "stored reconcile command result is invalid")

/-- `reconcile` -/
def reconcile (limit : Nat) (cursor : Option Uuid) (actor : Actor)
    (key : Option Digest) (reads : ReconcileReadings) (db : Db) :
    Except Failure (ReconcileResult × Db) := do
  check (db.isCapacityConsistent reads.repositories)
    (.store "capacity counters do not match live allocations")
  db.keyed digests key actor (.reconcile limit cursor) reconcileReplay
    .reconciled fun db => do
      let candidates := db.candidates cursor limit reads.clock
      -- the check of `reconciliation_runs`
      check (candidates.length ≤ 100) .database
      let handled := candidates.take reads.handled
      let answer ← reconcileAll digests actor reads.clocks handled 0 db
      check reads.inTime (.unavailable "reconciliation deadline exceeded")
      return ({
        candidates := candidates.length
        repaired := answer.1
        cursor := handled.getLast?.map Candidate.taskId }, answer.2)

-- ================================================================ cancel

/-- The task is cancelled, unless it is terminal. -/
def cancelTask (reason : Text) (key : Digest) (actor : Actor) (clock : Clock)
    (projected : Bool) (h : Held) : Except Failure (Unit × Held) := do
  let answer ← terminalizeTask .cancelled clock 3 h
  match answer.1 with
  | none => return ((), answer.2)
  | some result =>
      check projected (.store "execution cancellation projection failed")
      let t ← answer.2.task.event actor .cancelled key
        [("reason", .text reason),
          ("accounting_quarantined", .flag result.accountingQuarantined),
          ("from_state", .status result.fromState),
          ("target", .status .cancelled),
          ("operation", .operation result.operation)] true
      return ((), { answer.2 with task := t })

/-- `cancel`; `authorized` is `authorize_repository` -/
def cancel (taskId : Uuid) (reason : Text) (key : Digest) (actor : Actor)
    (authorized : Text → Bool) (projected : Bool) (clock : Clock) (db : Db) :
    Except Failure (TaskProjection × Db) := do
  let t ← fetch (db.task? taskId) (.key taskId)
  check (authorized t.repositoryId) (.authority "repository is not authorized")
  let answer ← db.keyed digests (some key) actor (.cancel taskId reason)
    (fun _ => .ok ()) (fun _ => .cancelled taskId) fun db =>
      db.onTask taskId (.key taskId)
        (cancelTask reason key actor clock projected)
  let t ← fetch (answer.2.task? taskId) (.key taskId)
  return (t.projection, answer.2)

-- ============================================================= execution

/-- `prior["result"]`, which has to be the stored one -/
def finalizeReplay (db : Db) (grant : LeaseGrant) :
    CommandResult → Except Failure WorkspaceResult
  | .finalized result => do
      check (((db.task? grant.taskId).bind fun t =>
          (t.runs.find? fun r => r.runId = grant.runId).bind Run.result)
          = some result)
        (.store "persisted finalization command is corrupt")
      return result
  | _ => .error (.store "persisted finalization command is corrupt")

/-- `finalize_execution` -/
def finalizeExecution (grant : LeaseGrant) (packetDigest : Digest)
    (plane : ExecutionPlane) (actor : Actor) (key : Option Digest)
    (clock : Clock) (db : Db) : Except Failure (WorkspaceResult × Db) :=
  db.keyed digests key actor
    (.executionFinalize grant.taskId grant.runId packetDigest)
    (finalizeReplay db grant) .finalized fun db =>
      db.onTask grant.taskId (.fence "execution cannot be finalized") fun h =>
        match (h.task.runs.find? fun r => r.runId = grant.runId).bind
          Run.result with
        | some result => do
            check (result.taskPacketDigest = packetDigest
                ∧ result.workspaceSnapshotDigest
                  = plane.workspaceSnapshotDigest)
              (.store
                "workspace result already exists with different facts")
            return (result, h)
        | none =>
            finalizeLocked digests.event h grant packetDigest plane actor clock

/-- `_proposal_context`, and the usage of a proposal of the second version:
`blocked` where its usage blocks the accounting -/
def commitExecutionProposal (grant : LeaseGrant) (event : Text)
    (usage : Option (UsageReport × Uuid)) (actor : Actor)
    (key : Option Digest) (admitted proposes : Bool) (clock : Clock) (db : Db) :
    Except Failure (Bool × Db) := do
  check admitted (.store "execution proposal does not match command")
  match ← db.commandReplay digests key actor
      (.executionPropose grant.document event) with
  | some _ => return (false, db)
  | none =>
      let t ← fetch (db.task? grant.taskId) staleFence
      let _ ← t.lockGrant grant false clock
      let answer ← match usage with
        | none => .ok (false, db)
        | some (report, observationId) => do
            let answer ← observeUsageLocked digests grant report actor
              (key.map digests.usageObservationKey) observationId clock db
            pure (match answer.1 with
              | .blocked => true
              | .counted _ => false, answer.2)
      if answer.1 then return answer
      else
        check proposes (.fence "stale execution proposal or fence")
        let db ← answer.2.recordCommand digests key actor
          (.executionPropose grant.document event) .proposed
        return (false, db)

/-- `claim_execution_recovery`: the lease of a run that is due is released.
`found` says that the candidate is the one of the execution plane's tables,
`claims` that its job is then claimed. -/
def claimExecutionRecovery (taskId runId : Uuid) (actor : Actor)
    (found claims : Bool) (clock : Clock) (db : Db) :
    Except Failure (Bool × Db) :=
  if found then
    db.onTask taskId .database fun h =>
      match h.task.runs.find? fun r => r.runId = runId ∧ r.isLive with
      | none => return (false, h)
      | some r =>
          let t := h.task
          if t.state = .leased ∧ t.currentRunId = some runId
              ∧ t.currentFence = some r.fence ∧ r.state = .leased
              ∧ (r.leaseExpiresAt ≤ clock.row runId
                ∨ t.deadlineAt ≤ clock.row taskId) then do
            let repairs : Bool := t.repairCount < t.repairLimit
            let failure :=
              if repairs then FailureClass.workerLost else .providerQuality
            let h ← releaseExpired digests h (r.grant taskId) failure actor
              false repairs clock
            check claims (.store "recovery claim lost after canonical release")
            return (true, h)
          else return (false, h)
  else .ok (false, db)

/-- A command of another part of the factory. -/
def otherCommand (action document : Text) (actor : Actor)
    (key : Option Digest) (db : Db) : Except Failure (Unit × Db) :=
  db.keyed digests key actor (.other action document) (fun _ => .ok ())
    (fun _ => .other) fun db => .ok ((), db)

-- ================================================================== runs

/-- A call, with all that it is called with and reads. -/
inductive Call
  | intake (intake : TaskIntakeV1) (actor : Actor) (reads : IntakeReadings)
  | claim (request : ClaimRequest) (actor : Actor) (key : Option Digest)
      (reads : ClaimReadings)
  | heartbeat (grant : LeaseGrant) (actor : Actor) (key : Option Digest)
      (clock : Clock)
  | transitionPhase (grant : LeaseGrant) (target : TaskStatus) (actor : Actor)
      (key : Option Digest) (clock : Clock)
  | release (grant : LeaseGrant) (outcome : Outcome) (actor : Actor)
      (key : Option Digest) (clock : Clock)
  | reserveBudget (grant : LeaseGrant) (amounts : Amounts)
      (reasonDigest key : Digest) (actor : Actor) (reservationId : Uuid)
      (clock : Clock)
  | observeUsage (grant : LeaseGrant) (providerCallId : Text)
      (priceTableDigest : Option Text) (cost tokens output : Nat)
      (components : Option UsageComponents) (actor : Actor)
      (key : Option Digest) (observationId : Uuid) (clock : Clock)
  | setKill (scope : Text) (enabled : Bool) (reason : Text) (key : Digest)
      (actor : Actor) (switchId : Uuid) (clock : Clock)
  | reconcile (limit : Nat) (cursor : Option Uuid) (actor : Actor)
      (key : Option Digest) (reads : ReconcileReadings)
  | cancel (taskId : Uuid) (reason : Text) (key : Digest) (actor : Actor)
      (authorized : Text → Bool) (projected : Bool) (clock : Clock)
  | finalizeExecution (grant : LeaseGrant) (packetDigest : Digest)
      (plane : ExecutionPlane) (actor : Actor) (key : Option Digest)
      (clock : Clock)
  | commitExecutionProposal (grant : LeaseGrant) (event : Text)
      (usage : Option (UsageReport × Uuid)) (actor : Actor)
      (key : Option Digest) (admitted proposes : Bool) (clock : Clock)
  | claimExecutionRecovery (taskId runId : Uuid) (actor : Actor)
      (found claims : Bool) (clock : Clock)
  | otherCommand (action document : Text) (actor : Actor)
      (key : Option Digest)

/-- The tables after a call: a call that raises is rolled back. -/
def Db.after (db : Db) : Call → Db
  | .intake i actor reads => commit (intake digests i actor reads) db
  | .claim request actor key reads =>
      commit (claim digests request actor key reads) db
  | .heartbeat grant actor key clock =>
      commit (heartbeat digests grant actor key clock) db
  | .transitionPhase grant target actor key clock =>
      commit (transitionPhase digests grant target actor key clock) db
  | .release grant outcome actor key clock =>
      commit (release digests grant outcome actor key clock) db
  | .reserveBudget grant amounts reasonDigest key actor reservationId clock =>
      commit (reserveBudget digests grant amounts reasonDigest key actor
        reservationId clock) db
  | .observeUsage grant providerCallId priceTableDigest cost tokens output
      components actor key observationId clock =>
      commit (observeUsage digests grant providerCallId priceTableDigest cost
        tokens output components actor key observationId clock) db
  | .setKill scope enabled reason key actor switchId clock =>
      commit (setKill digests scope enabled reason key actor switchId clock) db
  | .reconcile limit cursor actor key reads =>
      commit (reconcile digests limit cursor actor key reads) db
  | .cancel taskId reason key actor authorized projected clock =>
      commit (cancel digests taskId reason key actor authorized projected
        clock) db
  | .finalizeExecution grant packetDigest plane actor key clock =>
      commit (finalizeExecution digests grant packetDigest plane actor key
        clock) db
  | .commitExecutionProposal grant event usage actor key admitted proposes
      clock =>
      commit (commitExecutionProposal digests grant event usage actor key
        admitted proposes clock) db
  | .claimExecutionRecovery taskId runId actor found claims clock =>
      commit (claimExecutionRecovery digests taskId runId actor found claims
        clock) db
  | .otherCommand action document actor key =>
      commit (otherCommand digests action document actor key) db

/-- A step of the store. -/
def step (db : Db) (call : Call) : Option Db := some (db.after digests call)

end Exolon.Store
