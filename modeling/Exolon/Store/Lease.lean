/-
What the store does to one task and the counters of its capacity: events,
transitions of the state, leases taken, renewed and closed.

Every way out of a lease is here: `releaseLocked` for a worker's outcome and
for a lease that ran out, `closeActiveLease` for a task that is cancelled or
superseded, `closeOrphanRun` for a run its task does not point to, and
`finalizeLocked` for a result of the execution plane, where `m4Status`
decides what becomes of the task.

A function that raises rolls the transaction back; what it had written is
not in its answer. What it answers is written with a few changes of the rows
(`Task.record`, `Task.moved`, `Held.ended`), and the `_eq_ok` theorems say
when it does.
-/
import Exolon.Lib.Transaction
import Exolon.Store.Rows

namespace Exolon.Store

open Factory Transaction

-- ============================================================ documents

/-- The documents whose digests key the events. -/
inductive EventIdentity
  | superseded (replacement : Digest)
  | retryExhausted (taskId : Uuid) (attempts infrastructureRetries : Nat)
      (fromState : TaskStatus)
  | claim (runId : Uuid) (fence : Nat)
  | phaseTransitioned (runId : Uuid) (fence : Nat) (target : TaskStatus)
  | release (runId : Uuid) (fence : Nat) (target : TaskStatus)
      (deadlineExpired : Bool)
  | reconcileOrphan (runId : Uuid)
  | reconcileDeadline (taskId : Uuid) (fromState target : TaskStatus)
  | executionFinalize (runId : Uuid) (fence : Nat) (target : TaskStatus)
  deriving DecidableEq

/-- `Actor`, without its scopes -/
structure Actor where
  actorId : Text
  kind : ActorKind

-- ================================================================= events

namespace Task

/-- `max(event_sequence)` -/
def lastSequence (t : Task) : Nat := (t.events.map Event.sequence).foldr max 0

/-- Insert an event, unless the task has one with its key:
`ON CONFLICT(task_id, idempotency_key) DO NOTHING`. -/
def record (t : Task) (actor : Actor) (action : EventAction) (key : Digest)
    (metadata : List (String × MetadataValue)) (mandatoryCleanup : Bool) :
    Task :=
  if t.events.any fun e => e.idempotencyKey = key then t
  else
    { t with
      events := t.events ++ [{
        sequence := t.lastSequence + 1
        idempotencyKey := key
        actorId := actor.actorId
        action := action
        metadata := metadata
        mandatoryCleanup := mandatoryCleanup }] }

/-- `_event` -/
def event (t : Task) (actor : Actor) (action : EventAction) (key : Digest)
    (metadata : List (String × MetadataValue))
    (mandatoryCleanup : Bool := false) : Except Failure Task := do
  check (mandatoryCleanup ∨ t.ordinaryEvents < t.eventLimit)
    (.budget "event budget exceeded")
  return t.record actor action key metadata mandatoryCleanup

/-- `_ordinary_event_capacity_available` -/
def ordinaryEventCapacityAvailable (t : Task) : Bool :=
  t.ordinaryEvents < t.eventLimit

-- ============================================================ transitions

/-- What a transition does to the lease of the task. -/
inductive Pointer
  | keep
  | clear
  | set (runId : Uuid) (fence : Nat)

/-- The row after a transition. -/
def moved (t : Task) (target : TaskStatus) (pointer : Pointer)
    (accountingBlocked : Option Bool) : Task :=
  { t with
    state := target
    currentRunId := match pointer with
      | .keep => t.currentRunId
      | .clear => none
      | .set runId _ => some runId
    currentFence := match pointer with
      | .keep => t.currentFence
      | .clear => none
      | .set _ fence => some fence
    accountingBlocked := accountingBlocked.getD t.accountingBlocked }

/-- `_apply_task_transition` -/
def applyTransition (t : Task) (current : TaskStatus)
    (command : TransitionCommand) (pointer : Pointer := .keep)
    (accountingBlocked : Option Bool := none) : Except Failure Task := do
  check ((authorizeTransition current command.target command).code = .allowed)
    (.transition "task transition denied")
  check (t.state = current)
    (.store "locked task state changed during transition")
  return t.moved command.target pointer accountingBlocked

-- ================================================================= leases

/-- The run is the live lease that the grant tells of. -/
def IsGranted (t : Task) (grant : LeaseGrant) (allowExpired : Bool)
    (clock : Clock) (r : Run) : Prop :=
  r.runId = grant.runId ∧ t.taskId = grant.taskId ∧ r.owner = grant.owner
    ∧ r.role = grant.role ∧ r.fence = grant.fence
    ∧ r.packetDigest = grant.packetDigest
    ∧ r.state = .leased ∧ r.releasedAt = none
    ∧ r.allocation.releasedAt = none
    ∧ (allowExpired ∨ clock.row r.runId < r.leaseExpiresAt)
    ∧ t.currentRunId = some r.runId ∧ t.currentFence = some r.fence
    ∧ t.state.isLeased
    ∧ (allowExpired ∨ clock.row t.taskId < t.deadlineAt)

instance (t : Task) (grant : LeaseGrant) (allowExpired : Bool) (clock : Clock)
    (r : Run) : Decidable (t.IsGranted grant allowExpired clock r) := by
  unfold IsGranted
  infer_instance

/-- `_lock_grant` -/
def lockGrant (t : Task) (grant : LeaseGrant) (allowExpired : Bool)
    (clock : Clock) : Except Failure Run :=
  fetch (t.runs.find? fun r => t.IsGranted grant allowExpired clock r)
    (.fence "stale or expired fence")

/-- The run of the live allocation. -/
def holding (t : Task) (runId : Uuid) : Option Run :=
  t.runs.find? fun r => r.runId = runId ∧ r.allocation.releasedAt = none

end Task

-- =============================================================== capacity

/-- The run, closed. -/
def Run.closed (r : Run) (state : RunStatus) (released : Time) : Run :=
  { r with state := state, releasedAt := some released }

/-- The run, without its capacity. -/
def Run.freed (r : Run) (freed : Time) : Run :=
  { r with allocation := { r.allocation with releasedAt := some freed } }

namespace Held

/-- `capacity_lock_run` -/
def capacityLockRun (h : Held) (runId : Uuid) : Bool :=
  (h.task.holding runId).isSome

/-- `capacity_release` -/
def capacityRelease (h : Held) (runId : Uuid) (freed : Time) :
    Except Failure (Bool × Held) :=
  match h.task.holding runId with
  | none => .ok (false, h)
  | some r => do
      -- run must close before capacity release
      check (r.releasedAt ≠ none) .database
      -- capacity counter underflow
      check (∀ s ∈ r.allocation.scopes, 0 < h.counters s) .database
      return (true, {
        counters := fun s =>
          if s ∈ r.allocation.scopes then h.counters s - 1 else h.counters s
        task := h.task.updateRun runId fun r => r.freed freed })

/-- A run is closed, and gives its capacity back. -/
def closeRun (h : Held) (runId : Uuid) (state : RunStatus) (clock : Clock)
    (refusal : Failure) : Except Failure Held := do
  let answer ← capacityRelease
    { h with
      task := h.task.updateRun runId fun r => r.closed state (clock.read 0) }
    runId (clock.read 1)
  check answer.1 refusal
  return answer.2

/-- The rows after the run was closed. -/
def ended (h : Held) (r : Run) (state : RunStatus) (clock : Clock) : Held where
  counters := fun s =>
    if s ∈ r.allocation.scopes then h.counters s - 1 else h.counters s
  task := h.task.updateRun r.runId fun r =>
    (r.closed state (clock.read 0)).freed (clock.read 1)

end Held

-- ================================================================ release

/-- `outcome` of `release` -/
inductive Outcome
  | failure (failure : FailureClass)
  | completed
  | other (outcome : Text)
  deriving DecidableEq

/-- `isinstance(outcome, FailureClass)` -/
def Outcome.isFailure : Outcome → Bool
  | .failure _ => true
  | _ => false

/-- The target a failure leads to. -/
def failureTarget (t : Task) (attemptNo : Nat) (failure : FailureClass)
    (deadlineExpired : Bool) : TaskStatus :=
  let target :=
    if deadlineExpired then
      if t.quarantined then TaskStatus.needsHuman else .dead
    else
      let decision := classifyRetry failure attemptNo t.infrastructureRetries
      if decision.retry then .retry
      else decision.terminal.getD .needsHuman
  if t.quarantined then .needsHuman else target

/-- The usage of a run was observed. -/
def Task.hasUsage (t : Task) (runId : Uuid) : Bool :=
  t.observations.any fun u => u.runId = runId

/-- The target of an outcome. -/
def outcomeTarget (t : Task) (r : Run) (outcome : Outcome)
    (deadlineExpired : Bool) : Except Failure TaskStatus :=
  match outcome with
  | .failure failure =>
      .ok (failureTarget t r.attemptNo failure deadlineExpired)
  | .completed => do
      check (¬ (t.accountingBlocked ∨ !t.hasUsage r.runId ∨ t.hasReservation
          ∨ t.costReserved ≠ 0 ∨ t.tokensReserved ≠ 0 ∨ t.wallReserved ≠ 0))
        (.budget "completion requires settled accounting")
      return .readyForHuman
  | .other _ => .error (.store "unsupported release outcome")

/-- The target `_release_locked` chooses. -/
def releaseTarget (t : Task) (r : Run) (outcome : Outcome)
    (deadlineExpired : Bool) : Except Failure TaskStatus := do
  let target ← outcomeTarget t r outcome deadlineExpired
  return if target = .retry ∧ !t.ordinaryEventCapacityAvailable then
    .needsHuman else target

/-- The command `_release_locked` transitions with. -/
def releaseCommand (outcome : Outcome) (allowExpired : Bool)
    (target : TaskStatus) : TransitionCommand where
  actorKind := if allowExpired then .controlPlane else .worker
  target := target
  operation :=
    if allowExpired then .reconcileExpired
    else if outcome.isFailure then .releaseFailure
    else .releaseCompleted

/-- `event_metadata` of `_release_locked` -/
def releaseMetadata (grant : LeaseGrant) (current : TaskStatus)
    (command : TransitionCommand) (deadlineExpired quarantined : Bool) :
    List (String × MetadataValue) :=
  [("from_state", .status current), ("target", .status command.target),
    ("operation", .operation command.operation),
    ("run_id", .uuid grant.runId), ("fence", .number grant.fence)]
    ++ if deadlineExpired then
      [("reason", .text "deadline_expired".toList),
        ("accounting_quarantined", .flag quarantined)]
      else []

section Digests

variable (digest : EventIdentity → Digest)

/-- `_release_locked` -/
def releaseLocked (h : Held) (grant : LeaseGrant) (outcome : Outcome)
    (actor : Actor) (allowExpired deadlineExpired : Bool) (clock : Clock) :
    Except Failure (TaskStatus × Held) := do
  check (h.capacityLockRun grant.runId) (.fence "stale or expired fence")
  let r ← h.task.lockGrant grant allowExpired clock
  let current := h.task.state
  let quarantined := outcome.isFailure && h.task.quarantined
  let target ← releaseTarget h.task r outcome deadlineExpired
  let h ← h.closeRun grant.runId
    (if outcome.isFailure then .failed else .completed) clock
    (.store "lease capacity was not released")
  let command := releaseCommand outcome allowExpired target
  let t ← h.task.applyTransition current command .clear
    (if quarantined then some true else none)
  let t ← t.event actor .released
    (digest (.release grant.runId grant.fence target deadlineExpired))
    (releaseMetadata grant current command deadlineExpired quarantined) true
  return (target, { h with task := t })

-- ============================================================ termination

/-- `_close_active_lease` -/
def closeActiveLease (h : Held) (clock : Clock) : Except Failure Held :=
  match h.task.runs.find? fun r =>
      h.task.currentRunId = some r.runId ∧ r.releasedAt = none with
  | none => .ok h
  | some r =>
      if h.capacityLockRun r.runId then do
        let h ← h.closeRun r.runId .released clock
          (.store "live lease capacity was not released")
        return { h with
          task := { h.task with currentRunId := none, currentFence := none } }
      else .ok h

/-- `TerminalizationResult`, where something changed -/
structure Terminalization where
  accountingQuarantined : Bool
  fromState : TaskStatus
  operation : TransitionOperation

/-- What one turn of `_terminalize_task` comes to. -/
inductive Turn
  | changed (result : Terminalization)
  | terminal
  | leased

/-- The operation of a terminal target. -/
def terminalOperation (target : TaskStatus) : TransitionOperation :=
  if target = .cancelled then .cancel else .supersede

/-- One turn of the loop of `_terminalize_task`. -/
def terminalizeTurn (h : Held) (target : TaskStatus) (clock : Clock) :
    Except Failure (Turn × Held) := do
  let h ← closeActiveLease h clock
  if h.task.currentRunId = none ∧ h.task.state.isTerminal = false then
    let current := h.task.state
    let quarantined := h.task.quarantined
    let t ← h.task.applyTransition current
      { actorKind := .controlPlane
        target := target
        operation := terminalOperation target }
      .clear (some quarantined)
    return (.changed ⟨quarantined, current, terminalOperation target⟩,
      { h with task := t })
  else if h.task.state.isTerminal then return (.terminal, h)
  else return (.leased, h)

/-- `_terminalize_task` -/
def terminalizeTask (target : TaskStatus) (clock : Clock) :
    (attempts : Nat) → Held →
      Except Failure (Option Terminalization × Held)
  | 0, _ =>
      .error (.store "terminal transition could not stabilize live lease")
  | attempts + 1, h => do
      let turn ← terminalizeTurn h target clock
      match turn.1 with
      | .changed result => return (some result, turn.2)
      | .terminal => return (none, turn.2)
      | .leased => terminalizeTask target clock attempts turn.2

/-- `_close_orphan_run` -/
def closeOrphanRun (h : Held) (runId : Uuid) (actor : Actor) (clock : Clock) :
    Except Failure (Bool × Held) :=
  match h.task.runs.find? fun r =>
      r.runId = runId ∧ r.releasedAt = none ∧ r.allocation.releasedAt = none with
  | none => .ok (false, h)
  | some r => do
      let h ← h.closeRun r.runId .expired clock
        (.store "orphan capacity was not released")
      let t ← h.task.event actor .orphanReconciled
        (digest (.reconcileOrphan runId)) [("run_id", .uuid runId)] true
      return (true, { h with task := t })

/-- `_terminalize_expired_unleased_task` -/
def terminalizeExpiredUnleasedTask (t : Task) (actor : Actor) (clock : Clock) :
    Except Failure (Bool × Task) :=
  if t.state.isQueued ∧ t.currentRunId = none
      ∧ t.deadlineAt ≤ clock.row t.taskId then do
    let quarantined := t.quarantined
    let current := t.state
    let target := if quarantined then TaskStatus.needsHuman else .dead
    let operation := TransitionOperation.reconcileDeadline
    let t ← t.applyTransition current
      { actorKind := .controlPlane, target := target, operation := operation }
      .clear (some quarantined)
    let t ← t.event actor .deadlineExpired
      (digest (.reconcileDeadline t.taskId current target))
      [("from_state", .status current), ("target", .status target),
        ("operation", .operation operation),
        ("accounting_quarantined", .flag quarantined)] true
    return (true, t)
  else .ok (false, t)

-- =========================================================== finalization

/-- `terminal_type` of a terminal proposal, with its `failure_class` -/
inductive TerminalType
  | completed
  | failed (failure : FailureClass)
  | needsHuman
  deriving DecidableEq

/-- An open reservation of a run. -/
def Task.runHasReservation (t : Task) (runId : Uuid) : Bool :=
  t.reservations.any fun b => b.runId = runId ∧ b.releasedAt = none

/-- `v_status` of a failure class -/
def m4FailureStatus (failure : FailureClass)
    (attemptNo infrastructureRetries : Nat) : TaskStatus :=
  match failure with
  | .databaseUnavailable | .workerLost | .providerTransportUnavailable
  | .temporaryResourceExhaustion =>
      if infrastructureRetries < attemptNo then .dead else .retry
  | .validation | .policy | .authentication | .unsupportedCapability
  | .budget | .security | .staleInput | .protocol | .providerQuality =>
      .needsHuman

/-- `factory.execution_m4_status` -/
def m4Status (t : Task) (runId : Uuid) (terminal : TerminalType)
    (attemptNo : Nat) : Option TaskStatus :=
  if attemptNo < 1 ∨ 2 < t.infrastructureRetries then none
  else if terminal = .completed then
    if t.accountingBlocked ∨ !t.hasUsage runId ∨ t.runHasReservation runId
        ∨ t.costReserved ≠ 0 ∨ t.tokensReserved ≠ 0 ∨ t.wallReserved ≠ 0
    then none
    else some .readyForHuman
  else if t.accountingBlocked ∨ t.costReserved ≠ 0 ∨ t.tokensReserved ≠ 0
      ∨ t.wallReserved ≠ 0 then some .needsHuman
  else
    match terminal with
    | .completed => none
    | .needsHuman => some .needsHuman
    | .failed failure =>
        let status := m4FailureStatus failure attemptNo t.infrastructureRetries
        if t.runHasReservation runId
            ∨ status = .retry ∧ t.eventLimit ≤ t.ordinaryEvents
        then some .needsHuman
        else some status

/-- The lease that `execution_finalize_context` looks for. -/
def Task.IsFinalizable (t : Task) (grant : LeaseGrant) (clock : Clock)
    (r : Run) : Prop :=
  t.taskId = grant.taskId ∧ r.runId = grant.runId ∧ r.owner = grant.owner
    ∧ r.fence = grant.fence ∧ r.packetDigest = grant.packetDigest
    ∧ t.packetDigest = grant.packetDigest
    ∧ t.currentRunId = some r.runId ∧ t.currentFence = some grant.fence
    ∧ t.state = .leased ∧ r.state = .leased ∧ r.releasedAt = none
    ∧ r.allocation.releasedAt = none
    ∧ clock.row r.runId < r.leaseExpiresAt ∧ clock.row t.taskId < t.deadlineAt

instance (t : Task) (grant : LeaseGrant) (clock : Clock) (r : Run) :
    Decidable (t.IsFinalizable grant clock r) := by
  unfold Task.IsFinalizable
  infer_instance

/-- What the tables of the execution plane hold of a run: its terminal
proposal, where the packet, the manifest and the evidence are in order;
whether the snapshot binds to it, and the commit's own checks pass; and the
digests of the result. -/
structure ExecutionPlane where
  terminal : Option TerminalType
  snapshotBinds : Bool
  commits : Bool
  workspaceResultDigest : Digest
  workspaceSnapshotDigest : Digest

/-- The rows `factory.execution_finalize_commit` writes. -/
def finalizeCommit (h : Held) (r : Run) (terminal : TerminalType)
    (result : WorkspaceResult) (clock : Clock) : Except Failure Held := do
  let blocked := terminal ≠ .completed
    ∧ (!h.task.settled ∨ h.task.runHasReservation r.runId)
  let task := h.task.updateRun r.runId fun r => { r with result := result }
  let h ← Held.closeRun
    { h with
      task := { task with
        accountingBlocked := task.accountingBlocked || decide blocked } }
    r.runId (if terminal = .completed then .completed else .failed) clock
    (.fence "execution finalization rejected")
  return { h with
    task := { h.task with
      state := result.m4Status, currentRunId := none, currentFence := none } }

/-- `finalize_execution`, for a run without a result -/
def finalizeLocked (h : Held) (grant : LeaseGrant) (packetDigest : Digest)
    (plane : ExecutionPlane) (actor : Actor) (clock : Clock) :
    Except Failure (WorkspaceResult × Held) := do
  let refusal := Failure.fence "execution cannot be finalized"
  check (h.capacityLockRun grant.runId) refusal
  let r ← fetch (h.task.runs.find? fun r => h.task.IsFinalizable grant clock r)
    refusal
  let terminal ← fetch plane.terminal refusal
  let status ← fetch (m4Status h.task r.runId terminal r.attemptNo) refusal
  check plane.snapshotBinds
    (.fence "workspace snapshot does not bind execution")
  check plane.commits (.fence "execution finalization rejected")
  let result : WorkspaceResult := {
    workspaceResultDigest := plane.workspaceResultDigest
    taskPacketDigest := packetDigest
    workspaceSnapshotDigest := plane.workspaceSnapshotDigest
    m4Status := status }
  let h ← finalizeCommit h r terminal result clock
  let t ← h.task.event actor .released
    (digest (.executionFinalize grant.runId grant.fence status))
    [("target", .status status),
      ("workspace_result_digest", .digest result.workspaceResultDigest)] true
  return (result, { h with task := t })

end Digests

-- ============================================================ what it takes

theorem event_eq_ok {t t' : Task} {actor : Actor} {action : EventAction}
    {key : Digest} {metadata : List (String × MetadataValue)}
    {mandatoryCleanup : Bool} :
    t.event actor action key metadata mandatoryCleanup = .ok t'
      ↔ (mandatoryCleanup ∨ t.ordinaryEvents < t.eventLimit)
        ∧ t' = t.record actor action key metadata mandatoryCleanup := by
  unfold Task.event
  simp only [bind_eq_ok, check_eq_ok]
  constructor
  · intro h
    obtain ⟨_, hroom, ht'⟩ := h
    cases ht'
    exact ⟨hroom, rfl⟩
  · intro h
    rw [h.2]
    exact ⟨.unit, h.1, rfl⟩

theorem applyTransition_eq_ok {t t' : Task} {current : TaskStatus}
    {command : TransitionCommand} {pointer : Task.Pointer}
    {accountingBlocked : Option Bool} :
    t.applyTransition current command pointer accountingBlocked = .ok t'
      ↔ (authorizeTransition current command.target command).code = .allowed
        ∧ t.state = current
        ∧ t' = t.moved command.target pointer accountingBlocked := by
  unfold Task.applyTransition
  simp only [bind_eq_ok, check_eq_ok]
  constructor
  · intro h
    obtain ⟨_, hallowed, _, hstate, ht'⟩ := h
    cases ht'
    exact ⟨hallowed, hstate, rfl⟩
  · intro h
    obtain ⟨hallowed, hstate, rfl⟩ := h
    exact ⟨.unit, hallowed, .unit, hstate, rfl⟩

theorem holding_some {t : Task} {runId : Uuid} {r : Run}
    (h : t.holding runId = some r) :
    r ∈ t.runs ∧ r.runId = runId ∧ r.allocation.releasedAt = none := by
  have hp := List.find?_some h
  exact ⟨List.mem_of_find?_eq_some h, of_decide_eq_true hp⟩

theorem holding_updateRun {t : Task} {runId : Uuid} {f : Run → Run}
    (h : ∀ r, (f r).runId = r.runId
      ∧ (f r).allocation.releasedAt = r.allocation.releasedAt) :
    (t.updateRun runId f).holding runId = (t.holding runId).map f := by
  unfold Task.holding
  rw [Task.updateRun_runs, Table.find?_update]
  · cases hr : t.runs.find? _ with
    | none => rfl
    | some r =>
        have hid := (holding_some hr).2.1
        show some (if decide (r.runId = runId) then f r else r) = some (f r)
        rw [if_pos (decide_eq_true hid)]
  · intro r _
    rw [(h r).1, (h r).2]

/-- A run can be closed where it holds capacity that is counted. -/
theorem closeRun_eq_ok {h h' : Held} {runId : Uuid} {state : RunStatus}
    {clock : Clock} {refusal : Failure} :
    h.closeRun runId state clock refusal = .ok h'
      ↔ ∃ r, h.task.holding runId = some r
        ∧ (∀ s ∈ r.allocation.scopes, 0 < h.counters s)
        ∧ h' = h.ended r state clock := by
  unfold Held.closeRun Held.capacityRelease
  dsimp only
  rw [holding_updateRun (f := fun r => r.closed state (clock.read 0))
    fun r => ⟨rfl, rfl⟩]
  cases hr : h.task.holding runId with
  | none =>
      apply iff_of_false
      · intro h'
        cases h'
      · intro hsome
        obtain ⟨r, hr', _⟩ := hsome
        cases hr'
  | some r =>
      have hid := (holding_some hr).2.1
      simp only [Option.map_some, bind_eq_ok, check_eq_ok]
      have hended : (h.task.updateRun runId fun r =>
            r.closed state (clock.read 0)).updateRun runId
              (fun r => r.freed (clock.read 1))
          = (h.ended r state clock).task := by
        show _ = h.task.updateRun r.runId _
        rw [Task.updateRun_updateRun, hid]
        exact fun _ => rfl
      rw [hended]
      constructor
      · intro hanswer
        obtain ⟨answer, ⟨_, _, _, hcounted, hanswer⟩, _, _, hh'⟩ := hanswer
        cases hanswer
        cases hh'
        exact ⟨r, rfl, hcounted, rfl⟩
      · intro hsome
        obtain ⟨r', hr', hcounted, rfl⟩ := hsome
        cases hr'
        exact ⟨_, ⟨.unit, by simp [Run.closed], .unit, hcounted, rfl⟩, .unit,
          rfl, rfl⟩

theorem lockGrant_eq_ok {t : Task} {grant : LeaseGrant} {allowExpired : Bool}
    {clock : Clock} {r : Run}
    (h : t.lockGrant grant allowExpired clock = .ok r) :
    r ∈ t.runs ∧ t.IsGranted grant allowExpired clock r := by
  have hfound := fetch_eq_ok.mp h
  have hgranted := List.find?_some hfound
  exact ⟨List.mem_of_find?_eq_some hfound, of_decide_eq_true hgranted⟩

/-- The rows after `_release_locked`. -/
def releasedHeld (digest : EventIdentity → Digest) (h : Held) (r : Run)
    (grant : LeaseGrant) (outcome : Outcome) (actor : Actor)
    (allowExpired deadlineExpired : Bool) (clock : Clock)
    (target : TaskStatus) : Held :=
  let quarantined := outcome.isFailure && h.task.quarantined
  let ended := h.ended r (if outcome.isFailure then .failed else .completed)
    clock
  { ended with
    task := (ended.task.moved target .clear
      (if quarantined then some true else none)).record actor .released
        (digest (.release grant.runId grant.fence target deadlineExpired))
        (releaseMetadata grant h.task.state
          (releaseCommand outcome allowExpired target) deadlineExpired
          quarantined) true }

/-- A lease is released where the grant is live, the outcome has a target,
the capacity is counted and the transition is allowed. -/
theorem releaseLocked_eq_ok {digest : EventIdentity → Digest} {h h' : Held}
    {grant : LeaseGrant} {outcome : Outcome} {actor : Actor}
    {allowExpired deadlineExpired : Bool} {clock : Clock}
    {target : TaskStatus} :
    releaseLocked digest h grant outcome actor allowExpired deadlineExpired
        clock = .ok (target, h')
      ↔ ∃ r q, h.task.lockGrant grant allowExpired clock = .ok r
        ∧ h.task.holding grant.runId = some q
        ∧ (∀ s ∈ q.allocation.scopes, 0 < h.counters s)
        ∧ releaseTarget h.task r outcome deadlineExpired = .ok target
        ∧ (authorizeTransition h.task.state target
          (releaseCommand outcome allowExpired target)).code = .allowed
        ∧ h' = releasedHeld digest h q grant outcome actor allowExpired
          deadlineExpired clock target := by
  unfold releaseLocked
  simp only [bind_eq_ok, check_eq_ok, closeRun_eq_ok, applyTransition_eq_ok,
    event_eq_ok]
  constructor
  · intro hanswer
    obtain ⟨_, _, r, hlock, target', htarget, ended, ⟨q, hq, hcounted, rfl⟩,
      t, ⟨hallowed, _, rfl⟩, t', ⟨_, rfl⟩, hanswer⟩ := hanswer
    cases hanswer
    exact ⟨r, q, hlock, hq, hcounted, htarget, hallowed, rfl⟩
  · intro hgoes
    obtain ⟨r, q, hlock, hq, hcounted, htarget, hallowed, rfl⟩ := hgoes
    have hheld : h.capacityLockRun grant.runId := by
      unfold Held.capacityLockRun
      rw [hq]
      rfl
    exact ⟨.unit, hheld, r, hlock, target, htarget, _, ⟨q, hq, hcounted, rfl⟩,
      _, ⟨hallowed, rfl, rfl⟩, _, ⟨.inl trivial, rfl⟩, rfl⟩

end Exolon.Store
