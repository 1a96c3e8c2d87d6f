/-
The states of a task and the policy of its transitions.

`authorizeTransition` decides every change of a task's state: the closed
graph `transitions`, and for each operation who may ask for it, from which
states and to which ones. `classifyRetry` decides what a failure leads to.

A task is leased in five states (`TaskStatus.isLeased`), and waits to be
claimed in two (`TaskStatus.isQueued`). The `allowed_` theorems say what an
allowed transition of each operation does to these.
-/
import Exolon.Factory.Values

namespace Exolon.Store

-- ================================================================ states

inductive TaskStatus
  | inbox
  | triaged
  | waitingDesignApproval
  | queued
  | leased
  | analyzing
  | implementing
  | verifying
  | reviewing
  | readyForHuman
  | retry
  | needsHuman
  | dead
  | cancelled
  | superseded
  deriving DecidableEq

namespace TaskStatus

def all : List TaskStatus :=
  [.inbox, .triaged, .waitingDesignApproval, .queued, .leased, .analyzing,
    .implementing, .verifying, .reviewing, .readyForHuman, .retry, .needsHuman,
    .dead, .cancelled, .superseded]

instance : Fintype TaskStatus :=
  Fintype.ofList all fun status => by cases status <;> decide

/-- `TERMINAL` -/
def isTerminal : TaskStatus → Bool
  | .dead | .cancelled | .superseded | .readyForHuman => true
  | _ => false

/-- The states of a task with a lease. -/
def isLeased : TaskStatus → Bool
  | .leased | .analyzing | .implementing | .verifying | .reviewing => true
  | _ => false

/-- The states of a task that can be claimed. -/
def isQueued : TaskStatus → Bool
  | .queued | .retry => true
  | _ => false

end TaskStatus

inductive FailureClass
  | databaseUnavailable
  | workerLost
  | providerTransportUnavailable
  | temporaryResourceExhaustion
  | validation
  | policy
  | authentication
  | unsupportedCapability
  | budget
  | security
  | staleInput
  | protocol
  | providerQuality
  deriving DecidableEq

-- ============================================================ transitions

/-- `TRANSITIONS` -/
def transitions : TaskStatus → List TaskStatus
  | .inbox => [.triaged, .cancelled, .superseded, .needsHuman]
  | .triaged =>
      [.waitingDesignApproval, .queued, .cancelled, .superseded, .needsHuman]
  | .waitingDesignApproval => [.queued, .cancelled, .superseded, .needsHuman]
  | .queued => [.leased, .cancelled, .superseded, .needsHuman, .dead]
  | .retry => [.queued, .leased, .cancelled, .superseded, .needsHuman, .dead]
  | .leased => [.analyzing, .retry, .needsHuman, .dead, .cancelled, .superseded]
  | .analyzing =>
      [.implementing, .retry, .needsHuman, .dead, .cancelled, .superseded]
  | .implementing =>
      [.verifying, .retry, .needsHuman, .dead, .cancelled, .superseded]
  | .verifying =>
      [.reviewing, .retry, .needsHuman, .dead, .cancelled, .superseded]
  | .reviewing =>
      [.readyForHuman, .retry, .needsHuman, .dead, .cancelled, .superseded]
  | .needsHuman => [.queued, .cancelled, .superseded, .dead]
  | .readyForHuman | .dead | .cancelled | .superseded => []

inductive TransitionOperation
  | claim
  | retryExhausted
  | phase
  | releaseCompleted
  | releaseFailure
  | cancel
  | supersede
  | reconcileExpired
  | reconcileDeadline
  | operatorRequeue
  deriving DecidableEq

/-- `Actor.kind` -/
inductive ActorKind
  | controlPlane
  | operator
  | worker
  | other (kind : Text)
  deriving DecidableEq

structure TransitionCommand where
  actorKind : ActorKind
  target : TaskStatus
  operation : TransitionOperation
  operatorDecisionId : Option Text := none

inductive DecisionCode
  | allowed
  | forbidden
  | needsHuman
  deriving DecidableEq

structure TransitionDecision where
  code : DecisionCode
  reason : String

/-- Who may ask for an operation, from which states and to which. -/
structure OperationPolicy where
  actorKind : ActorKind
  sources : List TaskStatus
  targets : List TaskStatus

/-- The keys of `TRANSITIONS`. -/
def openStates : List TaskStatus :=
  [.inbox, .triaged, .waitingDesignApproval, .queued, .retry, .leased,
    .analyzing, .implementing, .verifying, .reviewing, .needsHuman]

def leasedStates : List TaskStatus :=
  [.leased, .analyzing, .implementing, .verifying, .reviewing]

/-- `permitted` -/
def permitted : TransitionOperation → Option OperationPolicy
  | .claim => some ⟨.controlPlane, [.queued, .retry], [.leased]⟩
  | .retryExhausted => some ⟨.controlPlane, [.queued, .retry], [.dead]⟩
  | .releaseFailure =>
      some ⟨.worker, leasedStates, [.retry, .needsHuman, .dead]⟩
  | .cancel => some ⟨.controlPlane, openStates, [.cancelled]⟩
  | .supersede => some ⟨.controlPlane, openStates, [.superseded]⟩
  | .reconcileExpired =>
      some ⟨.controlPlane, leasedStates, [.retry, .needsHuman, .dead]⟩
  | .reconcileDeadline =>
      some ⟨.controlPlane, [.queued, .retry], [.needsHuman, .dead]⟩
  | .phase | .releaseCompleted | .operatorRequeue => none

/-- The next phase of a leased task. -/
def phaseEdge : TaskStatus → Option TaskStatus
  | .leased => some .analyzing
  | .analyzing => some .implementing
  | .implementing => some .verifying
  | .verifying => some .reviewing
  | _ => none

def trustedActors : List ActorKind := [.controlPlane, .operator, .worker]

def authorizeTransition (current target : TaskStatus)
    (command : TransitionCommand) : TransitionDecision :=
  let outside : TransitionDecision :=
    ⟨.forbidden, "transition is not in the closed M4 graph"⟩
  let completedReleaseCompatibility : Bool :=
    current == .leased && target == .readyForHuman
      && command.actorKind == .worker && command.operation == .releaseCompleted
  if !(trustedActors.contains command.actorKind) then
    ⟨.forbidden, "untrusted actor cannot select state"⟩
  else if target ≠ command.target then
    ⟨.forbidden, "command target does not match requested state"⟩
  else if current.isTerminal then outside
  else if !(transitions current).contains target
      && !completedReleaseCompatibility then outside
  else
    match command.operation with
    | .phase =>
        if command.actorKind = .worker ∧ phaseEdge current = some target then
          ⟨.allowed, "next fenced worker phase authorized"⟩
        else
          ⟨.forbidden, "phase operation permits only the next worker phase"⟩
    | .releaseCompleted =>
        if command.actorKind ≠ .worker ∨ target ≠ .readyForHuman then
          ⟨.forbidden,
            "completed release requires a worker completion target"⟩
        else if completedReleaseCompatibility then
          ⟨.allowed, "legacy completed-release compatibility"⟩
        else if current = .reviewing then
          ⟨.allowed, "reviewed completion authorized"⟩
        else
          ⟨.forbidden,
            "completed release requires leased compatibility or reviewing"⟩
    | .operatorRequeue =>
        if current ≠ .needsHuman ∨ target ≠ .queued then
          ⟨.forbidden, "operator requeue applies only to needs_human"⟩
        else if command.actorKind ≠ .operator
            ∨ (command.operatorDecisionId.getD []).isEmpty then
          ⟨.needsHuman, "persisted operator decision required"⟩
        else ⟨.allowed, "persisted operator decision authorized"⟩
    | operation =>
        match permitted operation with
        | none => ⟨.forbidden, "unknown transition operation"⟩
        | some rule =>
            if command.actorKind ≠ rule.actorKind
                ∨ !rule.sources.contains current
                ∨ !rule.targets.contains target then
              ⟨.forbidden, "transition is outside operation policy"⟩
            else if !(transitions current).contains target then outside
            else ⟨.allowed, "closed transition authorized"⟩

/-- The policy allows the operation, asked for by the actor. -/
def Allowed (actorKind : ActorKind) (operation : TransitionOperation)
    (current target : TaskStatus) : Prop :=
  (authorizeTransition current target
    { actorKind := actorKind
      target := target
      operation := operation }).code = .allowed

instance (actorKind : ActorKind) (operation : TransitionOperation)
    (current target : TaskStatus) :
    Decidable (Allowed actorKind operation current target) :=
  inferInstanceAs (Decidable (_ = _))

-- ================================================= what is allowed, and when

theorem allowed_claim {current : TaskStatus} :
    Allowed .controlPlane .claim current .leased ↔ current.isQueued := by
  revert current
  decide

theorem allowed_retryExhausted {current : TaskStatus} :
    Allowed .controlPlane .retryExhausted current .dead ↔ current.isQueued := by
  revert current
  decide

/-- A phase is followed by the next one. -/
theorem allowed_phase {current target : TaskStatus} :
    Allowed .worker .phase current target ↔ phaseEdge current = some target := by
  revert current target
  decide +kernel

theorem leased_of_phaseEdge {current target : TaskStatus}
    (h : phaseEdge current = some target) :
    current.isLeased ∧ target.isLeased := by
  revert current target
  decide

theorem allowed_releaseCompleted {current : TaskStatus} :
    Allowed .worker .releaseCompleted current .readyForHuman ↔
      current = .leased ∨ current = .reviewing := by
  revert current
  decide

/-- A leased task fails to one of three states. -/
theorem allowed_failure {operation : TransitionOperation}
    {actorKind : ActorKind} {current target : TaskStatus}
    (hoperation : (actorKind = .worker ∧ operation = .releaseFailure)
      ∨ (actorKind = .controlPlane ∧ operation = .reconcileExpired)) :
    Allowed actorKind operation current target ↔ current.isLeased
      ∧ (target = .retry ∨ target = .needsHuman ∨ target = .dead) := by
  revert current target
  rcases hoperation with ⟨rfl, rfl⟩ | ⟨rfl, rfl⟩
  · decide +kernel
  · decide +kernel

theorem allowed_cancel {current : TaskStatus} :
    Allowed .controlPlane .cancel current .cancelled ↔
      current.isTerminal = false := by
  revert current
  decide

theorem allowed_supersede {current : TaskStatus} :
    Allowed .controlPlane .supersede current .superseded ↔
      current.isTerminal = false := by
  revert current
  decide

theorem allowed_reconcileDeadline {current target : TaskStatus} :
    Allowed .controlPlane .reconcileDeadline current target ↔
      current.isQueued ∧ (target = .needsHuman ∨ target = .dead) := by
  revert current target
  decide +kernel

-- ================================================================ retries

structure RetryDecision where
  retry : Bool
  terminal : Option TaskStatus
  reason : String

/-- `_RETRYABLE` -/
def retryable : List FailureClass :=
  [.databaseUnavailable, .workerLost, .providerTransportUnavailable,
    .temporaryResourceExhaustion]

def classifyRetry (failure : FailureClass)
    (attemptNo infrastructureRetries : Nat) : RetryDecision :=
  if attemptNo < 1 ∨ 2 < infrastructureRetries then
    ⟨false, some .needsHuman, "invalid attempt evidence"⟩
  else if !retryable.contains failure then
    ⟨false, some .needsHuman, "failure class is not retryable"⟩
  else if infrastructureRetries < attemptNo then
    ⟨false, some .dead, "initial attempt plus accepted retries exhausted"⟩
  else ⟨true, some .retry, "typed infrastructure retry"⟩

end Exolon.Store
