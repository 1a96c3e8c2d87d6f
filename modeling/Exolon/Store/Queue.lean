/-
A claim and the queue: can one task make every later claim fail.

A claim takes the oldest task it may take, and rolls back where anything
raises. Of what it raises, only a task could be the cause for good, and only
through its budget of ordinary events: the event of the claim is one of
them. A task that comes back to the queue had room for one more, because its
release looks for it. A task that is new has written one event, and its
limit is only known to be one or more.

`Queueable` says that a task in the queue has room for the event of a claim,
and `Call.LeavesRoom` that the intake does not set a limit of one event. In
a run of such calls no claim is over a budget (`claim_in_budget`).
-/
import Exolon.Store.Moves
import Exolon.Lib.Run

namespace Exolon.Store

open Factory Contracts Transaction

-- ============================================================== queueable

/-- In the queue, the task has room for the event of a claim. -/
def Task.Queueable (t : Task) : Prop :=
  t.state.isQueued → t.ordinaryEvents < t.eventLimit

/-- The intake does not set a limit of one event. -/
def Call.LeavesRoom : Call → Prop
  | .intake i _ _ => i.limits.maxEvents ≠ 1
  | _ => True

variable {t t' : Task} {h h' : Held}

/-- What the budget of events looks at. -/
def SameQueue (t t' : Task) : Prop :=
  t'.state = t.state ∧ t'.events = t.events ∧ t'.eventLimit = t.eventLimit

theorem SameQueue.queueable (hsame : SameQueue t t') (hq : t.Queueable) :
    t'.Queueable := by
  unfold Task.Queueable Task.ordinaryEvents
  rw [hsame.1, hsame.2.1, hsame.2.2]
  exact hq

/-- A task outside the queue needs no room. -/
theorem queueable_of_state (hstate : t.state.isQueued = false) :
    t.Queueable := by
  intro hqueued
  rw [hstate] at hqueued
  cases hqueued

theorem mandatory_events (t : Task) (actor : Actor) (action : EventAction)
    (key : Digest) (metadata : List (String × MetadataValue)) :
    (t.record actor action key metadata true).ordinaryEvents
      = t.ordinaryEvents := by
  unfold Task.record
  split
  · rfl
  · unfold Task.ordinaryEvents
    dsimp only
    rw [List.countP_append]
    rfl

theorem record_state (t : Task) (actor : Actor) (action : EventAction)
    (key : Digest) (metadata : List (String × MetadataValue))
    (mandatory : Bool) :
    (t.record actor action key metadata mandatory).state = t.state := by
  unfold Task.record
  split
  · rfl
  · rfl

-- ============================================================ the targets

theorem retry_of_queued {status : TaskStatus} (hqueued : status.isQueued)
    (hne : status ≠ .queued) : status = .retry := by
  revert status
  decide

/-- A failure leads to a retry, to a human, or to the end. -/
theorem failureTarget_ne_queued (t : Task) (attemptNo : Nat)
    (failure : FailureClass) (deadlineExpired : Bool) :
    failureTarget t attemptNo failure deadlineExpired ≠ .queued := by
  have hclass : (classifyRetry failure attemptNo
      t.infrastructureRetries).terminal.getD .needsHuman ≠ .queued := by
    unfold classifyRetry
    split_ifs
    · simp
    · simp
    · simp
    · simp
  unfold failureTarget
  dsimp only
  split_ifs
  · simp
  · simp
  · simp
  · exact hclass

theorem m4FailureStatus_ne_queued (failure : FailureClass)
    (attemptNo retries : Nat) :
    m4FailureStatus failure attemptNo retries ≠ .queued := by
  unfold m4FailureStatus
  by_cases hleft : retries < attemptNo
  · cases failure <;> simp [hleft]
  · cases failure <;> simp [hleft]

/-- A release to the queue has looked for room. -/
theorem releaseTarget_room {r : Run} {outcome : Outcome}
    {deadlineExpired : Bool} {target : TaskStatus}
    (htarget : releaseTarget t r outcome deadlineExpired = .ok target)
    (hqueued : target.isQueued) : t.ordinaryEvents < t.eventLimit := by
  unfold releaseTarget at htarget
  rw [bind_eq_ok] at htarget
  obtain ⟨chosen, hchosen, htarget⟩ := htarget
  cases htarget
  by_cases hretry : chosen = .retry ∧ !t.ordinaryEventCapacityAvailable
  · rw [if_pos hretry] at hqueued
    cases hqueued
  · rw [if_neg hretry] at hqueued
    have hchosenRetry : chosen = .retry := by
      cases outcome with
      | failure failure =>
          cases hchosen
          exact retry_of_queued hqueued (failureTarget_ne_queued t _ _ _)
      | completed =>
          unfold outcomeTarget at hchosen
          simp only [bind_eq_ok] at hchosen
          obtain ⟨_, _, hchosen⟩ := hchosen
          cases hchosen
          cases hqueued
      | other _ => cases hchosen
    by_contra hfull
    refine hretry ⟨hchosenRetry, ?_⟩
    unfold Task.ordinaryEventCapacityAvailable
    simpa using hfull

/-- So has a finalization. -/
theorem m4Status_room {runId : Uuid} {terminal : TerminalType}
    {attemptNo : Nat} {status : TaskStatus}
    (hstatus : m4Status t runId terminal attemptNo = some status)
    (hqueued : status.isQueued) : t.ordinaryEvents < t.eventLimit := by
  unfold m4Status at hstatus
  split at hstatus
  · cases hstatus
  · split at hstatus
    · split at hstatus
      · cases hstatus
      · cases hstatus
        cases hqueued
    · split at hstatus
      · cases hstatus
        cases hqueued
      · cases terminal with
        | completed => cases hstatus
        | needsHuman =>
            cases hstatus
            cases hqueued
        | failed failure =>
            dsimp only at hstatus
            split at hstatus
            case isTrue =>
              cases hstatus
              cases hqueued
            case isFalse hfree =>
              cases hstatus
              have hretry := retry_of_queued hqueued
                (m4FailureStatus_ne_queued failure attemptNo _)
              by_contra hfull
              exact hfree (.inr ⟨hretry, Nat.le_of_not_lt hfull⟩)

-- ============================================================= every move

theorem closeActiveLease_queue {clock : Clock}
    (hcloses : closeActiveLease h clock = .ok h') :
    SameQueue h.task h'.task := by
  rcases closeActiveLease_ok hcloses with rfl | h'
  · exact ⟨rfl, rfl, rfl⟩
  · obtain ⟨_, _, _, _, _, _, _, rfl⟩ := h'
    exact ⟨rfl, rfl, rfl⟩

theorem observe_queue {runId : Uuid} {released : Time} {providerCallId : Text}
    {evidence : UsageEvidence} {observationId : Uuid}
    (hok : t.releaseReservations runId released = .ok t') :
    SameQueue t
      (t'.observe runId providerCallId evidence observationId).2 := by
  unfold Task.releaseReservations at hok
  simp only [bind_eq_ok] at hok
  obtain ⟨_, _, hok⟩ := hok
  cases hok
  unfold Task.observe
  split
  · exact ⟨rfl, rfl, rfl⟩
  · exact ⟨rfl, rfl, rfl⟩

/-- A task comes back to the queue with room, and keeps it there. -/
theorem Change.queueable (change : Change h h') (hq : h.task.Queueable) :
    h'.task.Queueable := by
  cases change with
  | @recorded actor action key metadata mandatory room =>
      obtain rfl | hleased := room
      · unfold Task.Queueable
        rw [mandatory_events, record_state,
          (keeps_record h.task actor action key metadata true).eventLimit]
        exact hq
      · apply queueable_of_state
        rw [record_state]
        revert hleased
        cases h.task.state <;> simp [TaskStatus.isLeased, TaskStatus.isQueued]
  | exhausted _ _ _ => exact queueable_of_state rfl
  | renewed => exact hq
  | @phased target edge =>
      apply queueable_of_state
      have hleased := (leased_of_phaseEdge edge).2
      revert hleased
      show target.isLeased = true → target.isQueued = false
      cases target <;> simp [TaskStatus.isLeased, TaskStatus.isQueued]
  | released _ _ _ htarget =>
      intro hqueued
      show h.task.ordinaryEvents < h.task.eventLimit
      exact releaseTarget_room htarget hqueued
  | @expired runId repairs =>
      unfold Task.expireRun
      split
      · exact hq
      · exact hq
  | closed _ hcloses => exact (closeActiveLease_queue hcloses).queueable hq
  | terminated hfinal _ _ =>
      apply queueable_of_state
      obtain rfl | rfl := hfinal
      · rfl
      · rfl
  | orphaned _ _ _ hcloses =>
      obtain ⟨q, _, _, rfl⟩ := closeRun_eq_ok.mp hcloses
      exact hq
  | overdue _ =>
      apply queueable_of_state
      show (if h.task.quarantined then TaskStatus.needsHuman
        else .dead).isQueued = false
      split
      · rfl
      · rfl
  | reserved _ hreserves =>
      obtain ⟨hkeeps, _, hstate, hevents⟩ := reserve_ok hreserves
      exact SameQueue.queueable ⟨hstate, hevents, hkeeps.eventLimit⟩ hq
  | observed _ _ hreleases => exact (observe_queue hreleases).queueable hq
  | blocked _ => exact hq
  | finalized _ _ status hcommits =>
      obtain ⟨h₁, hkeeps, rfl, hevents⟩ := finalizeCommit_ok hcommits
      intro hqueued
      have hroom := m4Status_room status hqueued
      show h₁.task.events.countP _ < h₁.task.eventLimit
      rw [hevents, hkeeps.eventLimit]
      exact hroom

/-- Every task of the queue has room for the event of a claim. -/
def Db.Queueable (db : Db) : Prop := ∀ t ∈ db.tasks, t.Queueable

theorem Move.queueable {call : Call} {db db' : Db} (hroom : call.LeavesRoom)
    (move : Move call db db') (hq : db.Queueable) : db'.Queueable := by
  cases move with
  | @changed t h found change =>
      intro t' ht'
      rcases mem_put ht' with rfl | ⟨ht', _⟩
      · exact change.queueable (hq t (task?_some found).1)
      · exact hq t' ht'
  | leased _ _ _ _ _ _ _ _ =>
      intro t' ht'
      rcases mem_put ht' with rfl | ⟨ht', _⟩
      · exact queueable_of_state rfl
      · exact hq t' ht'
  | @created i reads generation t actor called next checked queued =>
      intro t' ht'
      rcases List.mem_append.mp ht' with ht' | ht'
      · exact hq t' ht'
      · obtain ⟨hfirst, rfl⟩ := event_eq_ok.mp queued
        rw [List.mem_singleton.mp ht']
        rw [called] at hroom
        intro _
        -- one event is there, of a limit that is neither zero nor one
        obtain hfirst | hfirst := hfirst
        · cases hfirst
        · show 1 < i.limits.maxEvents
          have hlimit : 0 < i.limits.maxEvents := hfirst
          have hne : i.limits.maxEvents ≠ 1 := hroom
          omega
  | recorded _ => exact hq
  | switched _ => exact hq

-- ============================================================== the claims

theorem keyed_budget {α : Type} {digests : Digests} {db : Db}
    {key : Option Digest} {actor : Actor} {request : Request}
    {replay : CommandResult → Except Failure α} {record : α → CommandResult}
    {body : Db → Except Failure (α × Db)} {reason : String}
    (hreplay : ∀ prior, replay prior ≠ .error (.budget reason))
    (hover : db.keyed digests key actor request replay record body
      = .error (.budget reason)) : body db = .error (.budget reason) := by
  unfold Db.keyed at hover
  rw [bind_eq_error] at hover
  obtain hprior | ⟨prior, _, hover⟩ := hover
  · unfold Db.commandReplay at hprior
    split at hprior
    · cases hprior
    · simp only [bind_eq_error, check_eq_error] at hprior
      obtain ⟨_, hprior⟩ | ⟨_, _, hprior⟩ := hprior
      · cases hprior
      · cases hprior
  · cases prior with
    | some prior =>
        rw [bind_eq_error] at hover
        obtain hover | ⟨_, _, hover⟩ := hover
        · exact absurd hover (hreplay prior)
        · cases hover
    | none =>
        rw [bind_eq_error] at hover
        obtain hover | ⟨answer, _, hover⟩ := hover
        · exact hover
        · rw [bind_eq_error] at hover
          obtain hover | ⟨_, _, hover⟩ := hover
          · unfold Db.recordCommand at hover
            split at hover
            · cases hover
            · simp only [bind_eq_error, check_eq_error] at hover
              obtain ⟨_, hover⟩ | ⟨_, _, hover⟩ := hover
              · cases hover
              · cases hover
          · cases hover

theorem event_budget {actor : Actor} {action : EventAction} {key : Digest}
    {metadata : List (String × MetadataValue)} {mandatory : Bool}
    {reason : String}
    (hover : t.event actor action key metadata mandatory
      = .error (.budget reason)) :
    mandatory = false ∧ t.eventLimit ≤ t.ordinaryEvents := by
  unfold Task.event at hover
  simp only [bind_eq_error, check_eq_error] at hover
  obtain ⟨hfull, _⟩ | ⟨_, _, hover⟩ := hover
  · rw [not_or] at hfull
    exact ⟨Bool.eq_false_iff.mpr hfull.1, Nat.le_of_not_lt hfull.2⟩
  · cases hover

theorem applyTransition_budget {current : TaskStatus}
    {command : TransitionCommand} {pointer : Task.Pointer}
    {accountingBlocked : Option Bool} {reason : String} :
    t.applyTransition current command pointer accountingBlocked
      ≠ .error (.budget reason) := by
  intro hover
  unfold Task.applyTransition at hover
  simp only [bind_eq_error, check_eq_error] at hover
  obtain ⟨_, hover⟩ | ⟨_, _, hover⟩ := hover
  · cases hover
  · obtain ⟨_, hover⟩ | ⟨_, _, hover⟩ := hover
    · cases hover
    · cases hover

theorem lease_budget {digests : Digests} {r : Run} {actor : Actor}
    {liveWriter : Bool} {reason : String}
    (hover : lease digests h r actor liveWriter = .error (.budget reason)) :
    h.task.eventLimit ≤ h.task.ordinaryEvents := by
  unfold lease at hover
  rw [bind_eq_error] at hover
  obtain hover | ⟨h₁, hh₁, hover⟩ := hover
  · unfold capacityAllocate at hover
    simp only [bind_eq_error, check_eq_error] at hover
    obtain ⟨_, hover⟩ | ⟨_, _, hover⟩ := hover
    · cases hover
    · obtain ⟨_, hover⟩ | ⟨_, _, hover⟩ := hover
      · cases hover
      · cases hover
  · unfold capacityAllocate at hh₁
    simp only [bind_eq_ok] at hh₁
    obtain ⟨_, _, _, _, hh₁⟩ := hh₁
    cases hh₁
    simp only [bind_eq_error, applyTransition_eq_ok] at hover
    obtain hover | ⟨_, ⟨_, _, rfl⟩, hover⟩ := hover
    · exact absurd hover applyTransition_budget
    · obtain hover | ⟨_, _, hover⟩ := hover
      · exact (event_budget hover).2
      · cases hover

theorem retryExhausted_budget {digests : Digests} {actor : Actor}
    {reason : String} :
    retryExhausted digests t actor ≠ .error (.budget reason) := by
  intro hover
  unfold retryExhausted at hover
  rw [bind_eq_error] at hover
  obtain hover | ⟨_, _, hover⟩ := hover
  · exact applyTransition_budget hover
  · cases (event_budget hover).1

/-- A claim is over a budget only because of the task it has selected. -/
theorem claim_budget {digests : Digests} {request : ClaimRequest}
    {actor : Actor} {key : Option Digest} {reads : ClaimReadings} {db : Db}
    {reason : String}
    (hover : claim digests request actor key reads db
      = .error (.budget reason)) :
    ∃ t ∈ db.tasks, t.state.isQueued ∧ t.eventLimit ≤ t.ordinaryEvents := by
  unfold claim at hover
  simp only [bind_eq_error, check_eq_error] at hover
  obtain ⟨_, hover⟩ | ⟨_, _, hover⟩ := hover
  · cases hover
  · have hbody := keyed_budget (by
      intro prior hover
      cases prior <;> cases hover) hover
    split at hbody
    · cases hbody
    · rw [bind_eq_error] at hbody
      obtain hbody | ⟨eligible, _, hbody⟩ := hbody
      · unfold Db.capacityEligibleRepositories at hbody
        split at hbody
        · cases hbody
        · split at hbody
          · cases hbody
          · simp only [bind_eq_error, check_eq_error] at hbody
            obtain ⟨_, hbody⟩ | ⟨_, _, hbody⟩ := hbody
            · cases hbody
            · cases hbody
      · cases hclaimed : db.claimed eligible reads with
        | none =>
            rw [hclaimed] at hbody
            cases hbody
        | some t =>
            rw [hclaimed] at hbody
            obtain ⟨hmem, hclaimable⟩ := claimed_some hclaimed
            refine ⟨t, hmem, (isClaimable_iff.mp hclaimable).1, ?_⟩
            dsimp only at hbody
            unfold claimTask at hbody
            split at hbody
            · simp only [bind_eq_error, check_eq_error] at hbody
              obtain ⟨_, hbody⟩ | ⟨_, _, hbody⟩ := hbody
              · cases hbody
              · obtain ⟨_, hbody⟩ | ⟨_, _, hbody⟩ := hbody
                · cases hbody
                · obtain hbody | ⟨_, _, hbody⟩ := hbody
                  · exact lease_budget hbody
                  · cases hbody
            · rw [bind_eq_error] at hbody
              obtain hbody | ⟨_, _, hbody⟩ := hbody
              · exact absurd hbody retryExhausted_budget
              · cases hbody

/-- In a run whose intakes do not set a limit of one event, no claim is over
a budget, in any state the run comes through. -/
theorem claim_in_budget {digests : Digests} {calls : List Call} {db : Db}
    (hroom : ∀ call ∈ calls, call.LeavesRoom)
    (hvisits : Run.Visits (step digests) {} calls db) (request : ClaimRequest)
    (actor : Actor) (key : Option Digest) (reads : ClaimReadings)
    (reason : String) :
    claim digests request actor key reads db ≠ .error (.budget reason) := by
  obtain ⟨pre, hpre, hrun⟩ := hvisits
  have hI : db.Keyed ∧ db.Queueable := by
    refine Run.run_invariant_along (P := fun _ call => call.LeavesRoom)
      (I := fun db => db.Keyed ∧ db.Queueable) ?_ ?_ ?_ hrun
    · intro db db' call hI hcall hstep
      cases hstep
      exact after_preserves hI.1 (fun _ hq move => move.queueable hcall hq) hI.2
    · refine ⟨⟨List.nodup_nil, ?_⟩, ?_⟩
      · intro t ht
        cases ht
      · intro t ht
        cases ht
    · exact Run.along_of_forall (fun call hcall _ =>
        hroom call (hpre.subset hcall)) _
  intro hover
  obtain ⟨t, ht, hqueued, hfull⟩ := claim_budget hover
  exact absurd (hI.2 t ht hqueued) (Nat.not_lt.mpr hfull)

-- ================================================== a limit of one event

/-- An intake with a limit on its events. -/
def sampleIntake (maxEvents : Nat) (hmax : maxEvents ≤ 100000) :
    TaskIntakeV1 where
  requestId := "request".toList
  repositoryId := "repository".toList
  sourceType := "api".toList
  sourceId := "source".toList
  sourceDigest := .genesis
  routeId := "route".toList
  changeId := "change".toList
  exactBaseSha := List.replicate 40 'a'
  specDigest := .genesis
  architecture := {
    architectureDigest := .genesis
    architectureEvidenceDigest := .genesis
    exactBaseSha := List.replicate 40 'a'
    exactHeadSha := List.replicate 40 'b' }
  governance := {
    governanceDigest := .genesis
    governanceEvidenceDigest := .genesis
    architectureDigest := .genesis
    exactBaseSha := List.replicate 40 'a'
    exactHeadSha := List.replicate 40 'b' }
  policyDigest := .genesis
  m0Authority := .exception "bootstrap".toList "issuer".toList
    "scope".toList ⟨2026, 1, 1, 0, 0, 0, 0, by decide, by decide⟩
  acceptanceIds := ["AC-001".toList]
  limits := {
    wallSeconds := 60
    maxCostUsdMicros := 10
    maxTokenUnits := 10
    maxOutputBytes := 10
    maxEvents := maxEvents
    infrastructureRetries := 1
    semanticRepairs := 1
    bounded := ⟨by decide, by decide, by decide, by decide, hmax, by decide⟩
    repairs := by decide }
  intentDigest := .genesis
  idempotencyKey := .genesis

theorem sampleId_canonical : isCanonicalUuid
    "00000000-0000-4000-8000-000000000001".toList = true := rfl

def sampleId : Uuid where
  text := "00000000-0000-4000-8000-000000000001".toList
  canonical := sampleId_canonical

def sampleClock : Clock where
  now := 0
  row := fun _ => 0
  read := fun _ => 0

/-- A trusted intake. -/
def sampleCall (maxEvents : Nat) (hmax : maxEvents ≤ 100000) : Call :=
  .intake (sampleIntake maxEvents hmax)
    { actorId := "intake".toList, kind := .controlPlane }
    { clock := sampleClock
      taskId := sampleId
      trusted := true
      repairStatus := .ordinary
      projected := fun _ => true }

/-- A claim of a worker for the repository of the intake. -/
def sampleRequest : ClaimRequest where
  owner := "worker".toList
  role := .reader
  repositories := ["repository".toList]
  leaseSeconds := 30

def sampleWorker : Actor where
  actorId := "worker".toList
  kind := .worker

def sampleReads : ClaimReadings where
  clock := sampleClock
  runId := sampleId
  locked := fun _ => false
  claimable := fun _ => true

def sampleDigests : Digests where
  event := fun _ => .genesis
  request := fun _ => .genesis
  intakeCommandKey := fun _ => .genesis
  usageObservationKey := fun key => key

theorem claim_in_budget_sample :
    (∀ call ∈ [sampleCall 2 (by decide)], call.LeavesRoom)
      ∧ ∃ db, Run.Visits (step sampleDigests) {}
          [sampleCall 2 (by decide)] db
        ∧ claim sampleDigests sampleRequest sampleWorker none sampleReads db
          ≠ .error (.budget "event budget exceeded") := by
  have hroom : ∀ call ∈ [sampleCall 2 (by decide)], call.LeavesRoom := by
    intro call hcall
    rw [List.mem_singleton.mp hcall]
    show (2 : Nat) ≠ 1
    decide
  have hvisits : Run.Visits (step sampleDigests) {} [sampleCall 2 (by decide)]
      (Db.after sampleDigests {} (sampleCall 2 (by decide))) :=
    ⟨_, List.prefix_rfl, rfl⟩
  exact ⟨hroom, _, hvisits, claim_in_budget hroom hvisits _ _ _ _ _⟩

/-- After an intake with a limit of one event, which `from_dict` accepts, the
claim of a worker is over the budget. -/
theorem claim_over_budget :
    TaskLimitsV1.fromDict (sampleIntake 1 (by decide)).limits.toDict
        = .ok (sampleIntake 1 (by decide)).limits
      ∧ ∃ db, Run.run (step sampleDigests) {} [sampleCall 1 (by decide)]
          = some db
        ∧ claim sampleDigests sampleRequest sampleWorker none sampleReads db
          = .error (.budget "event budget exceeded") :=
  ⟨TaskLimitsV1.fromDict_toDict _, _, rfl, rfl⟩

end Exolon.Store
