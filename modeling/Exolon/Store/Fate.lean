/-
A failure has the same fate, whether it is finalized or released.

The execution plane decides in the database what a failed run leaves its
task in (`m4Status`), and a release decides it in the store
(`releaseLocked`). They test in another order, and for open reservations the
one looks at the run, the other at the task. Where the open reservations of
a task are those of its live run they come to the same
(`m4Status_failed`).

A completed run is finalized to `ready_for_human` exactly where a release
would accept it, as far as the accounting goes (`m4Status_completed`). The
release also asks for a state to complete from, which is `leased` or
`reviewing`; a run is only ever finalized from `leased`.
-/
import Exolon.Store.Lease

namespace Exolon.Store

open Factory Transaction

variable {digest : EventIdentity → Digest} {h : Held} {t : Task}
  {grant : LeaseGrant} {actor : Actor} {allowExpired : Bool} {clock : Clock}
  {r : Run}

/-- The grant tells of the live lease of the task: `_lock_grant` finds its
run, no other run has its id, and the counters count it. -/
structure Held.Leased (h : Held) (grant : LeaseGrant) (allowExpired : Bool)
    (clock : Clock) (r : Run) : Prop where
  locked : h.task.lockGrant grant allowExpired clock = .ok r
  only : ∀ r' ∈ h.task.runs, r'.runId = r.runId → r' = r
  counted : ∀ s ∈ r.allocation.scopes, 0 < h.counters s

/-- The open reservations of the task are those of the run. -/
def Task.ReservedBy (t : Task) (r : Run) : Prop :=
  ∀ b ∈ t.reservations, b.releasedAt = none → b.runId = r.runId

-- ============================================================ the targets

/-- The two classifications of a failure. -/
theorem classifyRetry_eq {failure : FailureClass} {attemptNo retries : Nat}
    (hattempt : 1 ≤ attemptNo) (hretries : retries ≤ 2) :
    (if (classifyRetry failure attemptNo retries).retry then .retry
      else (classifyRetry failure attemptNo retries).terminal.getD .needsHuman)
      = m4FailureStatus failure attemptNo retries := by
  have hvalid : ¬ (attemptNo < 1 ∨ 2 < retries) := by omega
  unfold classifyRetry
  rw [if_neg hvalid]
  by_cases hleft : retries < attemptNo
  · cases failure <;> simp [retryable, m4FailureStatus, hleft]
  · cases failure <;> simp [retryable, m4FailureStatus, hleft]

theorem hasReservation_eq (hown : t.ReservedBy r) :
    t.hasReservation = t.runHasReservation r.runId := by
  unfold Task.hasReservation Task.runHasReservation
  rw [Bool.eq_iff_iff, List.any_eq_true, List.any_eq_true]
  constructor
  · intro h
    obtain ⟨b, hb, hopen⟩ := h
    have hnone := Option.isNone_iff_eq_none.mp hopen
    exact ⟨b, hb, decide_eq_true ⟨hown b hb hnone, hnone⟩⟩
  · intro h
    obtain ⟨b, hb, hopen⟩ := h
    exact ⟨b, hb, Option.isNone_iff_eq_none.mpr (of_decide_eq_true hopen).2⟩

theorem settled_iff :
    t.settled ↔ ¬ (t.accountingBlocked ∨ t.costReserved ≠ 0
      ∨ t.tokensReserved ≠ 0 ∨ t.wallReserved ≠ 0) := by
  unfold Task.settled
  simp [and_assoc]

theorem failureTarget_eq (failure : FailureClass) :
    failureTarget t r.attemptNo failure false
      = if t.quarantined then .needsHuman
        else m4FailureStatus failure r.attemptNo t.infrastructureRetries := by
  rw [← classifyRetry_eq r.attempt.1 t.retries]
  rfl

theorem ordinary_full :
    (!t.ordinaryEventCapacityAvailable) = true
      ↔ t.eventLimit ≤ t.ordinaryEvents := by
  unfold Task.ordinaryEventCapacityAvailable
  simp

theorem valid_attempt (t : Task) (r : Run) :
    ¬ (r.attemptNo < 1 ∨ 2 < t.infrastructureRetries) := by
  have hattempt := r.attempt
  have hretries := t.retries
  omega

/-- A failure is finalized to the target of its release. -/
theorem m4Status_failed (hown : t.ReservedBy r) (failure : FailureClass) :
    ∃ target, releaseTarget t r (.failure failure) false = .ok target
      ∧ m4Status t r.runId (.failed failure) r.attemptNo = some target := by
  refine ⟨_, rfl, ?_⟩
  unfold m4Status
  rw [if_neg (valid_attempt t r), if_neg (by simp), failureTarget_eq,
    ← hasReservation_eq hown]
  simp only [ordinary_full]
  unfold Task.quarantined
  by_cases hsettled : t.settled
  · rw [if_neg (settled_iff.mp hsettled), hsettled]
    by_cases hreserved : t.hasReservation
    · simp [hreserved]
    · simp only [hreserved, Bool.not_true, Bool.false_or, Bool.false_eq_true,
        if_false, false_or]
      split
      · rfl
      · rfl
  · have hunsettled := mt settled_iff.mpr hsettled
    rw [not_not] at hunsettled
    rw [if_pos hunsettled]
    simp [hsettled]

/-- A completed run is finalized where its release would have a target. -/
theorem m4Status_completed (hown : t.ReservedBy r) :
    m4Status t r.runId .completed r.attemptNo = some .readyForHuman
      ↔ releaseTarget t r .completed false = .ok .readyForHuman := by
  unfold m4Status releaseTarget outcomeTarget
  rw [if_neg (valid_attempt t r), if_pos rfl, ← hasReservation_eq hown]
  simp only [bind_eq_ok, check_eq_ok]
  split
  · rename_i hrefused
    apply iff_of_false
    · intro h
      cases h
    · intro h
      obtain ⟨_, ⟨_, haccepted, _⟩, _⟩ := h
      exact haccepted hrefused
  · rename_i haccepted
    apply iff_of_true rfl
    exact ⟨_, ⟨.unit, haccepted, rfl⟩, rfl⟩

-- ============================================================== the fates

/-- A live lease holds its capacity. -/
theorem Held.Leased.holding (hleased : h.Leased grant allowExpired clock r) :
    h.task.holding grant.runId = some r := by
  obtain ⟨hr, hgranted⟩ := lockGrant_eq_ok hleased.locked
  have hid := hgranted.1
  have hfree : r.allocation.releasedAt = none := hgranted.2.2.2.2.2.2.2.2.1
  cases hq : h.task.holding grant.runId with
  | none =>
      have hnone := List.find?_eq_none.mp hq r hr
      exact absurd (decide_eq_true ⟨hid, hfree⟩) hnone
  | some q =>
      obtain ⟨hmem, hqid, _⟩ := holding_some hq
      rw [hleased.only q hmem (hqid.trans hid.symm)]

/-- A live lease is released where the outcome has a target and the
transition to it is allowed. -/
theorem Held.Leased.releases (hleased : h.Leased grant allowExpired clock r)
    {outcome : Outcome} {deadlineExpired : Bool} {target : TaskStatus} :
    (∃ h', releaseLocked digest h grant outcome actor allowExpired
        deadlineExpired clock = .ok (target, h'))
      ↔ releaseTarget h.task r outcome deadlineExpired = .ok target
        ∧ (authorizeTransition h.task.state target
          (releaseCommand outcome allowExpired target)).code = .allowed := by
  simp only [releaseLocked_eq_ok]
  constructor
  · intro hreleases
    obtain ⟨h', r', q, hlock, _, _, htarget, hallowed, _⟩ := hreleases
    rw [hleased.locked] at hlock
    cases hlock
    exact ⟨htarget, hallowed⟩
  · intro hgoes
    exact ⟨_, r, r, hleased.locked, hleased.holding, hleased.counted, hgoes.1,
      hgoes.2, rfl⟩

theorem failureTarget_mem (t : Task) (r : Run) (failure : FailureClass) :
    ∃ target, releaseTarget t r (.failure failure) false = .ok target
      ∧ (target = .retry ∨ target = .needsHuman ∨ target = .dead) := by
  refine ⟨_, rfl, ?_⟩
  rw [failureTarget_eq]
  have hclass : m4FailureStatus failure r.attemptNo t.infrastructureRetries
        = .retry
      ∨ m4FailureStatus failure r.attemptNo t.infrastructureRetries
        = .needsHuman
      ∨ m4FailureStatus failure r.attemptNo t.infrastructureRetries
        = .dead := by
    unfold m4FailureStatus
    by_cases hleft : t.infrastructureRetries < r.attemptNo
    · cases failure <;> simp [hleft]
    · cases failure <;> simp [hleft]
  split
  · exact .inr (.inl rfl)
  · split
    · exact .inr (.inl rfl)
    · exact hclass

/-- A failed run is released to what it would be finalized to, in every state
of a lease, and after the lease has run out. -/
theorem failed_fate (hleased : h.Leased grant allowExpired clock r)
    (hown : h.task.ReservedBy r) (failure : FailureClass) :
    ∃ target h', m4Status h.task r.runId (.failed failure) r.attemptNo
        = some target
      ∧ releaseLocked digest h grant (.failure failure) actor allowExpired
        false clock = .ok (target, h') := by
  obtain ⟨target, htarget, hstatus⟩ := m4Status_failed hown failure
  obtain ⟨target', htarget', hmem⟩ := failureTarget_mem h.task r failure
  rw [htarget] at htarget'
  cases htarget'
  have hstate : h.task.state.isLeased :=
    (lockGrant_eq_ok hleased.locked).2.2.2.2.2.2.2.2.2.2.2.2.2.1
  have hallowed : (authorizeTransition h.task.state target
      (releaseCommand (.failure failure) allowExpired target)).code
        = .allowed := by
    cases allowExpired with
    | false => exact (allowed_failure (.inl ⟨rfl, rfl⟩)).mpr ⟨hstate, hmem⟩
    | true => exact (allowed_failure (.inr ⟨rfl, rfl⟩)).mpr ⟨hstate, hmem⟩
  obtain ⟨h', hreleases⟩ := hleased.releases.mpr ⟨htarget, hallowed⟩
  exact ⟨target, h', hstatus, hreleases⟩

/-- The release accepts `completed`. -/
def Accepts (digest : EventIdentity → Digest) (h : Held) (grant : LeaseGrant)
    (actor : Actor) (clock : Clock) : Prop :=
  ∃ answer, releaseLocked digest h grant .completed actor false false clock
    = .ok answer

/-- A completed run is released from `leased` and from `reviewing`. -/
theorem completed_fate (hleased : h.Leased grant false clock r)
    (hown : h.task.ReservedBy r) :
    Accepts digest h grant actor clock
      ↔ m4Status h.task r.runId .completed r.attemptNo = some .readyForHuman
        ∧ (h.task.state = .leased ∨ h.task.state = .reviewing) := by
  have hready : ∀ target,
      releaseTarget h.task r .completed false = .ok target
        → target = .readyForHuman := by
    intro target htarget
    unfold releaseTarget outcomeTarget at htarget
    simp only [bind_eq_ok, check_eq_ok] at htarget
    obtain ⟨_, ⟨_, _, htarget'⟩, htarget⟩ := htarget
    cases htarget'
    cases htarget
    rfl
  rw [m4Status_completed hown, ← allowed_releaseCompleted]
  constructor
  · intro haccepts
    obtain ⟨⟨target, h'⟩, hreleases⟩ := haccepts
    obtain ⟨htarget, hallowed⟩ := hleased.releases.mp ⟨h', hreleases⟩
    cases hready target htarget
    exact ⟨htarget, hallowed⟩
  · intro hgoes
    obtain ⟨h', hreleases⟩ := hleased.releases.mpr hgoes
    exact ⟨_, hreleases⟩

/-- Finalizing and releasing decide the same: a failure has one target, and
`completed` is accepted by both or by none. A task in another state of a
lease than `leased` is not finalized; from these states the release accepts
in `reviewing` only. -/
structure SameFate (digest : EventIdentity → Digest) (h : Held)
    (grant : LeaseGrant) (actor : Actor) (clock : Clock) (r : Run) : Prop where
  failed : ∀ failure, ∃ target h',
    m4Status h.task r.runId (.failed failure) r.attemptNo = some target
      ∧ releaseLocked digest h grant (.failure failure) actor false false
        clock = .ok (target, h')
  completed : h.task.state = .leased →
    (m4Status h.task r.runId .completed r.attemptNo = some .readyForHuman
      ↔ Accepts digest h grant actor clock)
  accepts : Accepts digest h grant actor clock
    ↔ m4Status h.task r.runId .completed r.attemptNo = some .readyForHuman
      ∧ (h.task.state = .leased ∨ h.task.state = .reviewing)

theorem same_fate (digest : EventIdentity → Digest) {h : Held}
    {grant : LeaseGrant} (actor : Actor) {clock : Clock} {r : Run}
    (hleased : h.Leased grant false clock r) (hown : h.task.ReservedBy r) :
    SameFate digest h grant actor clock r where
  failed := failed_fate hleased hown
  completed hstate := by
    rw [completed_fate hleased hown]
    exact ⟨fun hready => ⟨hready, .inl hstate⟩, fun haccepts => haccepts.1⟩
  accepts := completed_fate hleased hown

def sampleRunId : Uuid where
  text := "00000000-0000-4000-8000-000000000001".toList
  canonical := rfl

theorem sampleRun_attempt : 1 ≤ 1 ∧ 1 ≤ 3 := by decide

def sampleRun : Run where
  runId := sampleRunId
  owner := "worker".toList
  role := .reader
  packetDigest := .genesis
  fence := 1
  state := .leased
  leaseExpiresAt := 30
  deadlineAt := 60
  attemptNo := 1
  allocation := { repositoryId := "exolon".toList, role := .reader }
  attempt := sampleRun_attempt

/-- A leased task whose usage was observed. -/
def sampleTask : Task where
  taskId := sampleRunId
  repositoryId := "exolon".toList
  sourceType := "manual".toList
  sourceId := "1".toList
  state := .leased
  generation := 1
  intentDigest := .genesis
  workKey := .genesis
  packetDigest := .genesis
  currentRunId := some sampleRunId
  currentFence := some 1
  deadlineAt := 60
  createdAt := 0
  costLimit := 10
  tokenLimit := 10
  outputLimit := 10
  eventLimit := 10
  wallLimit := 60
  repairLimit := 1
  infrastructureRetries := 1
  runs := [sampleRun]
  observations := [{
    observationId := sampleRunId
    runId := sampleRunId
    providerCallId := "call".toList
    evidence := {
      priceTableDigest := .genesis
      cost := 1
      tokens := 1
      output := 1
      components := {} } }]
  retries := by decide

def sampleGrant : LeaseGrant where
  taskId := sampleRunId
  runId := sampleRunId
  owner := "worker".toList
  role := .reader
  fence := 1
  expiresAt := 30
  packetDigest := .genesis

theorem same_fate_sample : SameFate (fun _ => .genesis)
    { counters := fun _ => 1, task := sampleTask } sampleGrant
    { actorId := "worker".toList, kind := .worker }
    { now := 0, row := fun _ => 0, read := fun _ => 0 } sampleRun :=
  same_fate _ _
    { locked := rfl
      only := by
        intro r hr _
        exact List.mem_singleton.mp hr
      counted := fun _ _ => Nat.one_pos }
    (by
      intro b hb _
      cases hb)

end Exolon.Store
