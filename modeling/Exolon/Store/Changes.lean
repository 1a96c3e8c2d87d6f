/-
What the store does to one task and the counters: a chain of a few kinds of
changes.

`Change` lists them, each with what the store has checked before. The
commands on one task take it along changes only, and a theorem of each
command says so. No change writes what the intake has set (`Change.row`).
-/
import Exolon.Store.Calls

namespace Exolon.Store

open Factory Contracts Transaction Relation

-- =============================================================== changes

/-- The store changes a task. -/
inductive Change : Held → Held → Prop
  /-- An event; only a leased task has ordinary ones. -/
  | recorded {h : Held} {actor : Actor} {action : EventAction} {key : Digest}
      {metadata : List (String × MetadataValue)} {mandatory : Bool}
      (room : mandatory = true
        ∨ h.task.state.isLeased ∧ h.task.ordinaryEvents < h.task.eventLimit) :
      Change h
        { h with task := h.task.record actor action key metadata mandatory }
  /-- No attempt is left. -/
  | exhausted {h : Held} (queued : h.task.state.isQueued)
      (settled : h.task.settled) (free : h.task.hasReservation = false) :
      Change h { h with task := h.task.moved .dead .keep none }
  | renewed {h : Held} {runId : Uuid} {expires : Time} :
      Change h { h with
        task := h.task.updateRun runId fun r =>
          { r with leaseExpiresAt := expires } }
  | phased {h : Held} {target : TaskStatus}
      (edge : phaseEdge h.task.state = some target) :
      Change h { h with task := h.task.moved target .keep none }
  | released {h : Held} {grant : LeaseGrant} {r q : Run} {outcome : Outcome}
      {allowExpired deadlineExpired : Bool} {state : RunStatus} {clock : Clock}
      {target : TaskStatus}
      (locked : h.task.lockGrant grant allowExpired clock = .ok r)
      (holding : h.task.holding grant.runId = some q)
      (counted : ∀ s ∈ q.allocation.scopes, 0 < h.counters s)
      (target_eq : releaseTarget h.task r outcome deadlineExpired = .ok target) :
      Change h { h.ended q state clock with
        task := (h.ended q state clock).task.moved target .clear
          (if outcome.isFailure && h.task.quarantined then some true
            else none) }
  /-- A run that was released is marked as expired. -/
  | expired {h : Held} {runId : Uuid} {repairs : Bool} :
      Change h { h with task := h.task.expireRun runId repairs }
  /-- A terminal task loses its lease. -/
  | closed {h h' : Held} {clock : Clock} (terminal : h.task.state.isTerminal)
      (closes : closeActiveLease h clock = .ok h') : Change h h'
  /-- A task is cancelled or superseded, and loses its lease. -/
  | terminated {h h' : Held} {clock : Clock} {target : TaskStatus}
      (final : target = .cancelled ∨ target = .superseded)
      (closes : closeActiveLease h clock = .ok h')
      (active : h'.task.currentRunId = none ∧ h'.task.state.isTerminal = false) :
      Change h { h' with
        task := h'.task.moved target .clear (some h'.task.quarantined) }
  /-- A live run that its task does not point to is closed. -/
  | orphaned {h h' : Held} {r : Run} {clock : Clock} {refusal : Failure}
      (mem : r ∈ h.task.runs) (live : r.isLive)
      (astray : ¬ (h.task.state.isLeased ∧ h.task.currentRunId = some r.runId
        ∧ h.task.currentFence = some r.fence))
      (closes : h.closeRun r.runId .expired clock refusal = .ok h') :
      Change h h'
  /-- A queued task is past its deadline. -/
  | overdue {h : Held} (queued : h.task.state.isQueued) :
      Change h { h with
        task := h.task.moved
          (if h.task.quarantined then .needsHuman else .dead) .clear
          (some h.task.quarantined) }
  | reserved {h h' : Held} {grant : LeaseGrant} {r : Run} {clock : Clock}
      {amounts : Amounts} {reasonDigest key : Digest} {reservationId : Uuid}
      (locked : h.task.lockGrant grant false clock = .ok r)
      (reserves : reserve grant amounts reasonDigest key reservationId h
        = .ok (reservationId, h')) : Change h h'
  /-- The usage of a call is observed; it is counted, or it blocks. -/
  | observed {h : Held} {t : Task} {grant : LeaseGrant} {r : Run}
      {clock : Clock} {providerCallId : Text} {evidence : UsageEvidence}
      {observationId : Uuid} {released : Time}
      (locked : h.task.lockGrant grant false clock = .ok r)
      (first : ∀ u ∈ h.task.observations,
        ¬ (u.runId = grant.runId ∧ u.providerCallId = providerCallId))
      (releases : h.task.releaseReservations grant.runId released = .ok t) :
      Change h { h with
        task := (t.observe grant.runId providerCallId evidence
          observationId).2 }
  /-- A usage without a price table blocks. -/
  | blocked {h : Held} {grant : LeaseGrant} {r : Run} {clock : Clock}
      (locked : h.task.lockGrant grant false clock = .ok r) :
      Change h { h with task := { h.task with accountingBlocked := true } }
  | finalized {h h' : Held} {grant : LeaseGrant} {r : Run} {clock : Clock}
      {terminal : TerminalType} {result : WorkspaceResult}
      (mem : r ∈ h.task.runs) (found : h.task.IsFinalizable grant clock r)
      (status : m4Status h.task r.runId terminal r.attemptNo
        = some result.m4Status)
      (commits : finalizeCommit h r terminal result clock = .ok h') :
      Change h h'

/-- A chain of changes. -/
abbrev Changes : Held → Held → Prop := ReflTransGen Change

theorem Change.single {h h' : Held} (change : Change h h') : Changes h h' :=
  ReflTransGen.single change

/-- The row as its intake created it. -/
def Task.created (t : Task) : Task :=
  { t with
    state := .queued, currentRunId := none, currentFence := none
    costReserved := 0, costObserved := 0, tokensReserved := 0
    tokensObserved := 0, wallReserved := 0, accountingBlocked := false
    repairCount := 0, lastFence := 0, runs := [], reservations := []
    observations := [], events := [] }

-- ================================================== the ways out of a lease

/-- A task without a live lease is left alone; a live one is closed. -/
theorem closeActiveLease_ok {h h' : Held} {clock : Clock}
    (hcloses : closeActiveLease h clock = .ok h') :
    h' = h ∨ ∃ r q, r ∈ h.task.runs ∧ h.task.currentRunId = some r.runId
      ∧ r.releasedAt = none ∧ h.task.holding r.runId = some q
      ∧ (∀ s ∈ q.allocation.scopes, 0 < h.counters s)
      ∧ h' = { h.ended q .released clock with
        task := { (h.ended q .released clock).task with
          currentRunId := none, currentFence := none } } := by
  unfold closeActiveLease at hcloses
  cases hr : h.task.runs.find? _ with
  | none =>
      rw [hr] at hcloses
      cases hcloses
      exact .inl rfl
  | some r =>
      rw [hr] at hcloses
      dsimp only at hcloses
      by_cases hlock : h.capacityLockRun r.runId
      · rw [if_pos hlock, bind_eq_ok] at hcloses
        obtain ⟨ended, hended, hh'⟩ := hcloses
        cases hh'
        obtain ⟨q, hq, hcounted, rfl⟩ := closeRun_eq_ok.mp hended
        have hp := List.find?_some hr
        obtain ⟨hcurrent, hopen⟩ := of_decide_eq_true hp
        exact .inr ⟨r, q, List.mem_of_find?_eq_some hr, hcurrent, hopen, hq,
          hcounted, rfl⟩
      · rw [if_neg hlock] at hcloses
        cases hcloses
        exact .inl rfl

theorem terminalizeTurn_ok {h h' : Held} {target : TaskStatus} {clock : Clock}
    {turn : Turn}
    (hturn : terminalizeTurn h target clock = .ok (turn, h')) :
    ∃ closed, closeActiveLease h clock = .ok closed ∧
      match turn with
      | .changed _ => closed.task.currentRunId = none
          ∧ closed.task.state.isTerminal = false
          ∧ h' = { closed with
            task := closed.task.moved target .clear
              (some closed.task.quarantined) }
      | .terminal => closed.task.state.isTerminal ∧ h' = closed
      | .leased => closed.task.currentRunId ≠ none ∧ h' = closed := by
  unfold terminalizeTurn at hturn
  rw [bind_eq_ok] at hturn
  obtain ⟨closed, hclosed, hturn⟩ := hturn
  refine ⟨closed, hclosed, ?_⟩
  by_cases hactive : closed.task.currentRunId = none
      ∧ closed.task.state.isTerminal = false
  · rw [if_pos hactive, bind_eq_ok] at hturn
    obtain ⟨t, ht, hturn⟩ := hturn
    cases hturn
    obtain ⟨_, _, rfl⟩ := applyTransition_eq_ok.mp ht
    exact ⟨hactive.1, hactive.2, rfl⟩
  · rw [if_neg hactive] at hturn
    by_cases hterminal : closed.task.state.isTerminal
    · rw [if_pos hterminal] at hturn
      cases hturn
      exact ⟨hterminal, rfl⟩
    · rw [if_neg hterminal] at hturn
      cases hturn
      refine ⟨fun hnone => hactive ⟨hnone, ?_⟩, rfl⟩
      exact Bool.eq_false_iff.mpr hterminal

/-- A lease that could not be closed is there in the next turn. -/
theorem terminalizeTurn_leased {h h' : Held} {target : TaskStatus}
    {clock : Clock} (hturn : terminalizeTurn h target clock = .ok (.leased, h')) :
    h' = h := by
  obtain ⟨closed, hclosed, hleased, rfl⟩ := terminalizeTurn_ok hturn
  rcases closeActiveLease_ok hclosed with h' | h'
  · exact h'
  · obtain ⟨r, q, _, _, _, _, _, rfl⟩ := h'
    exact absurd rfl hleased

/-- A task is terminated in one turn, or not at all. -/
theorem changes_terminalizeTask {target : TaskStatus} {clock : Clock}
    {attempts : Nat} {h h' : Held} {result : Option Terminalization}
    (hfinal : target = .cancelled ∨ target = .superseded)
    (hdone : terminalizeTask target clock attempts h = .ok (result, h')) :
    Changes h h' := by
  induction attempts with
  | zero => cases hdone
  | succ attempts ih =>
      unfold terminalizeTask at hdone
      rw [bind_eq_ok] at hdone
      obtain ⟨⟨turn, h₁⟩, hturn, hdone⟩ := hdone
      have hok := terminalizeTurn_ok hturn
      cases turn with
      | changed _ =>
          cases hdone
          obtain ⟨closed, hcloses, hnone, hactive, rfl⟩ := hok
          exact .single (.terminated hfinal hcloses ⟨hnone, hactive⟩)
      | terminal =>
          cases hdone
          obtain ⟨closed, hcloses, hterminal, rfl⟩ := hok
          refine .single (.closed ?_ hcloses)
          rcases closeActiveLease_ok hcloses with h' | h'
          · rw [← h']
            exact hterminal
          · obtain ⟨r, q, _, _, _, _, _, rfl⟩ := h'
            exact hterminal
      | leased =>
          rw [terminalizeTurn_leased hturn] at hdone
          exact ih hdone

section Commands

variable {digests : Digests} {h h' : Held} {grant : LeaseGrant}
  {actor : Actor} {clock : Clock}

/-- What `releaseLocked` does. -/
theorem changes_releaseLocked {digest : EventIdentity → Digest}
    {outcome : Outcome} {allowExpired deadlineExpired : Bool}
    {target : TaskStatus}
    (hok : releaseLocked digest h grant outcome actor allowExpired
      deadlineExpired clock = .ok (target, h')) : Changes h h' := by
  obtain ⟨r, q, hlock, hq, hcounted, htarget, _, rfl⟩ :=
    releaseLocked_eq_ok.mp hok
  exact ReflTransGen.tail (.single (.released hlock hq hcounted htarget))
    (.recorded (.inl rfl))

theorem changes_releaseExpired {failure : FailureClass}
    {deadlineExpired repairs : Bool}
    (hok : releaseExpired digests h grant failure actor deadlineExpired repairs
      clock = .ok h') : Changes h h' := by
  unfold releaseExpired at hok
  rw [bind_eq_ok] at hok
  obtain ⟨answer, hanswer, hok⟩ := hok
  cases hok
  exact ReflTransGen.tail (changes_releaseLocked hanswer) .expired

theorem changes_renew {answer : LeaseGrant}
    (hok : renew grant clock h = .ok (answer, h')) : Changes h h' := by
  unfold renew at hok
  rw [bind_eq_ok] at hok
  obtain ⟨r, _, hok⟩ := hok
  cases hok
  exact .single .renewed

theorem changes_enterPhase {target answer : TaskStatus}
    (hok : enterPhase digests grant target actor clock h = .ok (answer, h')) :
    Changes h h' := by
  unfold enterPhase at hok
  simp only [bind_eq_ok, applyTransition_eq_ok, event_eq_ok] at hok
  obtain ⟨r, _, t, ⟨hallowed, _, rfl⟩, t', ⟨hroom, rfl⟩, hok⟩ := hok
  cases hok
  have hedge := allowed_phase.mp hallowed
  refine ReflTransGen.tail (.single (.phased hedge)) (.recorded ?_)
  obtain hroom | hroom := hroom
  · cases hroom
  · exact .inr ⟨(leased_of_phaseEdge hedge).2, hroom⟩

theorem changes_closeOrphanRun {digest : EventIdentity → Digest}
    {runId : Uuid} {answer : Bool}
    (astray : ∀ r ∈ h.task.runs, r.runId = runId →
      ¬ (h.task.state.isLeased ∧ h.task.currentRunId = some runId
        ∧ h.task.currentFence = some r.fence))
    (hok : closeOrphanRun digest h runId actor clock = .ok (answer, h')) :
    Changes h h' := by
  unfold closeOrphanRun at hok
  cases hr : h.task.runs.find? _ with
  | none =>
      rw [hr] at hok
      cases hok
      exact .refl
  | some r =>
      rw [hr] at hok
      simp only [bind_eq_ok, event_eq_ok] at hok
      obtain ⟨closed, hcloses, t, ⟨_, rfl⟩, hok⟩ := hok
      cases hok
      have hp := List.find?_some hr
      obtain ⟨hid, hlive⟩ := of_decide_eq_true hp
      have hmem := List.mem_of_find?_eq_some hr
      have hastray := astray r hmem hid
      rw [← hid] at hastray
      exact ReflTransGen.tail
        (.single (.orphaned hmem (decide_eq_true hlive) hastray hcloses))
        (.recorded (.inl rfl))

theorem changes_terminalizeExpired {digest : EventIdentity → Digest}
    {answer : Bool} {t : Task}
    (hok : terminalizeExpiredUnleasedTask digest h.task actor clock
      = .ok (answer, t)) : Changes h { h with task := t } := by
  unfold terminalizeExpiredUnleasedTask at hok
  split at hok
  case isTrue hqueued =>
    simp only [bind_eq_ok, applyTransition_eq_ok, event_eq_ok] at hok
    obtain ⟨t', ⟨_, _, rfl⟩, t'', ⟨_, rfl⟩, hok⟩ := hok
    cases hok
    exact ReflTransGen.tail (.single (.overdue hqueued.1))
      (.recorded (.inl rfl))
  case isFalse =>
    cases hok
    exact .refl

/-- The candidate tells of the task's run what is so. -/
def Candidate.Of (t : Task) : Candidate → Prop
  | .run _ runId _ _ fence _ _ => ∀ r ∈ t.runs, r.runId = runId → r.fence = fence
  | .taskDeadline _ => True

/-- What the reconciliation does to one candidate. -/
theorem changes_reconcileCandidate {candidate : Candidate} {answer : Bool}
    (hof : candidate.Of h.task)
    (hok : reconcileCandidate digests candidate actor clock h
      = .ok (answer, h')) : Changes h h' := by
  cases candidate with
  | taskDeadline taskId =>
      unfold reconcileCandidate at hok
      dsimp only at hok
      rw [bind_eq_ok] at hok
      obtain ⟨expired, hexpired, hok⟩ := hok
      cases hok
      exact changes_terminalizeExpired hexpired
  | run taskId runId owner role fence expires packetDigest =>
      unfold reconcileCandidate at hok
      dsimp only at hok
      split at hok
      case isFalse =>
        cases hok
        exact .refl
      case isTrue =>
        split at hok
        case isTrue =>
          rw [bind_eq_ok] at hok
          obtain ⟨released, hreleased, hok⟩ := hok
          cases hok
          exact changes_releaseExpired hreleased
        case isFalse hstray =>
          rw [bind_eq_ok] at hok
          obtain ⟨orphan, horphan, hok⟩ := hok
          have hchanges : Changes h orphan.2 := by
            refine changes_closeOrphanRun ?_ horphan
            intro r hr hid
            rw [hof r hr hid]
            exact hstray
          split at hok
          case isTrue =>
            rw [bind_eq_ok] at hok
            obtain ⟨expired, hexpired, hok⟩ := hok
            cases hok
            exact hchanges.trans (changes_terminalizeExpired hexpired)
          case isFalse =>
            cases hok
            exact hchanges

/-- What a cancelled task goes through. -/
theorem changes_cancelTask {reason : Text} {key : Digest} {projected : Bool}
    {answer : Unit}
    (hok : cancelTask reason key actor clock projected h
      = .ok (answer, h')) : Changes h h' := by
  unfold cancelTask at hok
  rw [bind_eq_ok] at hok
  obtain ⟨⟨result, h₁⟩, hterminated, hok⟩ := hok
  have hchanges := changes_terminalizeTask (.inl rfl) hterminated
  cases result with
  | none =>
      cases hok
      exact hchanges
  | some result =>
      simp only [bind_eq_ok, event_eq_ok] at hok
      obtain ⟨_, _, t, ⟨_, rfl⟩, hok⟩ := hok
      cases hok
      exact hchanges.tail (.recorded (.inl rfl))

/-- What a superseded task goes through. -/
theorem changes_supersedeTask {intake : TaskIntakeV1} {reads : IntakeReadings}
    {oldId : Uuid} {answer : Unit}
    (hok : supersedeTask digests intake actor reads oldId h
      = .ok (answer, h')) : Changes h h' := by
  unfold supersedeTask at hok
  rw [bind_eq_ok] at hok
  obtain ⟨⟨result, h₁⟩, hterminated, hok⟩ := hok
  have hchanges := changes_terminalizeTask (.inr rfl) hterminated
  cases result with
  | none =>
      cases hok
      exact hchanges
  | some result =>
      simp only [bind_eq_ok, event_eq_ok] at hok
      obtain ⟨_, _, t, ⟨_, rfl⟩, hok⟩ := hok
      cases hok
      exact hchanges.tail (.recorded (.inl rfl))

theorem changes_finalizeLocked {digest : EventIdentity → Digest}
    {packetDigest : Digest} {plane : ExecutionPlane} {result : WorkspaceResult}
    (hok : finalizeLocked digest h grant packetDigest plane actor clock
      = .ok (result, h')) : Changes h h' := by
  unfold finalizeLocked at hok
  simp only [bind_eq_ok, fetch_eq_ok, event_eq_ok] at hok
  obtain ⟨_, _, r, hr, terminal, _, status, hstatus, _, _, _, _, h₁, hcommits,
    t, ⟨_, rfl⟩, hok⟩ := hok
  cases hok
  have hp := List.find?_some hr
  have hfound := of_decide_eq_true hp
  exact ReflTransGen.tail
    (.single (.finalized (List.mem_of_find?_eq_some hr) hfound hstatus
      hcommits))
    (.recorded (.inl rfl))

theorem changes_observeHeld {report : UsageReport} {observationId : Uuid}
    {answer : Observed}
    (hok : observeHeld grant report observationId clock h
      = .ok (answer, h')) : Changes h h' := by
  unfold observeHeld at hok
  rw [bind_eq_ok] at hok
  obtain ⟨r, hlock, hok⟩ := hok
  cases hprice : report.priceTableDigest.bind Digest.of? with
  | none =>
      rw [hprice] at hok
      cases hok
      exact .single (.blocked hlock)
  | some priceTableDigest =>
      rw [hprice] at hok
      dsimp only at hok
      cases hu : h.task.observations.find? _ with
      | some u =>
          rw [hu] at hok
          simp only [bind_eq_ok] at hok
          obtain ⟨_, _, hok⟩ := hok
          cases hok
          exact .refl
      | none =>
          rw [hu] at hok
          simp only [bind_eq_ok] at hok
          obtain ⟨t, ht, hok⟩ := hok
          cases hok
          refine .single (.observed hlock ?_ ht)
          intro u hmem hsame
          have hno := List.find?_eq_none.mp hu u hmem
          exact hno (decide_eq_true hsame)

end Commands

-- ================================================ what no change rewrites

/-- The ids and the fences of the task's runs. -/
def Task.leases (t : Task) : List (Uuid × Nat) :=
  t.runs.map fun r => (r.runId, r.fence)

/-- What an intake and the claims have written stays. -/
def Keeps (t t' : Task) : Prop :=
  t'.created = t.created ∧ t'.leases = t.leases

theorem Keeps.trans {t t' t'' : Task} (h : Keeps t t') (h' : Keeps t' t'') :
    Keeps t t'' :=
  ⟨h'.1.trans h.1, h'.2.trans h.2⟩

theorem Keeps.taskId {t t' : Task} (h : Keeps t t') :
    t'.taskId = t.taskId := by
  show t'.created.taskId = t.created.taskId
  rw [h.1]

theorem Keeps.eventLimit {t t' : Task} (h : Keeps t t') :
    t'.eventLimit = t.eventLimit := by
  show t'.created.eventLimit = t.created.eventLimit
  rw [h.1]

theorem keeps_moved (t : Task) (target : TaskStatus) (pointer : Task.Pointer)
    (accountingBlocked : Option Bool) :
    Keeps t (t.moved target pointer accountingBlocked) :=
  ⟨rfl, rfl⟩

theorem keeps_updateRun (t : Task) (runId : Uuid) {f : Run → Run}
    (hf : ∀ r, (f r).runId = r.runId ∧ (f r).fence = r.fence) :
    Keeps t (t.updateRun runId f) := by
  refine ⟨rfl, Table.map_update ?_⟩
  intro r _ _
  rw [(hf r).1, (hf r).2]

theorem keeps_record (t : Task) (actor : Actor) (action : EventAction)
    (key : Digest) (metadata : List (String × MetadataValue))
    (mandatory : Bool) :
    Keeps t (t.record actor action key metadata mandatory) := by
  unfold Task.record
  split
  · exact ⟨rfl, rfl⟩
  · exact ⟨rfl, rfl⟩

theorem keeps_ended (h : Held) (r : Run) (state : RunStatus) (clock : Clock) :
    Keeps h.task (h.ended r state clock).task :=
  keeps_updateRun h.task r.runId fun _ => ⟨rfl, rfl⟩

theorem keeps_closeRun {h h' : Held} {runId : Uuid} {state : RunStatus}
    {clock : Clock} {refusal : Failure}
    (hcloses : h.closeRun runId state clock refusal = .ok h') :
    Keeps h.task h'.task := by
  obtain ⟨q, _, _, rfl⟩ := closeRun_eq_ok.mp hcloses
  exact keeps_ended h q state clock

theorem keeps_closeActiveLease {h h' : Held} {clock : Clock}
    (hcloses : closeActiveLease h clock = .ok h') : Keeps h.task h'.task := by
  rcases closeActiveLease_ok hcloses with rfl | h'
  · exact ⟨rfl, rfl⟩
  · obtain ⟨_, q, _, _, _, _, _, rfl⟩ := h'
    exact keeps_ended h q .released clock

theorem reserve_ok {h h' : Held} {grant : LeaseGrant} {amounts : Amounts}
    {reasonDigest key : Digest} {reservationId answer : Uuid}
    (hok : reserve grant amounts reasonDigest key reservationId h
      = .ok (answer, h')) :
    Keeps h.task h'.task ∧ h'.counters = h.counters
      ∧ h'.task.state = h.task.state ∧ h'.task.events = h.task.events := by
  unfold reserve at hok
  simp only [bind_eq_ok] at hok
  obtain ⟨_, _, hok⟩ := hok
  cases hok
  exact ⟨⟨rfl, rfl⟩, rfl, rfl, rfl⟩

theorem keeps_observed {t t' : Task} {runId : Uuid} {released : Time}
    {providerCallId : Text} {evidence : UsageEvidence} {observationId : Uuid}
    (hok : t.releaseReservations runId released = .ok t') :
    Keeps t (t'.observe runId providerCallId evidence observationId).2 := by
  unfold Task.releaseReservations at hok
  simp only [bind_eq_ok] at hok
  obtain ⟨_, _, hok⟩ := hok
  cases hok
  unfold Task.observe
  split
  · exact ⟨rfl, rfl⟩
  · exact ⟨rfl, rfl⟩

/-- The result of a run that can be finalized is written, and its lease is
closed. -/
theorem finalizeCommit_ok {h h' : Held} {r : Run} {terminal : TerminalType}
    {result : WorkspaceResult} {clock : Clock}
    (hok : finalizeCommit h r terminal result clock = .ok h') :
    ∃ h₁ : Held, Keeps h.task h₁.task
      ∧ h' = { h₁ with
        task := { h₁.task with
          state := result.m4Status, currentRunId := none
          currentFence := none } }
      ∧ h₁.task.events = h.task.events := by
  unfold finalizeCommit at hok
  simp only [bind_eq_ok] at hok
  obtain ⟨h₁, hcloses, hok⟩ := hok
  cases hok
  have hresult := keeps_updateRun h.task r.runId
    (f := fun r => { r with result := result }) fun _ => ⟨rfl, rfl⟩
  refine ⟨h₁, hresult.trans (keeps_closeRun hcloses), rfl, ?_⟩
  obtain ⟨q, _, _, rfl⟩ := closeRun_eq_ok.mp hcloses
  rfl

/-- No change rewrites what an intake or a claim has written. -/
theorem Change.keeps {h h' : Held} (change : Change h h') :
    Keeps h.task h'.task := by
  cases change with
  | recorded _ => exact keeps_record _ _ _ _ _ _
  | exhausted _ _ _ => exact ⟨rfl, rfl⟩
  | renewed => exact keeps_updateRun _ _ fun _ => ⟨rfl, rfl⟩
  | phased _ => exact ⟨rfl, rfl⟩
  | released _ _ _ _ =>
      exact (keeps_ended _ _ _ _).trans (keeps_moved _ _ _ _)
  | @expired runId repairs =>
      unfold Task.expireRun
      split
      · exact keeps_updateRun h.task runId fun _ => ⟨rfl, rfl⟩
      · exact keeps_updateRun h.task runId fun _ => ⟨rfl, rfl⟩
  | closed _ hcloses => exact keeps_closeActiveLease hcloses
  | terminated _ hcloses _ =>
      exact (keeps_closeActiveLease hcloses).trans (keeps_moved _ _ _ _)
  | orphaned _ _ _ hcloses => exact keeps_closeRun hcloses
  | overdue _ => exact ⟨rfl, rfl⟩
  | reserved _ hreserves => exact (reserve_ok hreserves).1
  | observed _ _ hreleases => exact keeps_observed hreleases
  | blocked _ => exact ⟨rfl, rfl⟩
  | finalized _ _ _ hcommits =>
      obtain ⟨h₁, hkeeps, rfl, _⟩ := finalizeCommit_ok hcommits
      exact hkeeps

theorem Changes.keeps {h h' : Held} (changes : Changes h h') :
    Keeps h.task h'.task := by
  induction changes with
  | refl => exact ⟨rfl, rfl⟩
  | tail _ change ih => exact ih.trans change.keeps

end Exolon.Store
