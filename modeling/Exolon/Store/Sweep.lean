/-
A sweep of the reconciliation: no lease that has run out is missed.

A reconciliation looks at the candidates behind a cursor, in the order of
their tasks, and answers the task of the last one it handled; the next one
goes on behind that task. A task has one candidate at most
(`candidates_length`), so that none is left at the cursor. A run that is
handled has ended (`handled_ended`), and stays so whatever is called in
between. When a reconciliation finds no candidates any more, every run whose
lease had run out has ended (`expired_lease_swept`).

Where the time runs out before the first candidate, the answer has no cursor
although there are candidates. No sweep goes on from it.
-/
import Exolon.Store.Fencing

namespace Exolon.Store

open Factory Transaction Relation

variable {digests : Digests} {db db' : Db} {grant : LeaseGrant}
  {cursor : Option Uuid} {limit : Nat} {actor : Actor} {key : Option Digest}
  {reads : ReconcileReadings} {result : ReconcileResult} {clock : Clock}
  {t : Task} {h h' : Held}

-- =========================================================== one candidate

/-- The candidate is the run of the grant. -/
def Candidate.IsFor (grant : LeaseGrant) : Candidate → Prop
  | .run taskId runId _ _ _ _ _ =>
      taskId = grant.taskId ∧ runId = grant.runId
  | .taskDeadline _ => False

/-- A lease that has run out takes its task out of the leased states. -/
theorem releaseExpired_free {g : LeaseGrant} {failure : FailureClass}
    {deadlineExpired repairs : Bool}
    (hok : releaseExpired digests h g failure actor deadlineExpired repairs
      clock = .ok h') : h'.task.state.isLeased = false := by
  unfold releaseExpired at hok
  rw [bind_eq_ok] at hok
  obtain ⟨⟨target, released⟩, hanswer, hok⟩ := hok
  cases hok
  obtain ⟨r, q, _, _, _, htarget, _, rfl⟩ := releaseLocked_eq_ok.mp hanswer
  have hstate : (releasedHeld digests.event h q g (.failure failure) actor
      true deadlineExpired clock target).task.state = target :=
    record_state _ _ _ _ _ _
  unfold Task.expireRun
  split
  · show (releasedHeld _ _ _ _ _ _ _ _ _ _).task.state.isLeased = false
    rw [hstate]
    exact releaseTarget_free htarget
  · show (releasedHeld _ _ _ _ _ _ _ _ _ _).task.state.isLeased = false
    rw [hstate]
    exact releaseTarget_free htarget

theorem Changes.runsStay (changes : Changes h h') :
    RunsStay h.task h'.task := by
  induction changes with
  | refl => exact runsStay_of_runs rfl
  | tail _ change ih => exact ih.trans change.runsStay

/-- After its candidate was handled, the run has ended. -/
theorem handled_ended {candidate : Candidate} {answer : Bool}
    (hl : h.task.Leasing) (hl' : h'.task.Leasing)
    (hfor : candidate.IsFor grant) (hof : candidate.Of h.task) {r : Run}
    (hr : r ∈ h.task.runs) (hid : r.runId = grant.runId)
    (hok : reconcileCandidate digests candidate actor clock h
      = .ok (answer, h')) : h'.task.Ended grant := by
  obtain ⟨r', hr', hid', hstay⟩ :=
    (changes_reconcileCandidate hof hok).runsStay r hr
  refine ⟨r', hr', hid'.trans hid, ?_⟩
  rw [Bool.eq_false_iff]
  intro hlive'
  have hlive := hstay hlive'
  have hfree : h'.task.state.isLeased = false := by
    cases candidate with
    | taskDeadline _ => exact hfor.elim
    | run taskId runId owner role fence expires packetDigest =>
        obtain ⟨_, hrunId⟩ := hfor
        obtain ⟨_, hcurrent, hfence⟩ := hl.points r hr (holds_of_isLive hlive)
        rw [hid, ← hrunId] at hcurrent
        rw [hof r hr (hid.trans hrunId.symm)] at hfence
        have hleased : h.task.state.isLeased := by
          by_contra hnot
          rw [Bool.not_eq_true] at hnot
          rw [(hl.free hnot).1] at hcurrent
          cases hcurrent
        have hlock : h.capacityLockRun runId := by
          unfold Held.capacityLockRun Task.holding
          rw [List.find?_isSome]
          exact ⟨r, hr, decide_eq_true
            ⟨hid.trans hrunId.symm, (isLive_iff.mp hlive).2⟩⟩
        unfold reconcileCandidate at hok
        dsimp only at hok
        rw [if_pos hlock, if_pos ⟨hleased, hcurrent, hfence⟩, bind_eq_ok]
          at hok
        obtain ⟨released, hreleased, hok⟩ := hok
        cases hok
        exact releaseExpired_free hreleased
  exact hl'.none_holds hfree r' hr' (holds_of_isLive hlive')

-- ================================================================== a page

/-- The run of the grant is in the tables. -/
def Db.Known (db : Db) (grant : LeaseGrant) : Prop :=
  db.HasRun grant fun _ => True

theorem Moves.known {call : Call} (moves : Moves call db db')
    (hknown : db.Known grant) : db'.Known grant := by
  induction moves with
  | refl => exact hknown
  | tail _ move ih => exact move.hasRun (fun _ _ => trivial) ih

theorem Moves.ended {call : Call} (moves : Moves call db db')
    (hended : db.Ended grant) : db'.Ended grant := by
  induction moves with
  | refl => exact hended
  | tail _ move ih => exact move.ended ih

theorem Moves.leasing {call : Call} (moves : Moves call db db')
    (hkeyed : db.Keyed) (hl : db.Leasing) : db'.Leasing := by
  have hboth : db'.Keyed ∧ db'.Leasing := by
    induction moves with
    | refl => exact ⟨hkeyed, hl⟩
    | tail _ move ih => exact ⟨move.keyed ih.1, move.leasing ih.1 ih.2⟩
  exact hboth.2

/-- After the candidates were handled, the runs among them have ended. -/
theorem reconcileAll_ended (call : Call) {clocks : Nat → Clock}
    {candidates : List Candidate} {n m : Nat} (hkeyed : db.Keyed)
    (hl : db.Leasing) (hknown : db.Known grant)
    (hin : ∀ c ∈ candidates, c.In db)
    (hfor : ∃ c ∈ candidates, c.IsFor grant)
    (hok : reconcileAll digests actor clocks candidates n db = .ok (m, db')) :
    db'.Ended grant := by
  induction candidates generalizing n m db with
  | nil =>
      obtain ⟨_, hc, _⟩ := hfor
      cases hc
  | cons c rest ih =>
      unfold reconcileAll Db.onTask at hok
      simp only [bind_eq_ok, fetch_eq_ok] at hok
      obtain ⟨⟨answer, db₁⟩, ⟨t, ht, ⟨answer', h⟩, hcommand, hput⟩, others,
        hothers, hok⟩ := hok
      cases hput
      cases hok
      have hof := hin c List.mem_cons_self t ht
      have hchanges := changes_reconcileCandidate hof hcommand
      have hfound := ht
      rw [← (task?_some ht).2] at hfound
      have hmoves : Moves call db (db.put h) :=
        moves_put hkeyed hfound hchanges
      have hin' : ∀ c ∈ rest, c.In (db.put h) := by
        intro c' hc'
        exact (hin c' (List.mem_cons_of_mem c hc')).put hkeyed hfound
          hchanges.keeps
      have hrest : Moves call (db.put h) others.2 :=
        moves_reconcileAll (hmoves.keyed hkeyed) hin' hothers
      by_cases hhead : c.IsFor grant
      · apply hrest.ended
        have htask : c.taskId = grant.taskId := by
          cases c with
          | taskDeadline _ => exact hhead.elim
          | run _ _ _ _ _ _ _ => exact hhead.1
        obtain ⟨s, hs, r, hr, hid, _⟩ := hknown
        rw [← htask, ht] at hs
        cases hs
        have hthere : (db.put h).task? c.taskId = some h.task := by
          have htaskId : h.task.taskId = t.taskId := hchanges.keeps.taskId
          rw [← (task?_some ht).2, ← htaskId]
          exact task?_put hfound htaskId
        have hl' := (hmoves.leasing hkeyed hl).tasks h.task
          (task?_some hthere).1
        rw [htask] at hthere
        exact ⟨h.task, hthere, handled_ended
          (hl.tasks t (task?_some ht).1) hl' hhead hof hr hid hcommand⟩
      · refine ih (hmoves.keyed hkeyed) (hmoves.leasing hkeyed hl)
          (hmoves.known hknown) hin' ?_ hothers
        obtain ⟨c', hc', hfor⟩ := hfor
        rcases List.mem_cons.mp hc' with rfl | hc'
        · exact absurd hfor hhead
        · exact ⟨c', hc', hfor⟩

-- ============================================================== the cursor

/-- A task has one candidate at most. -/
theorem candidates_length (hl : t.Leasing)
    (hkeys : (t.runs.map Run.runId).Nodup) (clock : Clock) :
    (t.candidates clock).length ≤ 1 := by
  have hlive : t.runs.countP Run.isLive ≤ 1 := by
    rw [hl.countP_isLive hkeys]
    split
    · exact Nat.le_refl 1
    · exact Nat.zero_le 1
  unfold Task.candidates
  rw [List.length_append, List.length_map, ← List.countP_eq_length_filter]
  split
  case isFalse =>
    refine le_trans ?_ hlive
    apply List.countP_mono_left
    intro r _ hr
    exact (of_decide_eq_true hr).1
  case isTrue hdeadline =>
    have hnone : t.runs.countP (fun r => decide
        (r.isLive = true ∧ r.leaseExpiresAt ≤ clock.row r.runId)) = 0 := by
      rw [List.countP_eq_zero]
      intro r hr hcounted
      have hall := hdeadline.2.2.2
      rw [Bool.not_eq_true', List.any_eq_false] at hall
      exact hall r hr (of_decide_eq_true hcounted).1
    rw [hnone]
    exact Nat.le_refl 1

theorem taskId_of_candidate {c : Candidate} (hc : c ∈ t.candidates clock) :
    c.taskId = t.taskId := by
  rcases List.mem_append.mp hc with hrun | hdeadline
  · obtain ⟨r, _, rfl⟩ := List.mem_map.mp hrun
    rfl
  · split at hdeadline
    case isTrue =>
      rw [List.mem_singleton.mp hdeadline]
      rfl
    case isFalse => cases hdeadline

/-- The candidates behind the cursor, in order. -/
def Db.behind (db : Db) (cursor : Option Uuid) (clock : Clock) :
    List Candidate :=
  ((db.tasks.flatMap fun t => t.candidates clock).filter fun c =>
    cursor.all fun cursor => uuidLt cursor c.taskId).mergeSort
      fun c c' => !uuidLt c'.taskId c.taskId

/-- No two of them are of one task. -/
theorem behind_ordered (hkeyed : db.Keyed) (hl : db.Leasing)
    (cursor : Option Uuid) (clock : Clock) :
    (db.behind cursor clock).Pairwise fun c c' =>
      uuidLt c.taskId c'.taskId = true := by
  have hids : ((db.tasks.flatMap fun t => t.candidates clock).map
      Candidate.taskId).Nodup := by
    refine hkeyed.tasks.sublist (Table.sublist_map_flatMap ?_ ?_)
    · intro t ht
      exact candidates_length (hl.tasks t ht) (hkeyed.runs t ht) clock
    · intro t _ c hc
      exact taskId_of_candidate hc
  have hnodup : ((db.behind cursor clock).map Candidate.taskId).Nodup := by
    unfold Db.behind
    rw [((List.mergeSort_perm _ _).map _).nodup_iff]
    exact hids.sublist (List.filter_sublist.map _)
  have hsorted : (db.behind cursor clock).Pairwise fun c c' =>
      (!uuidLt c'.taskId c.taskId) = true := by
    apply List.pairwise_mergeSort
    · intro a b c hab hbc
      unfold uuidLt at *
      simp only [Bool.not_eq_true', decide_eq_false_iff_not, not_lt] at *
      exact le_trans hab hbc
    · intro a b
      unfold uuidLt
      simp only [Bool.or_eq_true, Bool.not_eq_true', decide_eq_false_iff_not,
        not_lt]
      exact le_total _ _
  refine (hsorted.and (List.pairwise_map.mp hnodup)).imp ?_
  intro c c' hboth
  obtain ⟨hle, hne⟩ := hboth
  unfold uuidLt at *
  rw [Bool.not_eq_true', decide_eq_false_iff_not, not_lt] at hle
  rw [decide_eq_true_eq]
  refine lt_of_le_of_ne hle fun hsame => hne ?_
  exact Uuid.ext_text hsame

-- ================================================================ the sweep

/-- The lease of the grant has run out, as the clock of a query reads it. -/
def Db.Expired (db : Db) (grant : LeaseGrant) (clock : Clock) : Prop :=
  ∀ t, db.task? grant.taskId = some t → ∀ r ∈ t.runs,
    r.runId = grant.runId → r.leaseExpiresAt ≤ clock.row r.runId

/-- No result is recorded for the key. -/
def Db.Fresh (db : Db) (key : Option Digest) : Prop :=
  ∀ k ∈ key, ∀ c ∈ db.commands, c.idempotencyKey ≠ k

/-- What a reconciliation with a fresh key has run. -/
theorem reconcile_ok (hfresh : db.Fresh key)
    (hok : reconcile digests limit cursor actor key reads db
      = .ok (result, db')) :
    ∃ m db₁, reconcileAll digests actor reads.clocks
        (((db.behind cursor reads.clock).take limit).take reads.handled) 0 db
        = .ok (m, db₁)
      ∧ result.candidates
        = ((db.behind cursor reads.clock).take limit).length
      ∧ result.cursor = ((((db.behind cursor reads.clock).take limit).take
        reads.handled).getLast?.map Candidate.taskId)
      ∧ db'.tasks = db₁.tasks := by
  unfold reconcile Db.keyed at hok
  simp only [bind_eq_ok] at hok
  obtain ⟨_, _, prior, hprior, hok⟩ := hok
  have hnone : prior = none := by
    unfold Db.commandReplay at hprior
    split at hprior
    case h_1 =>
      cases hprior
      rfl
    case h_2 row hrow =>
      obtain ⟨k, hk, hfound⟩ := Option.bind_eq_some_iff.mp hrow
      have hkey := List.find?_some hfound
      exact absurd (of_decide_eq_true hkey)
        (hfresh k hk row (List.mem_of_find?_eq_some hfound))
  subst hnone
  simp only [bind_eq_ok] at hok
  obtain ⟨answer, ⟨_, _, ⟨m, db₁⟩, hall, _, _, hanswer⟩, db₂, hrecord, hok⟩ :=
    hok
  cases hanswer
  cases hok
  refine ⟨m, db₁, hall, rfl, rfl, ?_⟩
  unfold Db.recordCommand at hrecord
  split at hrecord
  · cases hrecord
    rfl
  · rw [bind_eq_ok] at hrecord
    obtain ⟨_, _, hrecord⟩ := hrecord
    cases hrecord
    rfl

theorem ended_of_tasks (htasks : db'.tasks = db.tasks)
    (hended : db.Ended grant) : db'.Ended grant := by
  unfold Db.Ended Db.task? at *
  rw [htasks]
  exact hended

/-- A reconciliation either ends the run of the grant, or leaves it behind
its cursor; and it leaves candidates then. -/
theorem reconcile_page (hkeyed : db.Keyed) (hl : db.Leasing)
    (hknown : db.Known grant) (hexpired : db.Expired grant reads.clock)
    (hfresh : db.Fresh key)
    (hbehind : ∀ c ∈ cursor, uuidLt c grant.taskId = true)
    (hok : reconcile digests limit cursor actor key reads db
      = .ok (result, db')) :
    db'.Ended grant ∨ (∀ c ∈ result.cursor, uuidLt c grant.taskId = true)
      ∧ (0 < limit → result.candidates ≠ 0) := by
  obtain ⟨m, db₁, hall, hcandidates, hcursor, htasks⟩ :=
    reconcile_ok hfresh hok
  have hin : ∀ c ∈ ((db.behind cursor reads.clock).take limit).take
      reads.handled, c.In db := by
    intro c hc
    exact candidate_in hkeyed (List.mem_of_mem_take hc)
  obtain ⟨t, ht, r, hr, hid, _⟩ := hknown
  by_cases hlive : r.isLive
  · -- the run is a candidate behind the cursor
    have hcandidate : Candidate.run t.taskId r.runId r.owner r.role r.fence
        r.leaseExpiresAt r.packetDigest ∈ db.behind cursor reads.clock := by
      unfold Db.behind
      rw [List.mem_mergeSort, List.mem_filter]
      refine ⟨List.mem_flatMap.mpr ⟨t, (task?_some ht).1, ?_⟩, ?_⟩
      · apply List.mem_append_left
        refine List.mem_map.mpr ⟨r, List.mem_filter.mpr ⟨hr, ?_⟩, rfl⟩
        exact decide_eq_true ⟨hlive, hexpired t ht r hr hid⟩
      · rw [Option.all_eq_true]
        intro c hc
        show uuidLt c t.taskId = true
        rw [(task?_some ht).2]
        exact hbehind c hc
    by_cases hhandled : Candidate.run t.taskId r.runId r.owner r.role r.fence
        r.leaseExpiresAt r.packetDigest
          ∈ ((db.behind cursor reads.clock).take limit).take reads.handled
    · left
      refine ended_of_tasks htasks (reconcileAll_ended
        (.reconcile limit cursor actor key reads) hkeyed hl
        ⟨t, ht, r, hr, hid, trivial⟩ hin ⟨_, hhandled, ?_⟩ hall)
      exact ⟨(task?_some ht).2, hid⟩
    · right
      refine ⟨?_, ?_⟩
      · intro c hc
        rw [hcursor] at hc
        obtain ⟨last, hlast, rfl⟩ := Option.map_eq_some_iff.mp hc
        rw [List.take_take] at hlast hhandled
        have hbefore := Table.before_of_not_mem_take
          (behind_ordered hkeyed hl cursor reads.clock) hcandidate hhandled
          last (List.mem_of_getLast? hlast)
        rw [← (task?_some ht).2]
        exact hbefore
      · intro hpositive hempty
        rw [hcandidates, List.length_eq_zero_iff, List.take_eq_nil_iff]
          at hempty
        rcases hempty with hzero | hnil
        · omega
        · rw [hnil] at hcandidate
          cases hcandidate
  · left
    rw [Bool.not_eq_true] at hlive
    have hended : db.Ended grant := ⟨t, ht, r, hr, hid, hlive⟩
    have hmoves : Moves (.reconcile limit cursor actor key reads) db db₁ :=
      moves_reconcileAll hkeyed hin hall
    exact ended_of_tasks htasks (hmoves.ended hended)

/-- Reconciliations, each behind the cursor that the one before answered, with
any calls in between, until one finds no candidates; each of them reads that
the lease of the grant has run out, and none has a key that was used. -/
inductive Sweep (digests : Digests) (grant : LeaseGrant) :
    Option Uuid → Db → Db → Prop
  | last {cursor : Option Uuid} {db db' : Db} {limit : Nat} {actor : Actor}
      {key : Option Digest} {reads : ReconcileReadings}
      {result : ReconcileResult} (positive : 0 < limit)
      (expired : db.Expired grant reads.clock) (fresh : db.Fresh key)
      (answer : reconcile digests limit cursor actor key reads db
        = .ok (result, db')) (done : result.candidates = 0) :
      Sweep digests grant cursor db db'
  | page {cursor : Option Uuid} {db db₁ db₂ db' : Db} {limit : Nat}
      {actor : Actor} {key : Option Digest} {reads : ReconcileReadings}
      {result : ReconcileResult} {next : Uuid}
      (expired : db.Expired grant reads.clock) (fresh : db.Fresh key)
      (answer : reconcile digests limit cursor actor key reads db
        = .ok (result, db₁)) (goesOn : result.cursor = some next)
      (between : Run.Reachable (step digests) db₁ db₂)
      (rest : Sweep digests grant (some next) db₂ db') :
      Sweep digests grant cursor db db'

theorem Sweep.ended (hsweep : Sweep digests grant cursor db db')
    (hkeyed : db.Keyed) (hl : db.Leasing) (hknown : db.Known grant)
    (hbehind : db.Ended grant ∨ ∀ c ∈ cursor, uuidLt c grant.taskId = true) :
    db'.Ended grant := by
  induction hsweep with
  | @last cursor db db' limit actor key reads result positive expired fresh
      answer done =>
      have hmoves : Moves (.reconcile limit cursor actor key reads) db db' :=
        moves_reconcile hkeyed answer
      rcases hbehind with hended | hbehind
      · exact hmoves.ended hended
      · rcases reconcile_page hkeyed hl hknown expired fresh hbehind answer
          with hended | ⟨_, hleft⟩
        · exact hended
        · exact absurd done (hleft positive)
  | @page cursor db db₁ db₂ db' limit actor key reads result next expired
      fresh answer goesOn between rest ih =>
      have hmoves : Moves (.reconcile limit cursor actor key reads) db db₁ :=
        moves_reconcile hkeyed answer
      have hpage : db₁.Ended grant ∨ uuidLt next grant.taskId = true := by
        rcases hbehind with hended | hbehind
        · exact .inl (hmoves.ended hended)
        · refine (reconcile_page hkeyed hl hknown expired fresh hbehind
            answer).imp_right fun hleft => ?_
          exact hleft.1 next goesOn
      have hkept : db₂.Keyed ∧ db₂.Leasing ∧ db₂.Known grant
          ∧ (db₂.Ended grant ∨ uuidLt next grant.taskId = true) := by
        refine between.invariant (I := fun db => db.Keyed ∧ db.Leasing
          ∧ db.Known grant
          ∧ (db.Ended grant ∨ uuidLt next grant.taskId = true))
          ⟨hmoves.keyed hkeyed, hmoves.leasing hkeyed hl,
            hmoves.known hknown, hpage⟩ ?_
        intro db db' call hI hstep
        cases hstep
        have hcall := after_moves digests call hI.1
        exact ⟨hcall.keyed hI.1, hcall.leasing hI.1 hI.2.1,
          hcall.known hI.2.2.1, hI.2.2.2.imp_left hcall.ended⟩
      refine ih hkept.1 hkept.2.1 hkept.2.2.1 ?_
      refine hkept.2.2.2.imp_right fun hnext c hc => ?_
      rw [← Option.some.inj hc]
      exact hnext

/-- After a sweep from the first task on, a lease that has run out has ended,
whatever is called between its reconciliations. -/
theorem expired_lease_swept {grant : LeaseGrant}
    (hreach : Run.Reachable (step digests) {} db) (hknown : db.Known grant)
    (hsweep : Sweep digests grant none db db') : db'.Ended grant := by
  obtain ⟨hkeyed, hl⟩ := reachable_leasing hreach
  refine hsweep.ended hkeyed hl hknown (.inr ?_)
  intro c hc
  cases hc

theorem two_events_allowed : 2 ≤ 100000 := by decide

/-- A worker's task, claimed. -/
def sampleLeased : Db :=
  (({} : Db).after sampleDigests (sampleCall 2 two_events_allowed)).after
    sampleDigests sampleClaim

/-- Readings after the lease has run out. -/
def lateReads : ReconcileReadings where
  clock := { sampleClock with row := fun _ => 40000000 }
  clocks := fun _ => { sampleClock with row := fun _ => 40000000 }
  handled := 1
  inTime := true
  repositories := []

def sampleKeeper : Actor where
  actorId := "operator".toList
  kind := .controlPlane

theorem sampleLeased_candidates :
    sampleLeased.candidates none 1 lateReads.clock
      = [.run sampleId sampleId "worker".toList .reader 1 30000000
        .genesis] := by
  show List.take 1 (List.mergeSort [Candidate.run sampleId sampleId
    "worker".toList .reader 1 30000000 .genesis] _) = _
  rw [List.mergeSort_singleton]
  rfl

/-- The leases of the tables have run out then. -/
theorem expired_of_all {db : Db} (hall : (db.tasks.all fun t =>
    t.runs.all fun r => decide (r.leaseExpiresAt ≤ 40000000)) = true) :
    db.Expired sampleLease lateReads.clock := by
  intro t ht r hr _
  rw [List.all_eq_true] at hall
  exact of_decide_eq_true
    (List.all_eq_true.mp (hall t (task?_some ht).1) r hr)

/-- The first call handles the lease, and the second one finds none. -/
theorem sample_sweep :
    ∃ db, Sweep sampleDigests sampleLease none sampleLeased db := by
  obtain ⟨result, db₁, hfirst, hcursor, hall, hnone, hconsistent⟩ :
      ∃ result db₁, reconcile sampleDigests 1 none sampleKeeper none lateReads
          sampleLeased = .ok (result, db₁)
        ∧ result.cursor = some sampleId
        ∧ (db₁.tasks.all fun t => t.runs.all fun r =>
          decide (r.leaseExpiresAt ≤ 40000000)) = true
        ∧ db₁.candidates (some sampleId) 1 lateReads.clock = []
        ∧ db₁.isCapacityConsistent [] = true := by
    unfold reconcile Db.keyed
    dsimp only
    rw [sampleLeased_candidates]
    refine ⟨_, _, rfl, rfl, rfl, ?_, rfl⟩
    show List.take 1 (List.mergeSort [] _) = _
    rw [List.mergeSort_nil]
    rfl
  obtain ⟨result', db₂, hsecond, hdone⟩ : ∃ result' db₂,
      reconcile sampleDigests 1 (some sampleId) sampleKeeper none lateReads
        db₁ = .ok (result', db₂) ∧ result'.candidates = 0 := by
    unfold reconcile Db.keyed
    dsimp only
    rw [hnone]
    unfold lateReads
    dsimp only
    rw [hconsistent]
    exact ⟨_, _, rfl, rfl⟩
  have hfresh : ∀ db : Db, db.Fresh none := by
    intro db k hk
    cases hk
  exact ⟨db₂, .page (expired_of_all rfl) (hfresh _) hfirst hcursor ⟨[], rfl⟩
    (.last Nat.one_pos (expired_of_all hall) (hfresh _) hsecond hdone)⟩

theorem expired_lease_swept_sample : ∃ db,
    Sweep sampleDigests sampleLease none sampleLeased db
      ∧ db.Ended sampleLease := by
  obtain ⟨db, hsweep⟩ := sample_sweep
  have hreach : Run.Reachable (step sampleDigests) {} sampleLeased :=
    ⟨[sampleCall 2 (by decide), sampleClaim], rfl⟩
  have hknown : sampleLeased.Known sampleLease :=
    ⟨_, rfl, _, List.Mem.head _, rfl, trivial⟩
  exact ⟨db, hsweep, expired_lease_swept hreach hknown hsweep⟩

end Exolon.Store
