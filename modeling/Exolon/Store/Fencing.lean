/-
Fencing: who does not hold the lease of a task changes nothing of it.

A command with a grant is refused where the grant does not tell of the live
run of its task (`Db.Current`), whatever else it says and whenever it comes;
only a finalization that was committed before is answered, and writes nothing
but its own record (`refused`).

A run that has ended stays so, since no change opens one again and no later
run gets its id (`Db.Ended`). So a worker that has lost its lease has lost it
for the rest of the store's life.
-/
import Exolon.Store.Leases

namespace Exolon.Store

open Factory Contracts Transaction Relation

-- ================================================================== grants

/-- The grant of a command. -/
def Call.grant? : Call → Option LeaseGrant
  | .heartbeat grant _ _ _ => some grant
  | .transitionPhase grant _ _ _ _ => some grant
  | .release grant _ _ _ _ => some grant
  | .reserveBudget grant _ _ _ _ _ _ => some grant
  | .observeUsage grant _ _ _ _ _ _ _ _ _ _ => some grant
  | .finalizeExecution grant _ _ _ _ _ => some grant
  | .commitExecutionProposal grant _ _ _ _ _ _ _ => some grant
  | _ => none

/-- The grant tells of the live run of the task. -/
def Task.Current (t : Task) (grant : LeaseGrant) : Prop :=
  ∃ r ∈ t.runs, r.runId = grant.runId ∧ r.owner = grant.owner
    ∧ r.fence = grant.fence ∧ r.packetDigest = grant.packetDigest ∧ r.isLive
    ∧ t.currentRunId = some r.runId ∧ t.currentFence = some r.fence

/-- The grant tells of a live lease. -/
def Db.Current (db : Db) (grant : LeaseGrant) : Prop :=
  ∃ t, db.task? grant.taskId = some t ∧ t.Current grant

/-- The run of the grant has ended. -/
def Task.Ended (t : Task) (grant : LeaseGrant) : Prop :=
  ∃ r ∈ t.runs, r.runId = grant.runId ∧ r.isLive = false

/-- The grant tells of a run that has ended. -/
def Db.Ended (db : Db) (grant : LeaseGrant) : Prop :=
  ∃ t, db.task? grant.taskId = some t ∧ t.Ended grant

variable {digests : Digests} {call : Call} {db db' : Db} {t t' : Task}
  {h h' : Held} {grant : LeaseGrant} {actor : Actor} {key : Option Digest}
  {clock : Clock}

-- =============================================================== refusals

theorem current_of_lockGrant {allowExpired : Bool} {r : Run}
    (hlock : t.lockGrant grant allowExpired clock = .ok r) :
    t.Current grant := by
  obtain ⟨hr, hid, _, howner, _, hfence, hpacket, _, hreleased, halloc, _,
    hcurrent, hcurrentFence, _, _⟩ := lockGrant_eq_ok hlock
  exact ⟨r, hr, hid, howner, hfence, hpacket,
    isLive_iff.mpr ⟨hreleased, halloc⟩, hcurrent, hcurrentFence⟩

theorem current_of_isFinalizable {r : Run} (hr : r ∈ t.runs)
    (hfound : t.IsFinalizable grant clock r) : t.Current grant := by
  obtain ⟨_, hid, howner, hfence, hpacket, _, hcurrent, hcurrentFence, _, _,
    hreleased, halloc, _, _⟩ := hfound
  rw [← hfence] at hcurrentFence
  exact ⟨r, hr, hid, howner, hfence, hpacket,
    isLive_iff.mpr ⟨hreleased, halloc⟩, hcurrent, hcurrentFence⟩

/-- A command that raises has written nothing, and a replay writes nothing. -/
theorem keyed_refused {α : Type} {request : Request}
    {replay : CommandResult → Except Failure α} {record : α → CommandResult}
    {body : Db → Except Failure (α × Db)}
    (hbody : ∀ answer db', body db ≠ .ok (answer, db')) :
    commit (fun db => db.keyed digests key actor request replay record body) db
      = db := by
  refine commit_preserves (I := fun db' => db' = db) ?_ rfl
  intro answer db' hok
  rcases keyed_ok hok with hsame | hran
  · exact hsame
  · obtain ⟨db₁, hdb₁, _⟩ := hran
    exact absurd hdb₁ (hbody _ _)

theorem onTask_refused {α : Type} {missing : Failure} {answer : α}
    {command : Held → Except Failure (α × Held)}
    (hcommand : ∀ t answer h, command (db.held t) = .ok (answer, h) →
      t.Current grant) (hstale : ¬ db.Current grant) :
    db.onTask grant.taskId missing command ≠ .ok (answer, db') := by
  intro hok
  unfold Db.onTask at hok
  simp only [bind_eq_ok, fetch_eq_ok] at hok
  obtain ⟨t, ht, ⟨answer, h⟩, hanswer, _⟩ := hok
  exact hstale ⟨t, ht, hcommand t answer h hanswer⟩

theorem observeUsageLocked_refused {report : UsageReport}
    {observationId : Uuid} {answer : Observed} (hstale : ¬ db.Current grant)
    (hok : observeUsageLocked digests grant report actor key observationId
      clock db = .ok (answer, db')) : db' = db := by
  rcases keyed_ok hok with hsame | hran
  · exact hsame
  · obtain ⟨db₁, hbody, _⟩ := hran
    simp only [bind_eq_ok] at hbody
    obtain ⟨answer', hanswer, _⟩ := hbody
    refine absurd hanswer (onTask_refused ?_ hstale)
    intro t answer h hok
    unfold observeHeld at hok
    rw [bind_eq_ok] at hok
    obtain ⟨r, hlock, _⟩ := hok
    exact current_of_lockGrant hlock

/-- A finalization that was committed before is answered. -/
theorem finalizeExecution_refused {packetDigest : Digest}
    {plane : ExecutionPlane} {answer : WorkspaceResult} (hkeyed : db.Keyed)
    (hstale : ¬ db.Current grant)
    (hok : finalizeExecution digests grant packetDigest plane actor key clock
      db = .ok (answer, db')) :
    db'.tasks = db.tasks ∧ db'.counters = db.counters := by
  rcases keyed_ok hok with rfl | hran
  · exact ⟨rfl, rfl⟩
  · obtain ⟨db₁, hbody, hrecord⟩ := hran
    have hsame : db₁ = db := by
      unfold Db.onTask at hbody
      simp only [bind_eq_ok, fetch_eq_ok] at hbody
      obtain ⟨t, ht, ⟨answer, h⟩, hanswer, hbody⟩ := hbody
      cases hbody
      have hfound := ht
      rw [← (task?_some ht).2] at hfound
      split at hanswer
      · simp only [bind_eq_ok] at hanswer
        obtain ⟨_, _, hanswer⟩ := hanswer
        cases hanswer
        exact put_held hkeyed hfound
      · unfold finalizeLocked at hanswer
        simp only [bind_eq_ok, fetch_eq_ok] at hanswer
        obtain ⟨_, _, r, hr, _⟩ := hanswer
        have hp := List.find?_some hr
        exact absurd ⟨t, ht, current_of_isFinalizable
          (List.mem_of_find?_eq_some hr) (of_decide_eq_true hp)⟩ hstale
    rw [hsame] at hrecord
    unfold Db.recordCommand at hrecord
    split at hrecord
    · cases hrecord
      exact ⟨rfl, rfl⟩
    · simp only [bind_eq_ok] at hrecord
      obtain ⟨_, _, hrecord⟩ := hrecord
      cases hrecord
      exact ⟨rfl, rfl⟩

/-- A command whose grant is not current changes no task and no counter. -/
theorem refused (hkeyed : db.Keyed) (hgrant : call.grant? = some grant)
    (hstale : ¬ db.Current grant) :
    (db.after digests call).tasks = db.tasks
      ∧ (db.after digests call).counters = db.counters := by
  have hsame : ∀ {db' : Db}, db' = db →
      db'.tasks = db.tasks ∧ db'.counters = db.counters := by
    rintro db' rfl
    exact ⟨rfl, rfl⟩
  cases call with
  | heartbeat g actor key clock =>
      cases hgrant
      apply hsame
      refine keyed_refused fun answer db' => onTask_refused ?_ hstale
      intro t answer h hok
      unfold renew at hok
      rw [bind_eq_ok] at hok
      obtain ⟨r, hlock, _⟩ := hok
      exact current_of_lockGrant hlock
  | transitionPhase g target actor key clock =>
      cases hgrant
      apply hsame
      refine keyed_refused fun answer db' => onTask_refused ?_ hstale
      intro t answer h hok
      unfold enterPhase at hok
      rw [bind_eq_ok] at hok
      obtain ⟨r, hlock, _⟩ := hok
      exact current_of_lockGrant hlock
  | release g outcome actor key clock =>
      cases hgrant
      apply hsame
      refine keyed_refused fun answer db' => onTask_refused ?_ hstale
      intro t answer h hok
      obtain ⟨r, _, hlock, _⟩ := releaseLocked_eq_ok.mp hok
      exact current_of_lockGrant hlock
  | reserveBudget g amounts reasonDigest key actor reservationId clock =>
      cases hgrant
      apply hsame
      refine keyed_refused fun answer db' hok => ?_
      simp only [bind_eq_ok, fetch_eq_ok] at hok
      obtain ⟨t, ht, r, hlock, _⟩ := hok
      exact hstale ⟨t, ht, current_of_lockGrant hlock⟩
  | observeUsage g providerCallId priceTableDigest cost tokens output
      components actor key observationId clock =>
      cases hgrant
      apply hsame
      refine commit_preserves (I := fun db' => db' = db) ?_ rfl
      intro answer db' hok
      unfold observeUsage at hok
      rw [bind_eq_ok] at hok
      obtain ⟨report, _, hok⟩ := hok
      exact observeUsageLocked_refused hstale hok
  | finalizeExecution g packetDigest plane actor key clock =>
      cases hgrant
      exact commit_preserves (I := fun db' => db'.tasks = db.tasks
          ∧ db'.counters = db.counters)
        (fun hok => finalizeExecution_refused hkeyed hstale hok) ⟨rfl, rfl⟩
  | commitExecutionProposal g event usage actor key admitted proposes clock =>
      cases hgrant
      apply hsame
      refine commit_preserves (I := fun db' => db' = db) ?_ rfl
      intro answer db' hok
      unfold commitExecutionProposal at hok
      rw [bind_eq_ok] at hok
      obtain ⟨_, _, hok⟩ := hok
      rw [bind_eq_ok] at hok
      obtain ⟨prior, _, hok⟩ := hok
      cases prior with
      | some _ =>
          cases hok
          rfl
      | none =>
          rw [bind_eq_ok] at hok
          obtain ⟨t, ht, hok⟩ := hok
          rw [bind_eq_ok] at hok
          obtain ⟨r, hlock, _⟩ := hok
          exact absurd ⟨t, fetch_eq_ok.mp ht, current_of_lockGrant hlock⟩ hstale
  | _ => cases hgrant

-- ============================================================ runs that end

/-- The runs of the one task are runs of the other, and none is open again. -/
def RunsStay (t t' : Task) : Prop :=
  ∀ r ∈ t.runs, ∃ r' ∈ t'.runs, r'.runId = r.runId ∧ (r'.isLive → r.isLive)

theorem runsStay_of_runs (hruns : t'.runs = t.runs) : RunsStay t t' := by
  intro r hr
  rw [hruns]
  exact ⟨r, hr, rfl, id⟩

theorem runsStay_update {p : Run → Bool} {f : Run → Run}
    (hruns : t'.runs = Table.update p f t.runs)
    (hf : ∀ r, (f r).runId = r.runId ∧ ((f r).isLive → r.isLive)) :
    RunsStay t t' := by
  intro r hr
  refine ⟨if p r then f r else r, ?_, ?_⟩
  · rw [hruns]
    exact Table.mem_update.mpr ⟨r, hr, rfl⟩
  · split
    · exact hf r
    · exact ⟨rfl, id⟩

/-- To close a run opens none. -/
theorem runsStay_ended {q : Run} {state : RunStatus}
    (hruns : t.runs = (h.ended q state clock).task.runs) :
    RunsStay h.task t := by
  refine runsStay_update hruns ?_
  intro r
  refine ⟨rfl, fun hlive => ?_⟩
  cases (isLive_iff.mp hlive).1

theorem RunsStay.trans {t₁ t₂ t₃ : Task} (h : RunsStay t₁ t₂)
    (h' : RunsStay t₂ t₃) : RunsStay t₁ t₃ := by
  intro r hr
  obtain ⟨r', hr', hid, hlive⟩ := h r hr
  obtain ⟨r'', hr'', hid', hlive'⟩ := h' r' hr'
  exact ⟨r'', hr'', hid'.trans hid, fun hl => hlive (hlive' hl)⟩

theorem runsStay_closeActiveLease (hcloses : closeActiveLease h clock = .ok h') :
    RunsStay h.task h'.task := by
  rcases closeActiveLease_ok hcloses with rfl | hclosed
  · exact runsStay_of_runs rfl
  · obtain ⟨_, _, _, _, _, _, _, rfl⟩ := hclosed
    exact runsStay_ended rfl

/-- No change opens a run again, or takes one away. -/
theorem Change.runsStay (change : Change h h') : RunsStay h.task h'.task := by
  cases change with
  | recorded _ =>
      refine runsStay_of_runs ?_
      unfold Task.record
      split
      · rfl
      · rfl
  | exhausted _ _ _ => exact runsStay_of_runs rfl
  | @renewed runId expires =>
      exact runsStay_update (f := fun r => { r with leaseExpiresAt := expires })
        rfl fun r => ⟨rfl, id⟩
  | phased _ => exact runsStay_of_runs rfl
  | released _ _ _ _ => exact runsStay_ended rfl
  | @expired runId repairs =>
      have hstay : RunsStay h.task (h.task.updateRun runId fun r =>
          { r with state := .expired }) :=
        runsStay_update (Task.updateRun_runs _ _ _) fun r => ⟨rfl, id⟩
      unfold Task.expireRun
      split
      · exact hstay
      · exact hstay
  | closed _ hcloses => exact runsStay_closeActiveLease hcloses
  | terminated _ hcloses _ =>
      exact (runsStay_closeActiveLease hcloses).trans (runsStay_of_runs rfl)
  | orphaned _ _ _ hcloses =>
      obtain ⟨_, _, _, rfl⟩ := closeRun_eq_ok.mp hcloses
      exact runsStay_ended rfl
  | overdue _ => exact runsStay_of_runs rfl
  | reserved _ hreserves =>
      unfold reserve at hreserves
      simp only [bind_eq_ok] at hreserves
      obtain ⟨_, _, hreserves⟩ := hreserves
      cases hreserves
      exact runsStay_of_runs rfl
  | observed _ _ hreleases =>
      unfold Task.releaseReservations at hreleases
      simp only [bind_eq_ok] at hreleases
      obtain ⟨_, _, hreleases⟩ := hreleases
      cases hreleases
      refine runsStay_of_runs ?_
      unfold Task.observe
      split
      · rfl
      · rfl
  | blocked _ => exact runsStay_of_runs rfl
  | @finalized _ _ r _ terminal result _ _ _ hcommits =>
      obtain ⟨q, state, _, _, rfl⟩ := finalizeCommit_eq hcommits
      have hresult : RunsStay h.task (h.resulted r terminal result).task :=
        runsStay_update (Task.updateRun_runs _ _ _) fun r => ⟨rfl, id⟩
      exact hresult.trans (runsStay_ended rfl)

/-- The tables have the run of the grant, and it has the property. -/
def Db.HasRun (db : Db) (grant : LeaseGrant) (P : Run → Prop) : Prop :=
  ∃ t, db.task? grant.taskId = some t
    ∧ ∃ r ∈ t.runs, r.runId = grant.runId ∧ P r

section HasRun

variable {P : Run → Prop}
  (hP : ∀ {r r' : Run}, (r'.isLive → r.isLive) → P r → P r')

include hP

/-- A task that is written back keeps what runs have that are not opened
again. -/
theorem Db.HasRun.put (hrun : db.HasRun grant P)
    (hfound : db.task? t.taskId = some t) (hid : h.task.taskId = t.taskId)
    (hstay : RunsStay t h.task) : (db.put h).HasRun grant P := by
  obtain ⟨s, hs, r, hr, hrunId, hhas⟩ := hrun
  by_cases hsame : grant.taskId = t.taskId
  · rw [hsame, hfound] at hs
    cases hs
    obtain ⟨r', hr', hid', hlive⟩ := hstay r hr
    refine ⟨h.task, ?_, r', hr', hid'.trans hrunId, hP hlive hhas⟩
    rw [hsame, ← hid]
    exact task?_put hfound hid
  · refine ⟨s, ?_, r, hr, hrunId, hhas⟩
    rw [task?_put_of_ne (by rw [hid]; exact hsame)]
    exact hs

theorem Move.hasRun (move : Move call db db') (hrun : db.HasRun grant P) :
    db'.HasRun grant P := by
  cases move with
  | changed found change =>
      exact hrun.put hP found change.keeps.taskId change.runsStay
  | leased found _ _ _ _ _ _ _ =>
      refine hrun.put hP found rfl ?_
      intro r hr
      exact ⟨r, List.mem_append_left _ hr, rfl, id⟩
  | created _ _ _ _ =>
      obtain ⟨s, hs, hhas⟩ := hrun
      refine ⟨s, ?_, hhas⟩
      unfold Db.task?
      rw [List.find?_append]
      unfold Db.task? at hs
      rw [hs]
      rfl
  | recorded _ => exact hrun
  | switched _ => exact hrun

end HasRun

theorem ended_stays {r r' : Run} (hlive : r'.isLive → r.isLive)
    (hover : r.isLive = false) : r'.isLive = false := by
  rw [Bool.eq_false_iff] at hover ⊢
  exact fun hl => hover (hlive hl)

theorem Move.ended (move : Move call db db') (hended : db.Ended grant) :
    db'.Ended grant :=
  move.hasRun ended_stays hended

/-- A run that has ended is not live. -/
theorem Db.Ended.not_current (hkeyed : db.Keyed) (hended : db.Ended grant) :
    ¬ db.Current grant := by
  intro hcurrent
  obtain ⟨t, ht, r, hr, hid, hover⟩ := hended
  obtain ⟨s, hs, q, hq, hqid, _, _, _, hlive, _⟩ := hcurrent
  rw [ht] at hs
  cases hs
  have hsame := List.inj_on_of_nodup_map (hkeyed.runs t (task?_some ht).1) hr
    hq (hid.trans hqid.symm)
  rw [hsame, hlive] at hover
  cases hover

/-- In a state the store can reach, a grant that does not tell of the live
run of its task changes no task and no counter, by any command. -/
theorem stale_grant_refused {grant : LeaseGrant} {call : Call}
    (hreach : Run.Reachable (step digests) {} db)
    (hgrant : call.grant? = some grant) (hstale : ¬ db.Current grant) :
    (db.after digests call).tasks = db.tasks
      ∧ (db.after digests call).counters = db.counters :=
  refused (reachable_leasing hreach).1 hgrant hstale

/-- The grant of the claim of `sampleClaim`. -/
def sampleLease : LeaseGrant where
  taskId := sampleId
  runId := sampleId
  owner := "worker".toList
  role := .reader
  fence := 1
  expiresAt := 30000000
  packetDigest := .genesis

def sampleRelease : Call :=
  .release sampleLease (.failure .validation) sampleWorker none sampleClock

/-- A task is queued, claimed and released. -/
theorem sample_ended :
    ∃ db, Run.run (step sampleDigests) {}
        [sampleCall 2 (by decide), sampleClaim, sampleRelease] = some db
      ∧ db.Ended sampleLease :=
  ⟨_, rfl, _, rfl, _, List.Mem.head _, rfl, rfl⟩

theorem stale_grant_refused_sample :
    ∃ db, Run.Reachable (step sampleDigests) {} db ∧ ¬ db.Current sampleLease
      ∧ (db.after sampleDigests sampleRelease).tasks = db.tasks := by
  obtain ⟨db, hrun, hended⟩ := sample_ended
  have hreach : Run.Reachable (step sampleDigests) {} db := ⟨_, hrun⟩
  have hstale := hended.not_current (reachable_leasing hreach).1
  exact ⟨db, hreach, hstale, (stale_grant_refused hreach rfl hstale).1⟩

/-- Once the run of a grant has ended, no command with the grant changes a
task or a counter again, whatever is called in between. -/
theorem ended_lease_refused {grant : LeaseGrant} {call : Call}
    {calls : List Call} (hreach : Run.Reachable (step digests) {} db)
    (hended : db.Ended grant)
    (hrun : Run.run (step digests) db calls = some db')
    (hgrant : call.grant? = some grant) :
    (db'.after digests call).tasks = db'.tasks
      ∧ (db'.after digests call).counters = db'.counters := by
  have hkeyed := (reachable_leasing hreach).1
  have hkept : db'.Keyed ∧ db'.Ended grant := by
    refine Run.run_invariant (I := fun db => db.Keyed ∧ db.Ended grant) ?_
      ⟨hkeyed, hended⟩ hrun
    intro db db' call hI hstep
    cases hstep
    exact after_preserves hI.1 (fun _ hI move => move.ended hI)
      hI.2
  exact refused hkept.1 hgrant (hkept.2.not_current hkept.1)

theorem ended_lease_refused_sample :
    ∃ db db', Run.Reachable (step sampleDigests) {} db ∧ db.Ended sampleLease
      ∧ Run.run (step sampleDigests) db [sampleClaim] = some db'
      ∧ (db'.after sampleDigests sampleRelease).tasks = db'.tasks := by
  obtain ⟨db, hrun, hended⟩ := sample_ended
  have hreach : Run.Reachable (step sampleDigests) {} db := ⟨_, hrun⟩
  have hrun' : Run.run (step sampleDigests) db [sampleClaim]
      = some (db.after sampleDigests sampleClaim) := rfl
  exact ⟨db, _, hreach, hended, hrun',
    (ended_lease_refused hreach hended hrun' rfl).1⟩

end Exolon.Store
