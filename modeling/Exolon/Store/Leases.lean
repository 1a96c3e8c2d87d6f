/-
Leases: in every state of every run of the store a task has at most one, and
the counters of the capacity count them.

`Leasing` is the invariant of one task. A run that still has its lease or its
capacity has both, and is the run the task points to; a task points to a run
exactly in the five leased states; and the fences and the attempts of its
runs are numbered from one.

What a change does to the runs of a task is one of two things. It leaves
alone what a lease is made of (`SameLease`), or it closes the run that holds
the lease and takes the task out of the leased states (`leasing_ended`). In a
state that meets the invariant no live run is astray, so the repair of an
orphan never happens.
-/
import Exolon.Lib.Numbered
import Exolon.Lib.Run
import Exolon.Store.Queue

namespace Exolon.Store

open Factory Contracts Transaction Relation

-- ============================================================= invariants

/-- The run has its lease, or its capacity. -/
def Run.Holds (r : Run) : Prop :=
  r.releasedAt = none ∨ r.allocation.releasedAt = none

/-- One task and its leases. -/
structure Task.Leasing (t : Task) : Prop where
  /-- A run that has one of them has both, and the task points to it. -/
  points : ∀ r ∈ t.runs, r.Holds →
    r.isLive ∧ t.currentRunId = some r.runId ∧ t.currentFence = some r.fence
  leased : t.state.isLeased → ∃ r ∈ t.runs, r.isLive
  free : t.state.isLeased = false →
    t.currentRunId = none ∧ t.currentFence = none
  fences : Numbered (t.runs.map Run.fence)
  attempts : Numbered (t.runs.map Run.attemptNo)
  last : t.lastFence = t.runs.length
  bounded : t.runs.length ≤ t.infrastructureRetries + 1

variable {t t' : Task} {h h' : Held}

theorem isLive_iff {r : Run} :
    r.isLive ↔ r.releasedAt = none ∧ r.allocation.releasedAt = none := by
  unfold Run.isLive
  simp

theorem holds_of_isLive {r : Run} (hlive : r.isLive) : r.Holds :=
  .inl (isLive_iff.mp hlive).1

/-- Outside the leased states no run has a lease, or capacity. -/
theorem Task.Leasing.none_holds (hl : t.Leasing)
    (hfree : t.state.isLeased = false) : ∀ r ∈ t.runs, ¬ r.Holds := by
  intro r hr hholds
  have hcurrent := (hl.points r hr hholds).2.1
  rw [(hl.free hfree).1] at hcurrent
  cases hcurrent

-- ================================================== what keeps the leases

/-- What a lease is made of. -/
def Run.hold (r : Run) : Uuid × Nat × Nat × Option Time × Allocation :=
  (r.runId, r.fence, r.attemptNo, r.releasedAt, r.allocation)

/-- The leases of the two tasks are the same. -/
structure SameLease (t t' : Task) : Prop where
  runs : t'.runs.map Run.hold = t.runs.map Run.hold
  state : t'.state.isLeased = t.state.isLeased
  runId : t'.currentRunId = t.currentRunId
  fence : t'.currentFence = t.currentFence
  last : t'.lastFence = t.lastFence
  retries : t'.infrastructureRetries = t.infrastructureRetries

namespace SameLease

/-- A run of the one is a run of the other. -/
theorem run (hsame : SameLease t t') {r : Run} (hr : r ∈ t'.runs) :
    ∃ s ∈ t.runs, s.hold = r.hold := by
  have hmem := List.mem_map_of_mem (f := Run.hold) hr
  rw [hsame.runs] at hmem
  exact List.mem_map.mp hmem

theorem map_eq {α : Type} (hsame : SameLease t t') (f : Run → α)
    (g : Uuid × Nat × Nat × Option Time × Allocation → α)
    (hf : ∀ r, f r = g r.hold) : t'.runs.map f = t.runs.map f := by
  have hruns := congrArg (List.map g) hsame.runs
  rw [List.map_map, List.map_map] at hruns
  calc t'.runs.map f = t'.runs.map (g ∘ Run.hold) :=
        List.map_congr_left fun r _ => hf r
    _ = t.runs.map (g ∘ Run.hold) := hruns
    _ = t.runs.map f := (List.map_congr_left fun r _ => hf r).symm

theorem length (hsame : SameLease t t') : t'.runs.length = t.runs.length := by
  have hruns := congrArg List.length hsame.runs
  rw [List.length_map, List.length_map] at hruns
  exact hruns

theorem symm (hsame : SameLease t t') : SameLease t' t :=
  ⟨hsame.runs.symm, hsame.state.symm, hsame.runId.symm, hsame.fence.symm,
    hsame.last.symm, hsame.retries.symm⟩

theorem leasing (hsame : SameLease t t') (hl : t.Leasing) : t'.Leasing := by
  refine ⟨?_, ?_, ?_, ?_, ?_, ?_, ?_⟩
  · intro r hr hholds
    obtain ⟨s, hs, heq⟩ := hsame.run hr
    unfold Run.hold at heq
    simp only [Prod.mk.injEq] at heq
    obtain ⟨hid, hfence, _, hreleased, halloc⟩ := heq
    have hpoints := hl.points s hs (by
      unfold Run.Holds
      rw [hreleased, halloc]
      exact hholds)
    rw [isLive_iff, hreleased, halloc, hid, hfence] at hpoints
    rw [isLive_iff, hsame.runId, hsame.fence]
    exact hpoints
  · intro hleased
    rw [hsame.state] at hleased
    obtain ⟨r, hr, hlive⟩ := hl.leased hleased
    obtain ⟨s, hs, heq⟩ := hsame.symm.run hr
    unfold Run.hold at heq
    simp only [Prod.mk.injEq] at heq
    obtain ⟨_, _, _, hreleased, halloc⟩ := heq
    refine ⟨s, hs, ?_⟩
    rw [isLive_iff, hreleased, halloc]
    exact isLive_iff.mp hlive
  · intro hfree
    rw [hsame.state] at hfree
    rw [hsame.runId, hsame.fence]
    exact hl.free hfree
  · rw [hsame.map_eq Run.fence (fun x => x.2.1) fun _ => rfl]
    exact hl.fences
  · rw [hsame.map_eq Run.attemptNo (fun x => x.2.2.1) fun _ => rfl]
    exact hl.attempts
  · rw [hsame.last, hsame.length]
    exact hl.last
  · rw [hsame.retries, hsame.length]
    exact hl.bounded

theorem live (hsame : SameLease t t') (s : Scope) : t'.live s = t.live s := by
  unfold Task.live
  have hcount : ∀ runs : List Run,
      (runs.countP fun r => r.allocation.releasedAt = none
        ∧ s ∈ r.allocation.scopes)
      = (runs.map Run.hold).countP fun x => x.2.2.2.2.releasedAt = none
        ∧ s ∈ x.2.2.2.2.scopes := by
    intro runs
    rw [List.countP_map]
    rfl
  rw [hcount, hcount, hsame.runs]

end SameLease

/-- An update of runs that leaves alone what a lease is made of. -/
theorem sameLease_updateRun (runId : Uuid) {f : Run → Run}
    (hf : ∀ r, (f r).hold = r.hold) : SameLease t (t.updateRun runId f) :=
  ⟨Table.map_update fun r _ _ => hf r, rfl, rfl, rfl, rfl, rfl⟩

theorem sameLease_record (actor : Actor) (action : EventAction) (key : Digest)
    (metadata : List (String × MetadataValue)) (mandatory : Bool) :
    SameLease t (t.record actor action key metadata mandatory) := by
  unfold Task.record
  split
  · exact ⟨rfl, rfl, rfl, rfl, rfl, rfl⟩
  · exact ⟨rfl, rfl, rfl, rfl, rfl, rfl⟩

/-- A task that is not leased goes to another such state. -/
theorem Task.Leasing.sameLease_clear (hl : t.Leasing) {target : TaskStatus}
    {accountingBlocked : Option Bool} (hfree : t.state.isLeased = false)
    (htarget : target.isLeased = false) :
    SameLease t (t.moved target .clear accountingBlocked) := by
  obtain ⟨hrunId, hfence⟩ := hl.free hfree
  exact ⟨rfl, htarget.trans hfree.symm, hrunId.symm, hfence.symm, rfl, rfl⟩

-- ============================================================ a lease ends

/-- The rows after a run was closed and the task was taken out of the leased
states. -/
theorem leasing_ended {q : Run} {state : RunStatus} {clock : Clock}
    (hl : h.task.Leasing) (hq : q ∈ h.task.runs) (hholds : q.allocation.releasedAt = none)
    (hruns : t.runs = (h.ended q state clock).task.runs)
    (hstate : t.state.isLeased = false)
    (hpointer : t.currentRunId = none ∧ t.currentFence = none)
    (hlast : t.lastFence = h.task.lastFence)
    (hretries : t.infrastructureRetries = h.task.infrastructureRetries) :
    t.Leasing := by
  have hupdate : ∀ {α : Type} (f : Run → α),
      (∀ r, f ((r.closed state (clock.read 0)).freed (clock.read 1)) = f r) →
        t.runs.map f = h.task.runs.map f := by
    intro α f hf
    rw [hruns]
    exact Table.map_update fun r _ _ => hf r
  have hlength : t.runs.length = h.task.runs.length := by
    have hids := congrArg List.length (hupdate Run.runId fun _ => rfl)
    rw [List.length_map, List.length_map] at hids
    exact hids
  refine ⟨?_, ?_, fun _ => hpointer, ?_, ?_, ?_, ?_⟩
  · intro r hr hopen
    rw [hruns] at hr
    obtain ⟨s, hs, hsr⟩ := Table.mem_update.mp hr
    by_cases hid : s.runId = q.runId
    · rw [if_pos (decide_eq_true hid)] at hsr
      rw [← hsr] at hopen
      obtain hopen | hopen := hopen
      · cases hopen
      · cases hopen
    · rw [if_neg (by rw [decide_eq_true_eq]; exact hid)] at hsr
      rw [← hsr] at hopen
      -- the task would point to two runs
      have hcurrent := (hl.points s hs hopen).2.1
      rw [(hl.points q hq (.inr hholds)).2.1] at hcurrent
      exact absurd (Option.some.inj hcurrent).symm hid
  · intro hleased
    rw [hstate] at hleased
    cases hleased
  · rw [hupdate Run.fence fun _ => rfl]
    exact hl.fences
  · rw [hupdate Run.attemptNo fun _ => rfl]
    exact hl.attempts
  · rw [hlast, hlength]
    exact hl.last
  · rw [hretries, hlength]
    exact hl.bounded

/-- A change moves each counter by as much as the live allocations, and none
up. -/
def Counts (h h' : Held) : Prop :=
  ∀ s, h'.counters s ≤ h.counters s
    ∧ h'.counters s + h.task.live s = h.counters s + h'.task.live s

theorem counts_same (hcounters : h'.counters = h.counters)
    (hsame : SameLease h.task h'.task) : Counts h h' := by
  intro s
  rw [hcounters, hsame.live]
  exact ⟨le_refl _, rfl⟩

theorem counts_ended {q : Run} {state : RunStatus} {clock : Clock}
    (hkeys : (h.task.runs.map Run.runId).Nodup) (hq : q ∈ h.task.runs)
    (hholds : q.allocation.releasedAt = none)
    (hcounted : ∀ s ∈ q.allocation.scopes, 0 < h.counters s)
    (hcounters : h'.counters = (h.ended q state clock).counters)
    (hruns : h'.task.runs = (h.ended q state clock).task.runs) :
    Counts h h' := by
  intro s
  have hcount := Table.countP_update
    (f := fun r => (r.closed state (clock.read 0)).freed (clock.read 1))
    (q := fun r => r.allocation.releasedAt = none ∧ s ∈ r.allocation.scopes)
    hkeys hq
  have hlive : h'.task.live s = (Table.update
      (fun b => Run.runId b = Run.runId q)
      (fun r => (r.closed state (clock.read 0)).freed (clock.read 1))
      h.task.runs).countP
        fun r => r.allocation.releasedAt = none ∧ s ∈ r.allocation.scopes := by
    unfold Task.live
    rw [hruns]
    rfl
  have hmoved : h'.counters s
      = if s ∈ q.allocation.scopes then h.counters s - 1
        else h.counters s := by
    rw [hcounters]
    rfl
  rw [hlive, hmoved]
  unfold Task.live
  by_cases hs : s ∈ q.allocation.scopes
  · have hpos := hcounted s hs
    rw [if_pos hs]
    rw [if_pos (decide_eq_true ⟨hholds, hs⟩),
      if_neg (by simp [Run.freed])] at hcount
    exact ⟨by omega, by omega⟩
  · rw [if_neg hs]
    rw [if_neg (by simp [hs]), if_neg (by simp [Run.freed])] at hcount
    exact ⟨by omega, by omega⟩

-- ============================================================ the targets

theorem failureTarget_free (t : Task) (attemptNo : Nat)
    (failure : FailureClass) (deadlineExpired : Bool) :
    (failureTarget t attemptNo failure deadlineExpired).isLeased = false := by
  have hclass : ((classifyRetry failure attemptNo
      t.infrastructureRetries).terminal.getD .needsHuman).isLeased = false := by
    unfold classifyRetry
    split_ifs
    · rfl
    · rfl
    · rfl
    · rfl
  unfold failureTarget
  dsimp only
  split_ifs
  · rfl
  · rfl
  · rfl
  · exact hclass

/-- A release takes the task out of the leased states. -/
theorem releaseTarget_free {r : Run} {outcome : Outcome}
    {deadlineExpired : Bool} {target : TaskStatus}
    (htarget : releaseTarget t r outcome deadlineExpired = .ok target) :
    target.isLeased = false := by
  unfold releaseTarget at htarget
  rw [bind_eq_ok] at htarget
  obtain ⟨chosen, hchosen, htarget⟩ := htarget
  have hfree : chosen.isLeased = false := by
    cases outcome with
    | failure failure =>
        cases hchosen
        exact failureTarget_free t _ _ _
    | completed =>
        unfold outcomeTarget at hchosen
        simp only [bind_eq_ok] at hchosen
        obtain ⟨_, _, hchosen⟩ := hchosen
        cases hchosen
        rfl
    | other _ => cases hchosen
  cases htarget
  split
  · rfl
  · exact hfree

/-- So does a finalization. -/
theorem m4Status_free {runId : Uuid} {terminal : TerminalType}
    {attemptNo : Nat} {status : TaskStatus}
    (hstatus : m4Status t runId terminal attemptNo = some status) :
    status.isLeased = false := by
  have hclass : ∀ failure, (m4FailureStatus failure attemptNo
      t.infrastructureRetries).isLeased = false := by
    intro failure
    unfold m4FailureStatus
    by_cases hleft : t.infrastructureRetries < attemptNo
    · cases failure <;> simp [hleft, TaskStatus.isLeased]
    · cases failure <;> simp [hleft, TaskStatus.isLeased]
  unfold m4Status at hstatus
  split at hstatus
  · cases hstatus
  · split at hstatus
    · split at hstatus
      · cases hstatus
      · cases hstatus
        rfl
    · split at hstatus
      · cases hstatus
        rfl
      · cases terminal with
        | completed => cases hstatus
        | needsHuman =>
            cases hstatus
            rfl
        | failed failure =>
            dsimp only at hstatus
            split at hstatus
            · cases hstatus
              rfl
            · cases hstatus
              exact hclass failure

-- ============================================================ every change

theorem free_of_queued {status : TaskStatus} (hqueued : status.isQueued) :
    status.isLeased = false := by
  revert status
  decide

theorem free_of_terminal {status : TaskStatus} (hterminal : status.isTerminal) :
    status.isLeased = false := by
  revert status
  decide

/-- A task without a lease is left as it is. -/
theorem closeActiveLease_free {clock : Clock} (hl : h.task.Leasing)
    (hfree : h.task.state.isLeased = false)
    (hcloses : closeActiveLease h clock = .ok h') : h' = h := by
  rcases closeActiveLease_ok hcloses with hsame | hclosed
  · exact hsame
  · obtain ⟨r, _, _, hcurrent, _⟩ := hclosed
    rw [(hl.free hfree).1] at hcurrent
    cases hcurrent

/-- The rows with the result of a run, before its lease is closed. -/
def Held.resulted (h : Held) (r : Run) (terminal : TerminalType)
    (result : WorkspaceResult) : Held :=
  { h with
    task := { h.task.updateRun r.runId fun r => { r with result := result } with
      accountingBlocked := h.task.accountingBlocked
        || decide (terminal ≠ .completed
          ∧ (!h.task.settled ∨ h.task.runHasReservation r.runId)) } }

theorem resulted_sameLease (h : Held) (r : Run) (terminal : TerminalType)
    (result : WorkspaceResult) :
    SameLease h.task (h.resulted r terminal result).task :=
  ⟨(sameLease_updateRun (t := h.task) r.runId
    (f := fun r => { r with result := result }) fun _ => rfl).runs,
    rfl, rfl, rfl, rfl, rfl⟩

theorem resulted_runIds (h : Held) (r : Run) (terminal : TerminalType)
    (result : WorkspaceResult) :
    (h.resulted r terminal result).task.runs.map Run.runId
      = h.task.runs.map Run.runId :=
  Table.map_update fun _ _ _ => rfl

/-- What a commit of a finalization writes. -/
theorem finalizeCommit_eq {r : Run} {terminal : TerminalType}
    {result : WorkspaceResult} {clock : Clock}
    (hok : finalizeCommit h r terminal result clock = .ok h') :
    ∃ q state, (h.resulted r terminal result).task.holding r.runId = some q
      ∧ (∀ s ∈ q.allocation.scopes, 0 < h.counters s)
      ∧ h' = { (h.resulted r terminal result).ended q state clock with
        task := {
          ((h.resulted r terminal result).ended q state clock).task with
          state := result.m4Status, currentRunId := none
          currentFence := none } } := by
  unfold finalizeCommit at hok
  simp only [bind_eq_ok] at hok
  obtain ⟨closed, hcloses, hok⟩ := hok
  cases hok
  obtain ⟨q, hq, hcounted, rfl⟩ := closeRun_eq_ok.mp hcloses
  exact ⟨q, _, hq, hcounted, rfl⟩

/-- What a task was observed of leaves its leases alone. -/
theorem sameLease_observed {runId : Uuid} {released : Time}
    {providerCallId : Text} {evidence : UsageEvidence} {observationId : Uuid}
    (hok : t.releaseReservations runId released = .ok t') :
    SameLease t
      (t'.observe runId providerCallId evidence observationId).2 := by
  unfold Task.releaseReservations at hok
  simp only [bind_eq_ok] at hok
  obtain ⟨_, _, hok⟩ := hok
  cases hok
  unfold Task.observe
  split
  · exact ⟨rfl, rfl, rfl, rfl, rfl, rfl⟩
  · exact ⟨rfl, rfl, rfl, rfl, rfl, rfl⟩

/-- A change keeps the leases of a task, and its counters. -/
theorem Change.leasing (change : Change h h')
    (hkeys : (h.task.runs.map Run.runId).Nodup) (hl : h.task.Leasing) :
    h'.task.Leasing ∧ Counts h h' := by
  have hkept : h'.counters = h.counters → SameLease h.task h'.task →
      h'.task.Leasing ∧ Counts h h' :=
    fun hcounters hsame => ⟨hsame.leasing hl, counts_same hcounters hsame⟩
  cases change with
  | recorded _ => exact hkept rfl (sameLease_record _ _ _ _ _)
  | exhausted hqueued _ _ =>
      refine hkept rfl ⟨rfl, ?_, rfl, rfl, rfl, rfl⟩
      exact (free_of_queued hqueued).symm
  | renewed => exact hkept rfl (sameLease_updateRun _ fun _ => rfl)
  | phased hedge =>
      obtain ⟨hfrom, hto⟩ := leased_of_phaseEdge hedge
      exact hkept rfl ⟨rfl, hto.trans hfrom.symm, rfl, rfl, rfl, rfl⟩
  | released hlocked hholding hcounted htarget =>
      obtain ⟨hmem, _, hfreed⟩ := holding_some hholding
      exact ⟨leasing_ended hl hmem hfreed rfl (releaseTarget_free htarget)
          ⟨rfl, rfl⟩ rfl rfl,
        counts_ended hkeys hmem hfreed hcounted rfl rfl⟩
  | @expired runId repairs =>
      have hruns := sameLease_updateRun (t := h.task) runId
        (f := fun r => { r with state := .expired }) fun _ => rfl
      refine hkept rfl ?_
      unfold Task.expireRun
      split
      · exact ⟨hruns.runs, rfl, rfl, rfl, rfl, rfl⟩
      · exact hruns
  | closed hterminal hcloses =>
      rw [closeActiveLease_free hl (free_of_terminal hterminal) hcloses]
      exact ⟨hl, counts_same rfl ⟨rfl, rfl, rfl, rfl, rfl, rfl⟩⟩
  | @terminated h₁ clock target hfinal hcloses hactive =>
      have htarget : target.isLeased = false := by
        obtain rfl | rfl := hfinal
        · rfl
        · rfl
      rcases closeActiveLease_ok hcloses with rfl | hclosed
      · have hfree : h₁.task.state.isLeased = false := by
          rw [Bool.eq_false_iff]
          intro hleased
          obtain ⟨r, hr, hlive⟩ := hl.leased hleased
          have hcurrent := (hl.points r hr (holds_of_isLive hlive)).2.1
          rw [hactive.1] at hcurrent
          cases hcurrent
        exact hkept rfl (hl.sameLease_clear hfree htarget)
      · obtain ⟨r, q, _, _, _, hholding, hcounted, rfl⟩ := hclosed
        obtain ⟨hmem, _, hfreed⟩ := holding_some hholding
        exact ⟨leasing_ended hl hmem hfreed rfl htarget ⟨rfl, rfl⟩ rfl rfl,
          counts_ended hkeys hmem hfreed hcounted rfl rfl⟩
  | orphaned hmem hlive hastray _ =>
      -- a live run is the one its task points to
      obtain ⟨_, hcurrent, hfence⟩ := hl.points _ hmem (holds_of_isLive hlive)
      refine absurd ⟨?_, hcurrent, hfence⟩ hastray
      by_contra hfree
      rw [Bool.not_eq_true] at hfree
      exact hl.none_holds hfree _ hmem (holds_of_isLive hlive)
  | overdue hqueued =>
      refine hkept rfl (hl.sameLease_clear (free_of_queued hqueued) ?_)
      split
      · rfl
      · rfl
  | reserved _ hreserves =>
      unfold reserve at hreserves
      simp only [bind_eq_ok] at hreserves
      obtain ⟨_, _, hreserves⟩ := hreserves
      cases hreserves
      exact hkept rfl ⟨rfl, rfl, rfl, rfl, rfl, rfl⟩
  | observed _ _ hreleases => exact hkept rfl (sameLease_observed hreleases)
  | blocked _ => exact hkept rfl ⟨rfl, rfl, rfl, rfl, rfl, rfl⟩
  | @finalized _ grant r clock terminal result _ _ hstatus hcommits =>
      obtain ⟨q, state, hholding, hcounted, rfl⟩ := finalizeCommit_eq hcommits
      obtain ⟨hmem, _, hfreed⟩ := holding_some hholding
      have hsame := resulted_sameLease h r terminal result
      rw [← resulted_runIds h r terminal result] at hkeys
      have hcount : Counts (h.resulted r terminal result)
          { (h.resulted r terminal result).ended q state clock
            with task := {
              ((h.resulted r terminal result).ended q state clock).task with
              state := result.m4Status, currentRunId := none
              currentFence := none } } :=
        counts_ended hkeys hmem hfreed hcounted rfl rfl
      refine ⟨leasing_ended (hsame.leasing hl) hmem hfreed rfl
        (m4Status_free hstatus) ⟨rfl, rfl⟩ rfl rfl, ?_⟩
      intro s
      have hs := hcount s
      rw [hsame.live] at hs
      exact hs

-- ============================================================== every move

/-- The leases of the store, and its capacity. -/
structure Db.Leasing (db : Db) : Prop where
  tasks : ∀ t ∈ db.tasks, t.Leasing
  counted : ∀ s, db.counters s = db.live s
  room : ∀ s, db.counters s ≤ s.ceiling

section Tables

variable {call : Call} {db db' : Db}

/-- To write one task back changes the live allocations by what it changes
in the task. -/
theorem live_put (hkeyed : db.Keyed) (hfound : db.task? t.taskId = some t)
    (hid : h.task.taskId = t.taskId) (s : Scope) :
    (db.put h).live s + t.live s = db.live s + h.task.live s := by
  have hsum := Table.sum_update (f := fun _ => h.task) (v := fun t => t.live s)
    hkeyed.tasks (task?_some hfound).1
  rw [← hid] at hsum
  exact hsum

/-- The other tasks are found as they were. -/
theorem task?_put_of_ne {taskId : Uuid} (hne : taskId ≠ h.task.taskId) :
    (db.put h).task? taskId = db.task? taskId := by
  unfold Db.task?
  show (Table.update _ _ db.tasks).find? _ = _
  rw [Table.find?_update]
  · cases hfound : db.tasks.find? _ with
    | none => rfl
    | some a =>
        have hid := (task?_some hfound).2
        show some (if decide (a.taskId = h.task.taskId) then h.task else a)
          = some a
        rw [if_neg]
        rw [decide_eq_true_eq, hid]
        exact hne
  · intro a ha
    rw [of_decide_eq_true ha]

theorem Db.Leasing.put (hl : db.Leasing) (hkeyed : db.Keyed)
    (hfound : db.task? t.taskId = some t) (hid : h.task.taskId = t.taskId)
    (htask : h.task.Leasing)
    (hcounts : ∀ s, h.counters s ≤ s.ceiling
      ∧ h.counters s + t.live s = db.counters s + h.task.live s) :
    (db.put h).Leasing := by
  refine ⟨?_, ?_, fun s => (hcounts s).1⟩
  · intro t' ht'
    rcases mem_put ht' with rfl | ⟨ht', _⟩
    · exact htask
    · exact hl.tasks t' ht'
  · intro s
    have hlive := live_put hkeyed hfound hid s
    have hcount := (hcounts s).2
    rw [hl.counted s] at hcount
    show h.counters s = _
    omega

/-- A task that is queued is leased to a new run. -/
theorem leasing_leased {request : ClaimRequest} {reads : ClaimReadings}
    (hl : t.Leasing) (hqueued : t.state.isQueued)
    (hleft : t.lastAttempt + 1 ≤ t.infrastructureRetries + 1)
    (counters : Scope → Nat) :
    (Held.leased { counters := counters, task := t }
      (leasedRun t request reads hleft)).task.Leasing := by
  have hfree := hl.none_holds (free_of_queued hqueued)
  have hattempt : t.lastAttempt = t.runs.length := by
    have hlength : (t.runs.map Run.attemptNo).length = t.runs.length :=
      List.length_map _
    rw [← hlength]
    exact hl.attempts.last
  have hfence : t.lastFence = (t.runs.map Run.fence).foldr max 0 := by
    rw [hl.fences.last, List.length_map]
    exact hl.last
  refine ⟨?_, ?_, ?_, ?_, ?_, ?_, ?_⟩
  · intro r hr hholds
    rcases List.mem_append.mp hr with hr | hr
    · exact absurd hholds (hfree r hr)
    · rw [List.mem_singleton.mp hr]
      exact ⟨rfl, rfl, rfl⟩
  · intro _
    exact ⟨_, List.mem_append_right _ (List.mem_singleton_self _), rfl⟩
  · intro hnone
    cases hnone
  · show Numbered ((t.runs ++ [_]).map Run.fence)
    rw [List.map_append]
    show Numbered (t.runs.map Run.fence ++ [t.lastFence + 1])
    rw [hfence]
    exact hl.fences.append
  · show Numbered ((t.runs ++ [_]).map Run.attemptNo)
    rw [List.map_append]
    exact hl.attempts.append
  · show t.lastFence + 1 = (t.runs ++ [_]).length
    rw [hl.last, List.length_append, List.length_singleton]
  · show (t.runs ++ [_]).length ≤ t.infrastructureRetries + 1
    rw [List.length_append, List.length_singleton, ← hattempt]
    exact hleft

theorem live_append (runs : List Run) (r : Run) (s : Scope)
    (hlive : r.allocation.releasedAt = none) :
    (runs ++ [r]).countP (fun r => r.allocation.releasedAt = none
        ∧ s ∈ r.allocation.scopes)
      = (runs.countP fun r => r.allocation.releasedAt = none
        ∧ s ∈ r.allocation.scopes)
        + if s ∈ r.allocation.scopes then 1 else 0 := by
  rw [List.countP_append, List.countP_singleton]
  simp [hlive]

theorem Move.leasing (move : Move call db db') (hkeyed : db.Keyed)
    (hl : db.Leasing) : db'.Leasing := by
  cases move with
  | @changed t h found change =>
      have hmem := (task?_some found).1
      obtain ⟨htask, hcounts⟩ := change.leasing (hkeyed.runs t hmem)
        (hl.tasks t hmem)
      refine hl.put hkeyed found change.keeps.taskId htask ?_
      intro s
      exact ⟨(hcounts s).1.trans (hl.room s), (hcounts s).2⟩
  | @leased t request reads hleft found queued settled free fresh fence room
      writer =>
      have hmem := (task?_some found).1
      refine hl.put hkeyed found rfl
        (leasing_leased (hl.tasks t hmem) queued hleft db.counters) ?_
      intro s
      have hlive := live_append t.runs (leasedRun t request reads hleft) s rfl
      show (if s ∈ scopes request.role t.repositoryId then db.counters s + 1
            else db.counters s) ≤ s.ceiling
        ∧ (if s ∈ scopes request.role t.repositoryId then db.counters s + 1
            else db.counters s) + t.live s
          = db.counters s + (t.runs ++ [_]).countP _
      rw [hlive]
      show _ ∧ _ = db.counters s + (t.live s
        + if s ∈ scopes request.role t.repositoryId then 1 else 0)
      by_cases hs : s ∈ scopes request.role t.repositoryId
      · have hroom := room s hs
        simp only [if_pos hs]
        exact ⟨by omega, by omega⟩
      · have hroom := hl.room s
        simp only [if_neg hs]
        exact ⟨hroom, by omega⟩
  | @created i reads generation t actor called next checked queued =>
      obtain ⟨_, rfl⟩ := event_eq_ok.mp queued
      have hsame := sameLease_record (t := queuedTask i reads generation)
        actor .intakeQueued i.idempotencyKey
        [("generation", .number generation)] false
      have hnew : (queuedTask i reads generation).Leasing := by
        refine ⟨?_, ?_, fun _ => ⟨rfl, rfl⟩, .nil, .nil, rfl, Nat.zero_le _⟩
        · intro r hr
          cases hr
        · intro hleased
          cases hleased
      refine ⟨?_, ?_, hl.room⟩
      · intro t' ht'
        rcases List.mem_append.mp ht' with ht' | ht'
        · exact hl.tasks t' ht'
        · rw [List.mem_singleton.mp ht']
          exact hsame.leasing hnew
      · intro s
        have hnone : (queuedTask i reads generation).live s = 0 := rfl
        show db.counters s = ((db.tasks ++ [_]).map fun t : Task => t.live s).sum
        rw [List.map_append, List.sum_append, List.map_singleton,
          List.sum_singleton, hsame.live, hnone]
        exact hl.counted s
  | recorded _ => exact ⟨hl.tasks, hl.counted, hl.room⟩
  | switched _ => exact ⟨hl.tasks, hl.counted, hl.room⟩

/-- The empty tables. -/
theorem keyed_empty : Db.Keyed {} := by
  refine ⟨List.nodup_nil, ?_⟩
  intro t ht
  cases ht

theorem leasing_empty : Db.Leasing {} := by
  refine ⟨?_, fun _ => rfl, fun _ => Nat.zero_le _⟩
  intro t ht
  cases ht

/-- What every move preserves, holds in every state of every run. -/
theorem reachable_preserves {digests : Digests} {I : Db → Prop}
    (hmove : ∀ {call db db'}, db.Keyed → I db → Move call db db' → I db')
    (hempty : I {}) (hreach : Run.Reachable (step digests) {} db) :
    db.Keyed ∧ I db := by
  refine Run.Reachable.invariant (I := fun db => db.Keyed ∧ I db) hreach
    ⟨keyed_empty, hempty⟩ ?_
  intro db db' call hI hstep
  cases hstep
  exact after_preserves hI.1 hmove hI.2

theorem reachable_leasing {digests : Digests}
    (hreach : Run.Reachable (step digests) {} db) : db.Keyed ∧ db.Leasing :=
  reachable_preserves (fun hkeyed hl move => move.leasing hkeyed hl)
    leasing_empty hreach

end Tables

-- ================================================================= leases

/-- A task has one live run in the leased states, and none in the others. -/
theorem Task.Leasing.countP_isLive (hl : t.Leasing)
    (hkeys : (t.runs.map Run.runId).Nodup) :
    t.runs.countP Run.isLive = if t.state.isLeased then 1 else 0 := by
  by_cases hleased : t.state.isLeased
  · rw [if_pos hleased]
    obtain ⟨r, hr, hlive⟩ := hl.leased hleased
    apply le_antisymm
    · refine Table.countP_le_one (k := r.runId) hkeys ?_
      intro q hq hqlive
      have hcurrent := (hl.points q hq (holds_of_isLive hqlive)).2.1
      rw [(hl.points r hr (holds_of_isLive hlive)).2.1] at hcurrent
      exact (Option.some.inj hcurrent).symm
    · exact List.countP_pos_iff.mpr ⟨r, hr, hlive⟩
  · rw [if_neg hleased, List.countP_eq_zero]
    rw [Bool.not_eq_true] at hleased
    intro r hr hlive
    exact hl.none_holds hleased r hr (holds_of_isLive hlive)

/-- In every reachable state a task has one live run in the leased states and
none in the others; it points to its live run, and to none if there is none;
a run is live where its capacity is; and fences and attempts are numbered
from one, with at most one more than the retries the intake allowed. -/
theorem one_live_run {digests : Digests} {db : Db}
    (hreach : Run.Reachable (step digests) {} db) :
    ∀ t ∈ db.tasks,
      (t.runs.countP Run.isLive = if t.state.isLeased then 1 else 0)
      ∧ (∀ r ∈ t.runs, r.isLive →
          t.currentRunId = some r.runId ∧ t.currentFence = some r.fence)
      ∧ (t.state.isLeased = false →
          t.currentRunId = none ∧ t.currentFence = none)
      ∧ (∀ r ∈ t.runs,
          r.releasedAt = none ↔ r.allocation.releasedAt = none)
      ∧ t.runs.map Run.fence = List.range' 1 t.runs.length
      ∧ t.runs.map Run.attemptNo = List.range' 1 t.runs.length
      ∧ t.runs.length ≤ t.infrastructureRetries + 1 := by
  intro t ht
  obtain ⟨hkeyed, hleasing⟩ := reachable_leasing hreach
  have hl := hleasing.tasks t ht
  refine ⟨hl.countP_isLive (hkeyed.runs t ht), ?_, hl.free, ?_, ?_, ?_,
    hl.bounded⟩
  · intro r hr hlive
    exact (hl.points r hr (holds_of_isLive hlive)).2
  · intro r hr
    constructor
    · intro hnone
      exact (isLive_iff.mp (hl.points r hr (.inl hnone)).1).2
    · intro hnone
      exact (isLive_iff.mp (hl.points r hr (.inr hnone)).1).1
  · have hfences := hl.fences
    unfold Numbered at hfences
    rw [List.length_map] at hfences
    exact hfences
  · have hattempts := hl.attempts
    unfold Numbered at hattempts
    rw [List.length_map] at hattempts
    exact hattempts

/-- A key no command of the sample has. -/
def sampleKey : Digest where
  text := List.replicate 64 'a'
  length_eq := rfl
  hex := by simp

/-- A claim of the task of an intake. -/
def sampleClaim : Call := .claim sampleRequest sampleWorker none sampleReads

theorem one_live_run_sample :
    ∃ db, Run.Reachable (step sampleDigests) {} db
      ∧ Run.run (step sampleDigests) {} [sampleCall 2 (by decide), sampleClaim]
        = some db
      ∧ ∀ t ∈ db.tasks,
        t.runs.countP Run.isLive = if t.state.isLeased then 1 else 0 := by
  have hreach : Run.Reachable (step sampleDigests) {}
      (Db.after sampleDigests
        (Db.after sampleDigests {} (sampleCall 2 (by decide))) sampleClaim) :=
    ⟨[sampleCall 2 (by decide), sampleClaim], rfl⟩
  exact ⟨_, hreach, rfl, fun t ht => (one_live_run hreach t ht).1⟩

/-- In every reachable state each counter is the number of the live
allocations in its scope, and no more than the scope has room for: one
writer, twenty readers, ten readers of one repository. -/
theorem exact_capacity {digests : Digests} {db : Db}
    (hreach : Run.Reachable (step digests) {} db) (s : Scope) :
    db.counters s = db.live s ∧ db.live s ≤ s.ceiling := by
  have hl := (reachable_leasing hreach).2
  refine ⟨hl.counted s, ?_⟩
  rw [← hl.counted s]
  exact hl.room s

theorem exact_capacity_sample :
    ∃ db, Run.Reachable (step sampleDigests) {} db
      ∧ Run.run (step sampleDigests) {} [sampleCall 2 (by decide), sampleClaim]
        = some db
      ∧ db.live (.global .reader) ≤ 20 := by
  have hreach : Run.Reachable (step sampleDigests) {}
      (Db.after sampleDigests
        (Db.after sampleDigests {} (sampleCall 2 (by decide))) sampleClaim) :=
    ⟨[sampleCall 2 (by decide), sampleClaim], rfl⟩
  exact ⟨_, hreach, rfl, (exact_capacity hreach (.global .reader)).2⟩

end Exolon.Store
