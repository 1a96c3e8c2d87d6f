/-
What the calls of the store come to: a chain of a few kinds of moves.

`Move` lists what one call does to the tables: it changes a task
(`Change`), leases one, creates one, or records a result or a switch.
`Db.after` takes the tables along moves of the call only (`after_moves`), so
that what every move preserves every call preserves (`after_preserves`).

A call raises, or makes all of its moves; what holds between two of its moves
is seen by nobody else.

# The keys

`Keyed` is what the primary keys of the tables are for: one row of an id. A
task is found by its id and written back under it, and a candidate of the
reconciliation tells of its run what is so, as long as ids and fences of
runs are not rewritten.
-/
import Exolon.Store.Changes

namespace Exolon.Store

open Factory Contracts Transaction Relation

-- ================================================================= moves

/-- The held rows after a new run was leased. -/
def Held.leased (h : Held) (r : Run) : Held where
  counters := fun s =>
    if s ∈ r.allocation.scopes then h.counters s + 1 else h.counters s
  task := Task.moved
    { h.task with lastFence := r.fence, runs := h.task.runs ++ [r] }
    .leased (.set r.runId r.fence) none

/-- A call changes the tables. -/
inductive Move (call : Call) : Db → Db → Prop
  | changed {db : Db} {t : Task} {h : Held}
      (found : db.task? t.taskId = some t) (change : Change (db.held t) h) :
      Move call db (db.put h)
  /-- A queued task is leased. -/
  | leased {db : Db} {t : Task} {request : ClaimRequest}
      {reads : ClaimReadings}
      {hleft : t.lastAttempt + 1 ≤ t.infrastructureRetries + 1}
      (found : db.task? t.taskId = some t) (queued : t.state.isQueued)
      (settled : t.settled) (free : t.hasReservation = false)
      (fresh : ∀ t' ∈ db.tasks, ∀ r ∈ t'.runs, r.runId ≠ reads.runId)
      (fence : ∀ r ∈ t.runs, r.fence ≠ t.lastFence + 1)
      (room : ∀ s ∈ scopes request.role t.repositoryId,
        db.counters s < s.ceiling)
      (writer : ¬ (request.role = .writer ∧ db.liveWriter)) :
      Move call db (db.put
        ((db.held t).leased (leasedRun t request reads hleft)))
  /-- A new task is queued. -/
  | created {db : Db} {i : TaskIntakeV1} {reads : IntakeReadings}
      {generation : Nat} {t : Task} {actor : Actor}
      (called : call = .intake i actor reads)
      (next : generation = ((db.tasks.filter fun t => t.IsOf i).map
        Task.generation).foldr max 0 + 1)
      (checked : db.checkTask (queuedTask i reads generation) = .ok ())
      (queued : (queuedTask i reads generation).event actor .intakeQueued
        i.idempotencyKey [("generation", .number generation)] = .ok t) :
      Move call db { db with tasks := db.tasks ++ [t] }
  /-- A command's result is recorded. -/
  | recorded {db : Db} {row : CommandRow}
      (fresh : ∀ c ∈ db.commands, c.idempotencyKey ≠ row.idempotencyKey) :
      Move call db { db with commands := db.commands ++ [row] }
  | switched {db : Db} {k : KillSwitch}
      (fresh : ∀ k' ∈ db.kills, k'.idempotencyKey ≠ k.idempotencyKey) :
      Move call db { db with kills := db.kills ++ [k] }

/-- A chain of moves of a call. -/
abbrev Moves (call : Call) : Db → Db → Prop := ReflTransGen (Move call)

-- ================================================================== keys

/-- The primary keys of tasks and runs. -/
structure Db.Keyed (db : Db) : Prop where
  tasks : (db.tasks.map Task.taskId).Nodup
  runs : ∀ t ∈ db.tasks, (t.runs.map Run.runId).Nodup

section Rows

variable {db : Db} {t : Task} {h h' : Held}

theorem task?_some {taskId : Uuid} (hfound : db.task? taskId = some t) :
    t ∈ db.tasks ∧ t.taskId = taskId := by
  have hp := List.find?_some hfound
  exact ⟨List.mem_of_find?_eq_some hfound, of_decide_eq_true hp⟩

theorem mem_put {t' : Task} (hmem : t' ∈ (db.put h).tasks) :
    t' = h.task ∨ t' ∈ db.tasks ∧ t'.taskId ≠ h.task.taskId := by
  obtain ⟨t, ht, ht'⟩ := Table.mem_update.mp hmem
  by_cases hid : t.taskId = h.task.taskId
  · rw [if_pos (decide_eq_true hid)] at ht'
    exact .inl ht'.symm
  · rw [if_neg (by rw [decide_eq_true_eq]; exact hid)] at ht'
    rw [← ht']
    exact .inr ⟨ht, hid⟩

theorem put_taskIds : (db.put h).tasks.map Task.taskId
    = db.tasks.map Task.taskId := by
  apply Table.map_update
  intro a _ ha
  exact (of_decide_eq_true ha).symm

/-- A task that is written back is found. -/
theorem task?_put (hfound : db.task? t.taskId = some t)
    (hid : h.task.taskId = t.taskId) :
    (db.put h).task? h.task.taskId = some h.task := by
  unfold Db.task?
  show (Table.update _ _ db.tasks).find? _ = _
  rw [Table.find?_update]
  · rw [hid]
    show (db.task? t.taskId).map _ = _
    rw [hfound]
    show some (if decide (t.taskId = t.taskId) then _ else _) = _
    rw [if_pos (decide_eq_true rfl)]
  · intro a ha
    rw [of_decide_eq_true ha]

theorem put_put (hid : h'.task.taskId = h.task.taskId) :
    (db.put h).put h' = db.put h' := by
  unfold Db.put
  dsimp only
  rw [hid, Table.update_update]
  intro a _
  exact decide_eq_true rfl

/-- To write back what was read changes nothing. -/
theorem put_held (hkeyed : db.Keyed) (hfound : db.task? t.taskId = some t) :
    db.put (db.held t) = db := by
  have htasks : Table.update (fun a : Task => decide (a.taskId = t.taskId))
      (fun _ => t) db.tasks = db.tasks := by
    unfold Table.update
    conv_rhs => rw [← List.map_id db.tasks]
    apply List.map_congr_left
    intro a ha
    by_cases hid : a.taskId = t.taskId
    · rw [if_pos (decide_eq_true hid)]
      exact (List.inj_on_of_nodup_map hkeyed.tasks ha (task?_some hfound).1
        hid).symm
    · rw [if_neg (by rw [decide_eq_true_eq]; exact hid)]
      rfl
  unfold Db.put Db.held
  dsimp only
  rw [htasks]

theorem checkTask_eq_ok {u : Unit} :
    db.checkTask t = .ok u
      ↔ (∀ t' ∈ db.tasks, t'.taskId ≠ t.taskId
          ∧ t'.intentDigest ≠ t.intentDigest ∧ t'.workKey ≠ t.workKey)
        ∧ ∀ t' ∈ db.tasks,
          t'.OfIdentity t.repositoryId t.sourceType t.sourceId →
            t'.generation ≠ t.generation ∧ t'.state.isTerminal := by
  unfold Db.checkTask
  simp only [bind_eq_ok, check_eq_ok]
  constructor
  · intro hok
    obtain ⟨_, hkeys, hactive⟩ := hok
    exact ⟨hkeys, hactive⟩
  · intro hok
    exact ⟨.unit, hok.1, hok.2⟩

end Rows

section Chains

variable {call : Call} {db db' : Db} {t : Task} {h h' : Held}

theorem keyed_put (hkeyed : db.Keyed)
    (hruns : (h.task.runs.map Run.runId).Nodup) : (db.put h).Keyed := by
  refine ⟨?_, ?_⟩
  · rw [put_taskIds]
    exact hkeyed.tasks
  · intro t' ht'
    rcases mem_put ht' with rfl | ⟨ht', _⟩
    · exact hruns
    · exact hkeyed.runs t' ht'

theorem Keeps.runIds {t t' : Task} (hkeeps : Keeps t t') :
    t'.runs.map Run.runId = t.runs.map Run.runId := by
  have hleases := congrArg (List.map Prod.fst) hkeeps.2
  unfold Task.leases at hleases
  rw [List.map_map, List.map_map] at hleases
  exact hleases

theorem Move.keyed (move : Move call db db') (hkeyed : db.Keyed) :
    db'.Keyed := by
  cases move with
  | @changed t h found change =>
      apply keyed_put hkeyed
      rw [change.keeps.runIds]
      exact hkeyed.runs t (task?_some found).1
  | @leased t request reads hleft found queued settled free fresh fence room
      writer =>
      apply keyed_put hkeyed
      show ((t.runs ++ [leasedRun t request reads hleft]).map Run.runId).Nodup
      rw [List.map_append, List.nodup_append]
      have hmem := (task?_some found).1
      refine ⟨hkeyed.runs t hmem, List.nodup_singleton _, ?_⟩
      intro a ha b hb
      obtain ⟨r, hr, rfl⟩ := List.mem_map.mp ha
      rw [List.mem_singleton.mp hb]
      exact fresh t hmem r hr
  | @created i reads generation t actor called next checked queued =>
      obtain ⟨_, rfl⟩ := event_eq_ok.mp queued
      have hkeeps := keeps_record (queuedTask i reads generation) actor
        .intakeQueued i.idempotencyKey [("generation", .number generation)]
        false
      have hfresh := (checkTask_eq_ok.mp checked).1
      refine ⟨?_, ?_⟩
      · show ((db.tasks ++ [_]).map Task.taskId).Nodup
        rw [List.map_append, List.nodup_append]
        refine ⟨hkeyed.tasks, List.nodup_singleton _, ?_⟩
        intro a ha b hb
        obtain ⟨t', ht', rfl⟩ := List.mem_map.mp ha
        rw [List.mem_singleton.mp hb, hkeeps.taskId]
        exact (hfresh t' ht').1
      · intro t' ht'
        rcases List.mem_append.mp ht' with ht' | ht'
        · exact hkeyed.runs t' ht'
        · rw [List.mem_singleton.mp ht', hkeeps.runIds]
          exact List.nodup_nil
  | recorded _ => exact ⟨hkeyed.tasks, hkeyed.runs⟩
  | switched _ => exact ⟨hkeyed.tasks, hkeyed.runs⟩

theorem Moves.keyed (moves : Moves call db db') (hkeyed : db.Keyed) :
    db'.Keyed := by
  induction moves with
  | refl => exact hkeyed
  | tail _ move ih => exact move.keyed ih

/-- A change of what was written back. -/
theorem move_put {h₁ h₂ : Held} (hfound : db.task? t.taskId = some t)
    (hid : h₁.task.taskId = t.taskId) (change : Change h₁ h₂) :
    Move call (db.put h₁) (db.put h₂) := by
  have hmove : Move call (db.put h₁) ((db.put h₁).put h₂) :=
    .changed (task?_put hfound hid) change
  rw [put_put change.keeps.taskId] at hmove
  exact hmove

/-- A chain of changes of one task is a chain of moves. -/
theorem moves_put (hkeyed : db.Keyed) (hfound : db.task? t.taskId = some t)
    (changes : Changes (db.held t) h) : Moves call db (db.put h) := by
  induction changes with
  | refl =>
      rw [put_held hkeyed hfound]
  | @tail h₁ h₂ changes change ih =>
      have hkeeps := Changes.keeps changes
      exact ih.tail (move_put hfound hkeeps.taskId change)

theorem moves_onTask {α : Type} {answer : α} {taskId : Uuid}
    {missing : Failure} {command : Held → Except Failure (α × Held)}
    (hkeyed : db.Keyed)
    (hcommand : ∀ {t answer h}, db.task? taskId = some t →
      command (db.held t) = .ok (answer, h) → Changes (db.held t) h)
    (hok : db.onTask taskId missing command = .ok (answer, db')) :
    Moves call db db' := by
  unfold Db.onTask at hok
  simp only [bind_eq_ok, fetch_eq_ok] at hok
  obtain ⟨t, ht, ⟨answer, h⟩, hanswer, hok⟩ := hok
  cases hok
  have hfound := ht
  rw [← (task?_some ht).2] at hfound
  exact moves_put hkeyed hfound (hcommand ht hanswer)

theorem moves_recordCommand {digests : Digests} {key : Option Digest}
    {actor : Actor} {request : Request} {result : CommandResult}
    (hok : db.recordCommand digests key actor request result = .ok db') :
    Moves call db db' := by
  unfold Db.recordCommand at hok
  cases key with
  | none =>
      cases hok
      exact .refl
  | some key =>
      simp only [bind_eq_ok, check_eq_ok] at hok
      obtain ⟨_, hfresh, hok⟩ := hok
      cases hok
      exact ReflTransGen.single (.recorded hfresh)

/-- A keyed command replays, or runs and records. -/
theorem keyed_ok {α : Type} {digests : Digests} {answer : α}
    {key : Option Digest} {actor : Actor} {request : Request}
    {replay : CommandResult → Except Failure α} {record : α → CommandResult}
    {body : Db → Except Failure (α × Db)}
    (hok : db.keyed digests key actor request replay record body
      = .ok (answer, db')) :
    db' = db ∨ ∃ db₁, body db = .ok (answer, db₁)
      ∧ db₁.recordCommand digests key actor request (record answer)
        = .ok db' := by
  unfold Db.keyed at hok
  rw [bind_eq_ok] at hok
  obtain ⟨prior, _, hok⟩ := hok
  cases prior with
  | some prior =>
      rw [bind_eq_ok] at hok
      obtain ⟨a, _, hok⟩ := hok
      cases hok
      exact .inl rfl
  | none =>
      simp only [bind_eq_ok] at hok
      obtain ⟨⟨answer, db₁⟩, hbody, db₂, hrecord, hok⟩ := hok
      cases hok
      exact .inr ⟨db₁, hbody, hrecord⟩

theorem moves_keyed {α : Type} {digests : Digests} {answer : α}
    {key : Option Digest} {actor : Actor} {request : Request}
    {replay : CommandResult → Except Failure α} {record : α → CommandResult}
    {body : Db → Except Failure (α × Db)}
    (hbody : ∀ {answer db'}, body db = .ok (answer, db') → Moves call db db')
    (hok : db.keyed digests key actor request replay record body
      = .ok (answer, db')) : Moves call db db' := by
  rcases keyed_ok hok with rfl | h
  · exact .refl
  · obtain ⟨db₁, hdb₁, hrecord⟩ := h
    exact (hbody hdb₁).trans (moves_recordCommand hrecord)

end Chains

-- ================================================================= calls

section Calls

variable {digests : Digests} {call : Call} {db db' : Db} {actor : Actor}
  {key : Option Digest} {grant : LeaseGrant} {clock : Clock}

theorem moves_supersedeAll {i : TaskIntakeV1} {reads : IntakeReadings}
    {oldIds : List Uuid} (hkeyed : db.Keyed)
    (hok : supersedeAll digests i actor reads oldIds db = .ok db') :
    Moves call db db' := by
  induction oldIds generalizing db with
  | nil =>
      cases hok
      exact .refl
  | cons oldId rest ih =>
      unfold supersedeAll supersede at hok
      simp only [bind_eq_ok] at hok
      obtain ⟨db₁, ⟨answer, hanswer, hdb₁⟩, hok⟩ := hok
      cases hdb₁
      have hmoves : Moves call db answer.2 := by
        refine moves_onTask hkeyed ?_ hanswer
        intro t answer h _ hanswer
        exact changes_supersedeTask hanswer
      exact hmoves.trans (ih (hmoves.keyed hkeyed) hok)

theorem moves_createGeneration {i : TaskIntakeV1} {reads : IntakeReadings}
    {answer : IntakeResult} (hkeyed : db.Keyed)
    (hcall : call = .intake i actor reads)
    (hok : createGeneration digests i actor reads db = .ok (answer, db')) :
    Moves call db db' := by
  unfold createGeneration at hok
  simp only [bind_eq_ok] at hok
  obtain ⟨db₁, hsuperseded, _, hchecked, t, ht, hok⟩ := hok
  cases hok
  exact (moves_supersedeAll hkeyed hsuperseded).tail
    (.created hcall rfl hchecked ht)

theorem moves_intake {i : TaskIntakeV1} {reads : IntakeReadings}
    {answer : IntakeResult} (hkeyed : db.Keyed)
    (hcall : call = .intake i actor reads)
    (hok : intake digests i actor reads db = .ok (answer, db')) :
    Moves call db db' := by
  refine moves_keyed ?_ hok
  intro answer db' hok
  simp only [bind_eq_ok] at hok
  obtain ⟨_, _, _, _, hok⟩ := hok
  cases hfound : db.tasks.find? fun t => t.workKey = i.idempotencyKey with
  | some t =>
      rw [hfound] at hok
      cases hok
      exact .refl
  | none =>
      rw [hfound] at hok
      simp only [bind_eq_ok] at hok
      obtain ⟨_, _, hok⟩ := hok
      exact moves_createGeneration hkeyed hcall hok

/-- The task a claim selects is one it may take. -/
theorem claimed_some {t : Task} {repositories : List Text}
    {reads : ClaimReadings} (hclaimed : db.claimed repositories reads = some t) :
    t ∈ db.tasks ∧ t.isClaimable repositories reads :=
  List.mem_filter.mp (Table.mem_of_first hclaimed)

theorem task?_mem {t : Task} (hkeyed : db.Keyed) (hmem : t ∈ db.tasks) :
    db.task? t.taskId = some t := by
  cases hfound : db.task? t.taskId with
  | none =>
      have hno := List.find?_eq_none.mp hfound t hmem
      exact absurd (decide_eq_true rfl) hno
  | some t' =>
      obtain ⟨hmem', hid⟩ := task?_some hfound
      rw [List.inj_on_of_nodup_map hkeyed.tasks hmem' hmem hid]

theorem lease_eq_ok {h h' : Held} {r : Run} {liveWriter : Bool} :
    lease digests h r actor liveWriter = .ok h'
      ↔ isRepository r.allocation.repositoryId
        ∧ (∀ s ∈ r.allocation.scopes, h.counters s < s.ceiling)
        ∧ ¬ (r.role = .writer ∧ liveWriter)
        ∧ h.task.state.isQueued
        ∧ h.task.ordinaryEvents < h.task.eventLimit
        ∧ h' = { h.leased r with
          task := (h.leased r).task.record actor .claimed
            (digests.event (.claim r.runId r.fence))
            [("from_state", .status h.task.state),
              ("target", .status .leased), ("operation", .operation .claim),
              ("run_id", .uuid r.runId), ("fence", .number r.fence),
              ("role", .role r.role)] false } := by
  unfold lease capacityAllocate
  simp only [bind_eq_ok, check_eq_ok, applyTransition_eq_ok, event_eq_ok]
  constructor
  · intro hok
    obtain ⟨h₁, ⟨_, hrepository, _, hroom, hh₁⟩, t, ⟨hallowed, _, rfl⟩, t',
      ⟨hevents, rfl⟩, hok⟩ := hok
    cases hh₁
    cases hok
    refine ⟨hrepository, hroom.1, hroom.2, allowed_claim.mp hallowed, ?_, rfl⟩
    obtain hevents | hevents := hevents
    · cases hevents
    · exact hevents
  · intro hok
    obtain ⟨hrepository, hroom, hwriter, hqueued, hevents, rfl⟩ := hok
    exact ⟨_, ⟨.unit, hrepository, .unit, ⟨hroom, hwriter⟩, rfl⟩, _,
      ⟨allowed_claim.mpr hqueued, rfl, rfl⟩, _, ⟨.inr hevents, rfl⟩, rfl⟩

theorem isClaimable_iff {t : Task} {repositories : List Text}
    {reads : ClaimReadings} :
    t.isClaimable repositories reads
      ↔ t.state.isQueued ∧ t.repositoryId ∈ repositories
        ∧ reads.clock.row t.taskId < t.deadlineAt ∧ t.settled
        ∧ t.hasReservation = false ∧ reads.claimable t.taskId
        ∧ reads.locked t.taskId = false := by
  simp [Task.isClaimable, and_assoc]

theorem moves_claimTask {request : ClaimRequest} {reads : ClaimReadings}
    {t : Task} {repositories : List Text} {answer : Option LeaseGrant}
    (hkeyed : db.Keyed) (hclaimed : db.claimed repositories reads = some t)
    (hok : claimTask digests request actor reads t db = .ok (answer, db')) :
    Moves call db db' := by
  obtain ⟨hmem, hclaimable⟩ := claimed_some hclaimed
  obtain ⟨hqueued, _, _, hsettled, hfree, _, _⟩ := isClaimable_iff.mp hclaimable
  have hfound := task?_mem hkeyed hmem
  unfold claimTask at hok
  split at hok
  case isTrue hleft =>
    simp only [bind_eq_ok, check_eq_ok] at hok
    obtain ⟨_, hfresh, _, hfence, h, hlease, hok⟩ := hok
    cases hok
    obtain ⟨_, hroom, hwriter, _, hevents, rfl⟩ := lease_eq_ok.mp hlease
    have hleased : Move call db (db.put
        ((db.held t).leased (leasedRun t request reads hleft))) :=
      .leased hfound hqueued hsettled hfree hfresh hfence hroom hwriter
    exact (ReflTransGen.single hleased).tail
      (move_put hfound rfl (.recorded (.inr ⟨rfl, hevents⟩)))
  case isFalse hnone =>
    simp only [bind_eq_ok] at hok
    obtain ⟨dead, hdead, hok⟩ := hok
    cases hok
    unfold retryExhausted at hdead
    simp only [bind_eq_ok, applyTransition_eq_ok, event_eq_ok] at hdead
    obtain ⟨t', ⟨_, _, rfl⟩, _, rfl⟩ := hdead
    refine moves_put hkeyed hfound ?_
    exact ReflTransGen.tail (.single (.exhausted hqueued hsettled hfree))
      (.recorded (.inl rfl))

theorem moves_claim {request : ClaimRequest} {reads : ClaimReadings}
    {answer : Option LeaseGrant} (hkeyed : db.Keyed)
    (hok : claim digests request actor key reads db = .ok (answer, db')) :
    Moves call db db' := by
  unfold claim at hok
  rw [bind_eq_ok] at hok
  obtain ⟨_, _, hok⟩ := hok
  refine moves_keyed ?_ hok
  intro answer db' hok
  split at hok
  case isTrue =>
    cases hok
    exact .refl
  case isFalse =>
    rw [bind_eq_ok] at hok
    obtain ⟨eligible, _, hok⟩ := hok
    cases hclaimed : db.claimed eligible reads with
    | none =>
        rw [hclaimed] at hok
        cases hok
        exact .refl
    | some t =>
        rw [hclaimed] at hok
        exact moves_claimTask hkeyed hclaimed hok

theorem moves_heartbeat {answer : LeaseGrant} (hkeyed : db.Keyed)
    (hok : heartbeat digests grant actor key clock db = .ok (answer, db')) :
    Moves call db db' := by
  refine moves_keyed ?_ hok
  intro answer db' hok
  refine moves_onTask hkeyed ?_ hok
  intro t answer h _ hok
  exact changes_renew hok

theorem moves_transitionPhase {target answer : TaskStatus} (hkeyed : db.Keyed)
    (hok : transitionPhase digests grant target actor key clock db
      = .ok (answer, db')) : Moves call db db' := by
  refine moves_keyed ?_ hok
  intro answer db' hok
  refine moves_onTask hkeyed ?_ hok
  intro t answer h _ hok
  exact changes_enterPhase hok

theorem moves_release {outcome : Outcome} {answer : TaskStatus}
    (hkeyed : db.Keyed)
    (hok : release digests grant outcome actor key clock db
      = .ok (answer, db')) : Moves call db db' := by
  refine moves_keyed ?_ hok
  intro answer db' hok
  refine moves_onTask hkeyed ?_ hok
  intro t answer h _ hok
  exact changes_releaseLocked hok

theorem moves_reserveBudget {amounts : Amounts} {reasonDigest key : Digest}
    {reservationId answer : Uuid} (hkeyed : db.Keyed)
    (hok : reserveBudget digests grant amounts reasonDigest key actor
      reservationId clock db = .ok (answer, db')) : Moves call db db' := by
  refine moves_keyed ?_ hok
  intro answer db' hok
  simp only [bind_eq_ok, fetch_eq_ok] at hok
  obtain ⟨t, ht, r, hlock, hok⟩ := hok
  cases hfound : db.reservation? key with
  | some found =>
      rw [hfound] at hok
      simp only [bind_eq_ok] at hok
      obtain ⟨_, _, hok⟩ := hok
      cases hok
      exact .refl
  | none =>
      rw [hfound] at hok
      simp only [bind_eq_ok] at hok
      obtain ⟨_, _, ⟨answer, h⟩, hreserves, hok⟩ := hok
      cases hok
      rw [← (task?_some ht).2] at ht
      have hid : answer = reservationId := by
        unfold reserve at hreserves
        rw [bind_eq_ok] at hreserves
        obtain ⟨_, _, hreserves⟩ := hreserves
        cases hreserves
        rfl
      rw [hid] at hreserves
      exact moves_put hkeyed ht (.single (.reserved hlock hreserves))

theorem moves_observeUsageLocked {report : UsageReport} {observationId : Uuid}
    {answer : Observed} (hkeyed : db.Keyed)
    (hok : observeUsageLocked digests grant report actor key observationId
      clock db = .ok (answer, db')) : Moves call db db' := by
  refine moves_keyed ?_ hok
  intro answer db' hok
  simp only [bind_eq_ok] at hok
  obtain ⟨answer', hanswer, _, _, hok⟩ := hok
  cases hok
  refine moves_onTask hkeyed ?_ hanswer
  intro t answer h _ hok
  exact changes_observeHeld hok

theorem moves_setKill {scope reason : Text} {enabled answer : Bool}
    {key : Digest} {switchId : Uuid}
    (hok : setKill digests scope enabled reason key actor switchId clock db
      = .ok (answer, db')) : Moves call db db' := by
  unfold setKill at hok
  simp only [bind_eq_ok] at hok
  obtain ⟨_, _, _, _, hok⟩ := hok
  refine moves_keyed ?_ hok
  intro answer db' hok
  rw [bind_eq_ok] at hok
  obtain ⟨_, _, hok⟩ := hok
  split at hok
  case isTrue =>
    cases hok
    exact .refl
  case isFalse hfresh =>
    cases hok
    refine ReflTransGen.single (.switched ?_)
    intro k hk hsame
    exact hfresh ⟨k, hk, hsame⟩

-- ======================================================= reconciliations

/-- A candidate of the tables tells of its run what is so. -/
def Candidate.In (c : Candidate) (db : Db) : Prop :=
  ∀ t, db.task? c.taskId = some t → c.Of t

theorem candidate_in {c : Candidate} {cursor : Option Uuid} {limit : Nat}
    (hkeyed : db.Keyed) (hc : c ∈ db.candidates cursor limit clock) :
    c.In db := by
  intro t ht
  have hmem := List.mem_of_mem_take hc
  rw [List.mem_mergeSort] at hmem
  have hrow := (List.mem_filter.mp hmem).1
  obtain ⟨t', ht', hct'⟩ := List.mem_flatMap.mp hrow
  rcases List.mem_append.mp hct' with hrun | hdeadline
  · obtain ⟨r, hr, rfl⟩ := List.mem_map.mp hrun
    have hr' := (List.mem_filter.mp hr).1
    have hsame : t = t' :=
      List.inj_on_of_nodup_map hkeyed.tasks (task?_some ht).1 ht'
        (task?_some ht).2
    rw [hsame]
    intro s hs hid
    rw [List.inj_on_of_nodup_map (hkeyed.runs t' ht') hs hr' hid]
  · split at hdeadline
    case isTrue =>
      rw [List.mem_singleton.mp hdeadline]
      trivial
    case isFalse => cases hdeadline

theorem Candidate.Of.keeps {c : Candidate} {t t' : Task} (hof : c.Of t)
    (hkeeps : Keeps t t') : c.Of t' := by
  cases c with
  | taskDeadline _ => trivial
  | run taskId runId owner role fence expires packetDigest =>
      intro r hr hid
      have hmem : (r.runId, r.fence) ∈ t'.leases := List.mem_map.mpr ⟨r, hr, rfl⟩
      rw [hkeeps.2] at hmem
      obtain ⟨s, hs, hsame⟩ := List.mem_map.mp hmem
      obtain ⟨hrun, hfence⟩ := Prod.mk.inj hsame
      rw [← hfence]
      exact hof s hs (hrun.trans hid)

theorem Candidate.In.put {c : Candidate} {t : Task} {h : Held}
    (hin : c.In db) (hkeyed : db.Keyed) (hfound : db.task? t.taskId = some t)
    (hkeeps : Keeps t h.task) : c.In (db.put h) := by
  intro t' ht'
  obtain ⟨hmem, hid⟩ := task?_some ht'
  rcases mem_put hmem with rfl | ⟨hmem, _⟩
  · rw [hkeeps.taskId] at hid
    rw [hid] at hfound
    exact (hin t hfound).keeps hkeeps
  · have hfound' := task?_mem hkeyed hmem
    rw [hid] at hfound'
    exact hin t' hfound'

theorem moves_reconcileAll {clocks : Nat → Clock} {candidates : List Candidate}
    {n m : Nat} (hkeyed : db.Keyed) (hin : ∀ c ∈ candidates, c.In db)
    (hok : reconcileAll digests actor clocks candidates n db = .ok (m, db')) :
    Moves call db db' := by
  induction candidates generalizing n m db with
  | nil =>
      cases hok
      exact .refl
  | cons c rest ih =>
      unfold reconcileAll Db.onTask at hok
      simp only [bind_eq_ok, fetch_eq_ok] at hok
      obtain ⟨⟨answer, db₁⟩, ⟨t, ht, ⟨answer', h⟩, hcommand, hput⟩, others,
        hothers, hok⟩ := hok
      cases hput
      cases hok
      have hchanges := changes_reconcileCandidate
        (hin c List.mem_cons_self t ht) hcommand
      rw [← (task?_some ht).2] at ht
      have hmoves : Moves call db (db.put h) := moves_put hkeyed ht hchanges
      refine hmoves.trans (ih (hmoves.keyed hkeyed) ?_ hothers)
      intro c' hc'
      exact (hin c' (List.mem_cons_of_mem c hc')).put hkeyed ht hchanges.keeps

theorem moves_reconcile {limit : Nat} {cursor : Option Uuid}
    {reads : ReconcileReadings} {answer : ReconcileResult}
    (hkeyed : db.Keyed)
    (hok : reconcile digests limit cursor actor key reads db
      = .ok (answer, db')) : Moves call db db' := by
  unfold reconcile at hok
  rw [bind_eq_ok] at hok
  obtain ⟨_, _, hok⟩ := hok
  refine moves_keyed ?_ hok
  intro answer db' hok
  simp only [bind_eq_ok] at hok
  obtain ⟨_, _, ⟨m, db₁⟩, hall, _, _, hok⟩ := hok
  cases hok
  refine moves_reconcileAll hkeyed ?_ hall
  intro c hc
  exact candidate_in hkeyed (List.mem_of_mem_take hc)

-- ======================================================== the other calls

theorem moves_cancel {taskId : Uuid} {reason : Text} {key : Digest}
    {authorized : Text → Bool} {projected : Bool} {answer : TaskProjection}
    (hkeyed : db.Keyed)
    (hok : cancel digests taskId reason key actor authorized projected clock
      db = .ok (answer, db')) : Moves call db db' := by
  unfold cancel at hok
  simp only [bind_eq_ok] at hok
  obtain ⟨_, _, _, _, ⟨answer', db₁⟩, hkeyedOk, _, _, hok⟩ := hok
  cases hok
  refine moves_keyed ?_ hkeyedOk
  intro answer db' hok
  refine moves_onTask hkeyed ?_ hok
  intro t answer h _ hok
  exact changes_cancelTask hok

theorem moves_finalizeExecution {packetDigest : Digest}
    {plane : ExecutionPlane} {answer : WorkspaceResult} (hkeyed : db.Keyed)
    (hok : finalizeExecution digests grant packetDigest plane actor key clock
      db = .ok (answer, db')) : Moves call db db' := by
  refine moves_keyed ?_ hok
  intro answer db' hok
  refine moves_onTask hkeyed ?_ hok
  intro t answer h _ hok
  split at hok
  · rw [bind_eq_ok] at hok
    obtain ⟨_, _, hok⟩ := hok
    cases hok
    exact .refl
  · exact changes_finalizeLocked hok

/-- What follows the usage of a proposal. -/
theorem moves_propose {event : Text} {db₁ : Db}
    {blocked proposes answer : Bool} (hmoves : Moves call db db₁)
    (hok : (if blocked then (pure (blocked, db₁) : Except Failure (Bool × Db))
      else do
        check proposes (.fence "stale execution proposal or fence")
        let db ← db₁.recordCommand digests key actor
          (.executionPropose grant.document event) .proposed
        return (false, db)) = .ok (answer, db')) : Moves call db db' := by
  split at hok
  case isTrue =>
    cases hok
    exact hmoves
  case isFalse =>
    simp only [bind_eq_ok] at hok
    obtain ⟨_, _, db₂, hrecord, hok⟩ := hok
    cases hok
    exact hmoves.trans (moves_recordCommand hrecord)

theorem moves_commitExecutionProposal {event : Text}
    {usage : Option (UsageReport × Uuid)} {admitted proposes answer : Bool}
    (hkeyed : db.Keyed)
    (hok : commitExecutionProposal digests grant event usage actor key
      admitted proposes clock db = .ok (answer, db')) : Moves call db db' := by
  unfold commitExecutionProposal at hok
  rw [bind_eq_ok] at hok
  obtain ⟨_, _, hok⟩ := hok
  rw [bind_eq_ok] at hok
  obtain ⟨prior, _, hok⟩ := hok
  cases prior with
  | some _ =>
      cases hok
      exact .refl
  | none =>
      rw [bind_eq_ok] at hok
      obtain ⟨t, _, hok⟩ := hok
      rw [bind_eq_ok] at hok
      obtain ⟨r, _, hok⟩ := hok
      cases usage with
      | none =>
          dsimp only at hok
          rw [bind_eq_ok] at hok
          obtain ⟨answer, hanswer, hok⟩ := hok
          cases hanswer
          exact moves_propose .refl hok
      | some usage =>
          dsimp only at hok
          rw [bind_eq_ok] at hok
          obtain ⟨⟨observed, db₁⟩, hobserved, hok⟩ := hok
          exact moves_propose (moves_observeUsageLocked hkeyed hobserved) hok

theorem moves_claimExecutionRecovery {taskId runId : Uuid}
    {found claims answer : Bool} (hkeyed : db.Keyed)
    (hok : claimExecutionRecovery digests taskId runId actor found claims
      clock db = .ok (answer, db')) : Moves call db db' := by
  unfold claimExecutionRecovery at hok
  split at hok
  case isFalse =>
    cases hok
    exact .refl
  case isTrue =>
    refine moves_onTask hkeyed ?_ hok
    intro t answer h _ hok
    dsimp only at hok
    split at hok
    · cases hok
      exact .refl
    · split at hok
      case isFalse =>
        cases hok
        exact .refl
      case isTrue =>
        simp only [bind_eq_ok] at hok
        obtain ⟨h₁, hreleased, _, _, hok⟩ := hok
        cases hok
        exact changes_releaseExpired hreleased

/-- A call takes the tables along its moves. -/
theorem after_moves (digests : Digests) (call : Call) {db : Db}
    (hkeyed : db.Keyed) : Moves call db (db.after digests call) := by
  have hraised : Moves call db db := .refl
  cases call with
  | intake i actor reads =>
      exact commit_preserves (fun hok => moves_intake hkeyed rfl hok) hraised
  | claim request actor key reads =>
      exact commit_preserves (fun hok => moves_claim hkeyed hok) hraised
  | heartbeat grant actor key clock =>
      exact commit_preserves (fun hok => moves_heartbeat hkeyed hok) hraised
  | transitionPhase grant target actor key clock =>
      exact commit_preserves (fun hok => moves_transitionPhase hkeyed hok)
        hraised
  | release grant outcome actor key clock =>
      exact commit_preserves (fun hok => moves_release hkeyed hok) hraised
  | reserveBudget grant amounts reasonDigest key actor reservationId clock =>
      exact commit_preserves (fun hok => moves_reserveBudget hkeyed hok)
        hraised
  | observeUsage grant providerCallId priceTableDigest cost tokens output
      components actor key observationId clock =>
      refine commit_preserves ?_ hraised
      intro answer db' hok
      unfold observeUsage at hok
      rw [bind_eq_ok] at hok
      obtain ⟨report, _, hok⟩ := hok
      exact moves_observeUsageLocked hkeyed hok
  | setKill scope enabled reason key actor switchId clock =>
      exact commit_preserves (fun hok => moves_setKill hok) hraised
  | reconcile limit cursor actor key reads =>
      exact commit_preserves (fun hok => moves_reconcile hkeyed hok) hraised
  | cancel taskId reason key actor authorized projected clock =>
      exact commit_preserves (fun hok => moves_cancel hkeyed hok) hraised
  | finalizeExecution grant packetDigest plane actor key clock =>
      exact commit_preserves (fun hok => moves_finalizeExecution hkeyed hok)
        hraised
  | commitExecutionProposal grant event usage actor key admitted proposes
      clock =>
      exact commit_preserves
        (fun hok => moves_commitExecutionProposal hkeyed hok) hraised
  | claimExecutionRecovery taskId runId actor found claims clock =>
      exact commit_preserves
        (fun hok => moves_claimExecutionRecovery hkeyed hok) hraised
  | otherCommand action document actor key =>
      refine commit_preserves ?_ hraised
      intro answer db' hok
      refine moves_keyed ?_ hok
      intro answer db' hok
      cases hok
      exact .refl

/-- What every move of a call preserves, the call preserves. -/
theorem after_preserves {I : Db → Prop} (hkeyed : db.Keyed)
    (hmove : ∀ {db db' : Db}, db.Keyed → I db → Move call db db' → I db')
    (hI : I db) :
    (db.after digests call).Keyed ∧ I (db.after digests call) := by
  have hmoves := after_moves digests call hkeyed
  generalize db.after digests call = db' at hmoves
  induction hmoves with
  | refl => exact ⟨hkeyed, hI⟩
  | tail _ move ih => exact ⟨move.keyed ih.1, hmove ih.1 ih.2 move⟩

end Calls

end Exolon.Store
