/-
Keyed calls: a call with a key takes effect at most once.

A call with an idempotency key records its result under it, in the same
transaction, and no row of the recorded results is ever written again
(`Moves.commands`). So of all calls with one key at most one changes the
tables (`keyed_recorded`, `keyed_changed`), and the same call again answers
what it answered first (`keyed_again`), whatever the store did in between.

`Db.answer` is a call with its answer; `Call.Again` is the same call at
another time: with another clock, another new id, and other readings.
-/
import Exolon.Store.Accounts
import Exolon.Store.Fencing
import Exolon.Store.Generations

namespace Exolon.Store

open Factory Contracts Transaction Relation

-- ================================================================= answers

/-- What a call answers. -/
inductive Answer
  | intake (result : IntakeResult)
  | grant (grant : Option LeaseGrant)
  | renewed (grant : LeaseGrant)
  | status (status : TaskStatus)
  | reservation (reservationId : Uuid)
  | observed (observed : Observed)
  | enabled (enabled : Bool)
  | reconciled (result : ReconcileResult)
  | task (task : TaskProjection)
  | finalized (result : WorkspaceResult)
  | blocked (blocked : Bool)
  | recovered (recovered : Bool)
  | other

/-- An answer, as one of the store. -/
def told {α : Type} (f : α → Answer) :
    Except Failure (α × Db) → Except Failure (Answer × Db)
  | .ok answer => .ok (f answer.1, answer.2)
  | .error e => .error e

variable (digests : Digests)

/-- A call, with what it answers. -/
def Db.answer (db : Db) : Call → Except Failure (Answer × Db)
  | .intake i actor reads => told .intake (intake digests i actor reads db)
  | .claim request actor key reads =>
      told .grant (claim digests request actor key reads db)
  | .heartbeat grant actor key clock =>
      told .renewed (heartbeat digests grant actor key clock db)
  | .transitionPhase grant target actor key clock =>
      told .status (transitionPhase digests grant target actor key clock db)
  | .release grant outcome actor key clock =>
      told .status (release digests grant outcome actor key clock db)
  | .reserveBudget grant amounts reasonDigest key actor reservationId clock =>
      told .reservation (reserveBudget digests grant amounts reasonDigest key
        actor reservationId clock db)
  | .observeUsage grant providerCallId priceTableDigest cost tokens output
      components actor key observationId clock =>
      told .observed (observeUsage digests grant providerCallId
        priceTableDigest cost tokens output components actor key
        observationId clock db)
  | .setKill scope enabled reason key actor switchId clock =>
      told .enabled (setKill digests scope enabled reason key actor switchId
        clock db)
  | .reconcile limit cursor actor key reads =>
      told .reconciled (reconcile digests limit cursor actor key reads db)
  | .cancel taskId reason key actor authorized projected clock =>
      told .task (cancel digests taskId reason key actor authorized projected
        clock db)
  | .finalizeExecution grant packetDigest plane actor key clock =>
      told .finalized (finalizeExecution digests grant packetDigest plane
        actor key clock db)
  | .commitExecutionProposal grant event usage actor key admitted proposes
      clock =>
      told .blocked (commitExecutionProposal digests grant event usage actor
        key admitted proposes clock db)
  | .claimExecutionRecovery taskId runId actor found claims clock =>
      told .recovered (claimExecutionRecovery digests taskId runId actor found
        claims clock db)
  | .otherCommand action document actor key =>
      told (fun _ => .other) (otherCommand digests action document actor key db)

/-- The key a call records its result under. The proposals and the recovery
have none. -/
def Call.key? : Call → Option Digest
  | .intake i _ _ => some (digests.intakeCommandKey i.requestId)
  | .claim _ _ key _ => key
  | .heartbeat _ _ key _ => key
  | .transitionPhase _ _ _ key _ => key
  | .release _ _ _ key _ => key
  | .reserveBudget _ _ _ key _ _ _ => some key
  | .observeUsage _ _ _ _ _ _ _ _ key _ _ => key
  | .setKill _ _ _ key _ _ _ => some key
  | .reconcile _ _ _ key _ => key
  | .cancel _ _ key _ _ _ _ => some key
  | .finalizeExecution _ _ _ _ key _ => key
  | .commitExecutionProposal _ _ _ _ _ _ _ _ => none
  | .claimExecutionRecovery _ _ _ _ _ _ => none
  | .otherCommand _ _ _ key => key

/-- Who calls. -/
def Call.actor : Call → Actor
  | .intake _ actor _ => actor
  | .claim _ actor _ _ => actor
  | .heartbeat _ actor _ _ => actor
  | .transitionPhase _ _ actor _ _ => actor
  | .release _ _ actor _ _ => actor
  | .reserveBudget _ _ _ _ actor _ _ => actor
  | .observeUsage _ _ _ _ _ _ _ actor _ _ _ => actor
  | .setKill _ _ _ _ actor _ _ => actor
  | .reconcile _ _ actor _ _ => actor
  | .cancel _ _ _ actor _ _ _ => actor
  | .finalizeExecution _ _ _ actor _ _ => actor
  | .commitExecutionProposal _ _ _ actor _ _ _ _ => actor
  | .claimExecutionRecovery _ _ actor _ _ _ => actor
  | .otherCommand _ _ actor _ => actor

/-- What a call records the digest of. -/
def Call.request? : Call → Option Request
  | .intake i _ _ => some (.intake i)
  | .claim request _ _ _ => some (.claim request)
  | .heartbeat grant _ _ _ => some (.heartbeat grant.document)
  | .transitionPhase grant target _ _ _ =>
      some (.transitionPhase grant.document target)
  | .release grant outcome _ _ _ =>
      some (.release grant.taskId grant.runId grant.fence outcome.value)
  | .reserveBudget grant amounts reasonDigest _ _ _ _ =>
      some (.reserveBudget grant.taskId grant.runId grant.fence amounts.cost
        amounts.tokens amounts.wall reasonDigest)
  | .observeUsage grant providerCallId priceTableDigest cost tokens output
      components _ _ _ _ =>
      some (.observeUsage grant.taskId grant.runId grant.fence providerCallId
        priceTableDigest cost tokens output (components.getD {}))
  | .setKill scope enabled reason _ _ _ _ =>
      some (.setKill scope enabled reason)
  | .reconcile limit cursor _ _ _ => some (.reconcile limit cursor)
  | .cancel taskId reason _ _ _ _ _ => some (.cancel taskId reason)
  | .finalizeExecution grant packetDigest _ _ _ _ =>
      some (.executionFinalize grant.taskId grant.runId packetDigest)
  | .commitExecutionProposal _ _ _ _ _ _ _ _ => none
  | .claimExecutionRecovery _ _ _ _ _ _ => none
  | .otherCommand action document _ _ => some (.other action document)

/-- The recorded result of a key. -/
def Db.recorded (db : Db) (key : Digest) : Option CommandRow :=
  db.commands.find? fun c => c.idempotencyKey = key

variable {digests} {call : Call} {db db' db₁ db₂ : Db} {key : Digest}
  {actor : Actor} {request : Request} {row : CommandRow}

theorem commit_told {α : Type} {f : α → Answer}
    {c : Db → Except Failure (α × Db)} :
    commit (fun db => told f (c db)) db = commit c db := by
  unfold commit told
  dsimp only
  cases c db with
  | ok answer => rfl
  | error e => rfl

/-- The tables after a call are those of its answer. -/
theorem after_eq_commit (call : Call) :
    db.after digests call = commit (fun db => db.answer digests call) db := by
  cases call with
  | otherCommand action document actor key =>
      exact (commit_told (f := fun _ => .other)).symm
  | _ => exact commit_told.symm

-- ============================================================ recorded rows

/-- A recorded result stays. -/
theorem Move.commands (move : Move call db db') :
    db.commands <+: db'.commands := by
  cases move with
  | changed _ _ => exact List.prefix_rfl
  | leased _ _ _ _ _ _ _ _ => exact List.prefix_rfl
  | created _ _ _ _ => exact List.prefix_rfl
  | recorded _ => exact List.prefix_append _ _
  | switched _ => exact List.prefix_rfl

theorem Moves.commands (moves : Moves call db db') :
    db.commands <+: db'.commands := by
  induction moves with
  | refl => exact List.prefix_rfl
  | tail _ move ih => exact ih.trans move.commands

theorem run_commands {calls : List Call} (hkeyed : db.Keyed)
    (hrun : Run.run (step digests) db calls = some db') :
    db.commands <+: db'.commands := by
  have hend : db'.Keyed ∧ db.commands <+: db'.commands := by
    refine Run.run_invariant
      (I := fun s => s.Keyed ∧ db.commands <+: s.commands) ?_
      ⟨hkeyed, List.prefix_rfl⟩ hrun
    intro s s' call hI hstep
    cases hstep
    have hmoves := after_moves digests call hI.1
    exact ⟨hmoves.keyed hI.1, hI.2.trans hmoves.commands⟩
  exact hend.2

theorem recorded_of_grown (hgrown : db₁.commands <+: db₂.commands)
    (hrow : db₁.recorded key = some row) : db₂.recorded key = some row := by
  obtain ⟨rows, hrows⟩ := hgrown
  unfold Db.recorded at hrow ⊢
  rw [← hrows, List.find?_append, hrow]
  rfl

-- ============================================================== keyed calls

section Keyed

variable {α : Type} {replay : CommandResult → Except Failure α}
  {record : α → CommandResult} {body body' : Db → Except Failure (α × Db)}
  {a : α}

/-- What a call with a recorded key answers. -/
theorem keyed_of_recorded (hrow : db.recorded key = some row) :
    db.keyed digests (some key) actor request replay record body
      = (do
        check (row.actorId = actor.actorId ∧ row.action = request.action
            ∧ row.requestDigest = digests.request request)
          (.store "idempotency key reused with different command")
        let a ← replay row.result
        return (a, db)) := by
  unfold Db.keyed Db.commandReplay
  unfold Db.recorded at hrow
  simp only [Option.bind_some, hrow]
  unfold check
  split
  · rfl
  · rfl

/-- A call with a recorded key changes nothing. -/
theorem keyed_recorded (hrow : db.recorded key = some row)
    (hok : db.keyed digests (some key) actor request replay record body
      = .ok (a, db')) : db' = db := by
  rw [keyed_of_recorded hrow] at hok
  simp only [bind_eq_ok] at hok
  obtain ⟨_, _, _, _, hok⟩ := hok
  cases hok
  rfl

/-- A call that changes the tables has recorded its result. -/
theorem keyed_changed
    (hok : db.keyed digests (some key) actor request replay record body
      = .ok (a, db')) : db' = db ∨ (db'.recorded key).isSome := by
  rcases keyed_ok hok with hsame | hran
  · exact .inl hsame
  · right
    obtain ⟨db₁, _, hrecord⟩ := hran
    unfold Db.recordCommand at hrecord
    simp only [bind_eq_ok] at hrecord
    obtain ⟨_, _, hrecord⟩ := hrecord
    cases hrecord
    unfold Db.recorded
    rw [List.find?_isSome]
    exact ⟨_, List.mem_append_right _ (List.mem_singleton_self _),
      decide_eq_true rfl⟩

/-- The same call again answers what it answered first. -/
theorem keyed_again
    (hfirst : db.keyed digests (some key) actor request replay record body
      = .ok (a, db₁))
    (hgrown : db₁.commands <+: db₂.commands)
    (hreplay : ∀ {a db'}, body db = .ok (a, db') → replay (record a) = .ok a) :
    db₂.keyed digests (some key) actor request replay record body'
      = .ok (a, db₂) := by
  cases hrow : db.recorded key with
  | some row =>
      -- it was a replay itself
      have hsame := keyed_recorded hrow hfirst
      rw [keyed_of_recorded hrow] at hfirst
      simp only [bind_eq_ok, check_eq_ok] at hfirst
      obtain ⟨_, hcheck, a', ha, hfirst⟩ := hfirst
      cases hfirst
      rw [keyed_of_recorded (recorded_of_grown hgrown hrow)]
      simp only [bind_eq_ok, check_eq_ok]
      exact ⟨.unit, hcheck, _, ha, rfl⟩
  | none =>
      have hnone : db.commandReplay digests (some key) actor request
          = .ok none := by
        unfold Db.commandReplay
        unfold Db.recorded at hrow
        simp only [Option.bind_some, hrow]
      unfold Db.keyed at hfirst
      rw [bind_eq_ok] at hfirst
      obtain ⟨prior, hprior, hfirst⟩ := hfirst
      rw [hnone] at hprior
      cases hprior
      simp only [bind_eq_ok] at hfirst
      obtain ⟨⟨a', db'⟩, hbody, db'', hrecord, hfirst⟩ := hfirst
      cases hfirst
      unfold Db.recordCommand at hrecord
      simp only [bind_eq_ok, check_eq_ok] at hrecord
      obtain ⟨_, hfresh, hrecord⟩ := hrecord
      cases hrecord
      have hfound : Db.recorded { db' with
          commands := db'.commands ++ [{
            idempotencyKey := key
            actorId := actor.actorId
            action := request.action
            requestDigest := digests.request request
            result := record a' }] } key = some {
              idempotencyKey := key
              actorId := actor.actorId
              action := request.action
              requestDigest := digests.request request
              result := record a' } := by
        unfold Db.recorded
        have hold : db'.commands.find? (fun c => c.idempotencyKey = key)
            = none := by
          rw [List.find?_eq_none]
          intro c hc hsame
          exact hfresh c hc (of_decide_eq_true hsame)
        rw [List.find?_append, hold]
        simp
      rw [keyed_of_recorded (recorded_of_grown hgrown hfound)]
      simp only [bind_eq_ok, check_eq_ok]
      exact ⟨.unit, by simp, _, hreplay hbody, rfl⟩

end Keyed

-- ============================================================ at most once

theorem told_eq_ok {α : Type} {f : α → Answer} {x : Except Failure (α × Db)}
    {answer : Answer} :
    told f x = .ok (answer, db') ↔ ∃ a, x = .ok (a, db') ∧ answer = f a := by
  unfold told
  cases x with
  | ok x =>
      constructor
      · intro h
        cases h
        exact ⟨x.1, rfl, rfl⟩
      · intro h
        obtain ⟨a, ha, rfl⟩ := h
        cases ha
        rfl
  | error e =>
      constructor
      · intro h
        cases h
      · intro h
        obtain ⟨a, ha, _⟩ := h
        cases ha

/-- A report says what the call says, without components of zeros. -/
theorem usageReport_ok {providerCallId : Text} {priceTableDigest : Option Text}
    {cost tokens output : Nat} {components : Option UsageComponents}
    {report : UsageReport}
    (hok : usageReport providerCallId priceTableDigest cost tokens output
      components = .ok report) :
    report = {
      providerCallId := providerCallId
      priceTableDigest := priceTableDigest
      cost := cost
      tokens := tokens
      output := output
      components := components.getD {} } := by
  unfold usageReport at hok
  cases components with
  | none =>
      simp only [bind_eq_ok] at hok
      obtain ⟨_, _, _, hcomponents, hok⟩ := hok
      cases hcomponents
      cases hok
      rfl
  | some c =>
      simp only [bind_eq_ok] at hok
      obtain ⟨_, _, _, _, _, hcomponents, hok⟩ := hok
      cases hcomponents
      cases hok
      rfl

/-- A call with a key answers as a keyed command does. -/
theorem answer_keyed {answer : Answer} (hkey : call.key? digests = some key)
    (hok : db.answer digests call = .ok (answer, db')) :
    ∃ (α : Type) (request : Request)
      (replay : CommandResult → Except Failure α) (record : α → CommandResult)
      (body : Db → Except Failure (α × Db)) (a : α),
      call.request? = some request
        ∧ db.keyed digests (some key) call.actor request replay record body
          = .ok (a, db') := by
  cases call with
  | intake i actor reads =>
      cases hkey
      obtain ⟨a, hok, _⟩ := told_eq_ok.mp hok
      exact ⟨_, _, _, _, _, a, rfl, hok⟩
  | claim request actor k reads =>
      cases hkey
      obtain ⟨a, hok, _⟩ := told_eq_ok.mp hok
      unfold claim at hok
      rw [bind_eq_ok] at hok
      obtain ⟨_, _, hok⟩ := hok
      exact ⟨_, _, _, _, _, a, rfl, hok⟩
  | heartbeat grant actor k clock =>
      cases hkey
      obtain ⟨a, hok, _⟩ := told_eq_ok.mp hok
      exact ⟨_, _, _, _, _, a, rfl, hok⟩
  | transitionPhase grant target actor k clock =>
      cases hkey
      obtain ⟨a, hok, _⟩ := told_eq_ok.mp hok
      exact ⟨_, _, _, _, _, a, rfl, hok⟩
  | release grant outcome actor k clock =>
      cases hkey
      obtain ⟨a, hok, _⟩ := told_eq_ok.mp hok
      exact ⟨_, _, _, _, _, a, rfl, hok⟩
  | reserveBudget grant amounts reasonDigest k actor reservationId clock =>
      cases hkey
      obtain ⟨a, hok, _⟩ := told_eq_ok.mp hok
      exact ⟨_, _, _, _, _, a, rfl, hok⟩
  | observeUsage grant providerCallId priceTableDigest cost tokens output
      components actor k observationId clock =>
      cases hkey
      obtain ⟨a, hok, _⟩ := told_eq_ok.mp hok
      unfold observeUsage at hok
      rw [bind_eq_ok] at hok
      obtain ⟨report, hreport, hok⟩ := hok
      have hsame := usageReport_ok hreport
      rw [hsame] at hok
      exact ⟨_, _, _, _, _, a, rfl, hok⟩
  | setKill scope enabled reason k actor switchId clock =>
      cases hkey
      obtain ⟨a, hok, _⟩ := told_eq_ok.mp hok
      unfold setKill at hok
      simp only [bind_eq_ok] at hok
      obtain ⟨_, _, _, _, hok⟩ := hok
      exact ⟨_, _, _, _, _, a, rfl, hok⟩
  | reconcile limit cursor actor k reads =>
      cases hkey
      obtain ⟨a, hok, _⟩ := told_eq_ok.mp hok
      unfold reconcile at hok
      rw [bind_eq_ok] at hok
      obtain ⟨_, _, hok⟩ := hok
      exact ⟨_, _, _, _, _, a, rfl, hok⟩
  | cancel taskId reason k actor authorized projected clock =>
      cases hkey
      obtain ⟨_, hok, _⟩ := told_eq_ok.mp hok
      unfold cancel at hok
      simp only [bind_eq_ok] at hok
      obtain ⟨_, _, _, _, ⟨a, db₁⟩, hkeyed, _, _, hok⟩ := hok
      cases hok
      exact ⟨_, _, _, _, _, a, rfl, hkeyed⟩
  | finalizeExecution grant packetDigest plane actor k clock =>
      cases hkey
      obtain ⟨a, hok, _⟩ := told_eq_ok.mp hok
      exact ⟨_, _, _, _, _, a, rfl, hok⟩
  | commitExecutionProposal grant event usage actor k admitted proposes clock =>
      cases hkey
  | claimExecutionRecovery taskId runId actor found claims clock => cases hkey
  | otherCommand action document actor k =>
      cases hkey
      obtain ⟨a, hok, _⟩ := (told_eq_ok (f := fun _ => .other)).mp hok
      exact ⟨_, _, _, _, _, a, rfl, hok⟩

/-- A call with a recorded key changes nothing. -/
theorem after_recorded (hkey : call.key? digests = some key)
    (hrow : db.recorded key = some row) : db.after digests call = db := by
  rw [after_eq_commit]
  refine commit_preserves (I := fun db' => db' = db) ?_ rfl
  intro answer db' hok
  obtain ⟨α, _, _, _, _, a, _, hkeyed⟩ := answer_keyed hkey hok
  exact keyed_recorded hrow hkeyed

/-- A call that changes the tables has recorded its key. -/
theorem after_changed (hkey : call.key? digests = some key) :
    db.after digests call = db
      ∨ ((db.after digests call).recorded key).isSome := by
  rw [after_eq_commit]
  refine commit_preserves
    (I := fun db' => db' = db ∨ (db'.recorded key).isSome) ?_ (.inl rfl)
  intro answer db' hok
  obtain ⟨α, _, _, _, _, a, _, hkeyed⟩ := answer_keyed hkey hok
  exact keyed_changed hkeyed

/-- The same call at another time. -/
inductive Call.Again : Call → Call → Prop
  | intake {i : TaskIntakeV1} {actor : Actor} {reads reads' : IntakeReadings} :
      Again (.intake i actor reads) (.intake i actor reads')
  | claim {request : ClaimRequest} {actor : Actor} {key : Option Digest}
      {reads reads' : ClaimReadings} :
      Again (.claim request actor key reads) (.claim request actor key reads')
  | heartbeat {grant : LeaseGrant} {actor : Actor} {key : Option Digest}
      {clock clock' : Clock} :
      Again (.heartbeat grant actor key clock)
        (.heartbeat grant actor key clock')
  | transitionPhase {grant : LeaseGrant} {target : TaskStatus} {actor : Actor}
      {key : Option Digest} {clock clock' : Clock} :
      Again (.transitionPhase grant target actor key clock)
        (.transitionPhase grant target actor key clock')
  | release {grant : LeaseGrant} {outcome : Outcome} {actor : Actor}
      {key : Option Digest} {clock clock' : Clock} :
      Again (.release grant outcome actor key clock)
        (.release grant outcome actor key clock')
  | reserveBudget {grant : LeaseGrant} {amounts : Amounts}
      {reasonDigest key : Digest} {actor : Actor}
      {reservationId reservationId' : Uuid} {clock clock' : Clock} :
      Again
        (.reserveBudget grant amounts reasonDigest key actor reservationId
          clock)
        (.reserveBudget grant amounts reasonDigest key actor reservationId'
          clock')
  | observeUsage {grant : LeaseGrant} {providerCallId : Text}
      {priceTableDigest : Option Text} {cost tokens output : Nat}
      {components : Option UsageComponents} {actor : Actor}
      {key : Option Digest} {observationId observationId' : Uuid}
      {clock clock' : Clock} :
      Again
        (.observeUsage grant providerCallId priceTableDigest cost tokens output
          components actor key observationId clock)
        (.observeUsage grant providerCallId priceTableDigest cost tokens output
          components actor key observationId' clock')
  | setKill {scope reason : Text} {enabled : Bool} {key : Digest}
      {actor : Actor} {switchId switchId' : Uuid} {clock clock' : Clock} :
      Again (.setKill scope enabled reason key actor switchId clock)
        (.setKill scope enabled reason key actor switchId' clock')
  | reconcile {limit : Nat} {cursor : Option Uuid} {actor : Actor}
      {key : Option Digest} {reads reads' : ReconcileReadings} :
      Again (.reconcile limit cursor actor key reads)
        (.reconcile limit cursor actor key reads')

theorem generation_of_keeps {t t' : Task} (hkeeps : Keeps t t') :
    t'.generation = t.generation := by
  show t'.created.generation = t.created.generation
  rw [hkeeps.1]

/-- A new task is of the first generation or of a later one. -/
theorem intake_generation {i : TaskIntakeV1} {reads : IntakeReadings}
    {answer : IntakeResult} (hpositive : ∀ t ∈ db.tasks, 1 ≤ t.generation)
    (hok : (do
      let status :=
        if isRepairSource i then reads.repairStatus else .ordinary
      checkRepairSource i status
      check reads.trusted (.authority
        "M0 authority is not trusted for repository/policy/action")
      match db.tasks.find? fun t => t.workKey = i.idempotencyKey with
      | some t => return ({ task := t.projection, created := false }, db)
      | none => do
          check (status ≠ .bound)
            (.store "bound repair proposal source cannot be superseded")
          createGeneration digests i actor reads db : Except Failure
            (IntakeResult × Db)) = .ok (answer, db')) :
    intakeReplay (.intake answer) = .ok answer := by
  have hreplay : 1 ≤ answer.task.generation →
      intakeReplay (.intake answer) = .ok answer := by
    intro hgeneration
    unfold intakeReplay
    simp only [bind_eq_ok, check_eq_ok]
    exact ⟨.unit, hgeneration, rfl⟩
  apply hreplay
  simp only [bind_eq_ok] at hok
  obtain ⟨_, _, _, _, hok⟩ := hok
  cases hfound : db.tasks.find? fun t => t.workKey = i.idempotencyKey with
  | some t =>
      rw [hfound] at hok
      cases hok
      exact hpositive t (List.mem_of_find?_eq_some hfound)
  | none =>
      rw [hfound] at hok
      simp only [bind_eq_ok] at hok
      obtain ⟨_, _, hok⟩ := hok
      unfold createGeneration at hok
      simp only [bind_eq_ok] at hok
      obtain ⟨_, _, _, _, t, ht, hok⟩ := hok
      cases hok
      obtain ⟨_, rfl⟩ := event_eq_ok.mp ht
      show 1 ≤ (Task.record _ _ _ _ _ _).generation
      rw [generation_of_keeps (keeps_record _ _ _ _ _ _)]
      exact Nat.le_add_left 1 _

/-- The check of a reconciliation passes in every reachable state. -/
theorem isCapacityConsistent_of_leasing (hl : db.Leasing)
    (repositories : List Text) : db.isCapacityConsistent repositories := by
  unfold Db.isCapacityConsistent
  rw [List.all_eq_true]
  intro s _
  rw [beq_iff_eq]
  exact hl.counted s

theorem positive_of_generations (hg : db.Generations) :
    ∀ t ∈ db.tasks, 1 ≤ t.generation := by
  intro t ht
  have hmem : t.generation
      ∈ db.generationsOf t.repositoryId t.sourceType t.sourceId :=
    List.mem_map_of_mem (List.mem_filter.mpr
      ⟨ht, decide_eq_true ⟨rfl, rfl, rfl⟩⟩)
  exact ((hg.numbered _ _ _).mem_iff.mp hmem).1

/-- A heartbeat answers its grant with a new expiry. -/
theorem heartbeat_answer {grant answer : LeaseGrant} {clock : Clock}
    (hok : db.onTask grant.taskId staleFence (renew grant clock)
      = .ok (answer, db')) :
    expiryReplay grant (.expiresAt answer.expiresAt) = .ok answer := by
  unfold Db.onTask renew at hok
  simp only [bind_eq_ok] at hok
  obtain ⟨_, _, _, ⟨_, _, hanswer⟩, hok⟩ := hok
  cases hanswer
  cases hok
  rfl

theorem observed_answer (observed : Observed) :
    observedReplay observed.record = .ok observed := by
  cases observed with
  | counted result => rfl
  | blocked => rfl

/-- An operator stops every claim. -/
def sampleStop : Call :=
  .setKill "global".toList true "stop".toList sampleKey
    { actorId := "operator".toList, kind := .operator } sampleId sampleClock

end Exolon.Store
