/-
The database outlives the process: what restarts leave of the landing jobs.

When the database is opened again, the jobs that were under way are handed to
a person, at most `limit` of them, in the order of their identities; the rest
waits for the next time. Whatever is called, and however often the process
ends in between, a record is only ever replaced by one of the same input with
a larger revision and a state further on (`Follows`), and a command stays as
it was given (`Grows`).

So a record that is put back was not changed since it was read
(`no_lost_update`), a job that was handed over is not taken up again
(`handed_over`), enough restarts leave no job under way (`restarts_clear`),
and a job is created once (`submitted_once`).
-/
import Exolon.Landing.Agree

namespace Exolon.Landing

open Failover (LandingInput)
open Factory (bind_ok)
open LandingApplicationService (StoreCall normalizingRecord smallInput
  smallSubmission smallDigest)
open Relation (ReflTransGen)

-- ============================================== opening the database again

namespace JobState

/-- `state IN ('accepted', 'normalizing', 'generating', 'evaluating')` -/
def isUnderWay : JobState → Bool
  | .accepted => true
  | .normalizing => true
  | .generating => true
  | .evaluating => true
  | .artifactReady => false
  | .providerUnavailable => false
  | .rejected => false
  | .cancelled => false
  | .needsHuman => false

/-- The reason for a job that was in this state. -/
def interruption : JobState → Text
  | .accepted => "input_unavailable_after_restart".toList
  | .normalizing => "provider_outcome_ambiguous".toList
  | _ => "local_run_interrupted".toList

end JobState

/-- The record of a job that is handed to a person. -/
def LandingJobRecord.interrupted (record : LandingJobRecord) :
    LandingJobRecord :=
  { record with
    state := .needsHuman
    reasonCode := some record.state.interruption
    revision := record.revision + 1 }

/-- `ORDER BY tenant_id, repository_id, job_id` -/
def identityBefore (id other : Identity) : Prop :=
  id.1 < other.1 ∨ id.1 = other.1 ∧ (id.2.1 < other.2.1
    ∨ id.2.1 = other.2.1 ∧ id.2.2 < other.2.2)

/-- What the SELECT of `_recover_interrupted` answers: the first rows under
way, as many as the limit allows. -/
structure Selects (limit : Nat) (t : Tables) (rows : List LandingJobRecord) :
    Prop where
  found : ∀ row ∈ rows, t.records row.identity = some row
    ∧ row.state.isUnderWay = true
  ordered : rows.Pairwise fun row other =>
    identityBefore row.identity other.identity
  limited : rows.length ≤ limit
  first : ∀ id record, t.records id = some record →
    record.state.isUnderWay = true → record ∉ rows →
    rows.length = limit ∧ ∀ row ∈ rows, identityBefore row.identity id

namespace SQLiteLandingJobStore

/-- The UPDATE for one of these rows. -/
def recoverRow (t : Tables) (row : LandingJobRecord) : Tables :=
  match t.records row.identity with
  | none => t
  | some current =>
      if current.revision ≠ row.revision then t
      else t.setRecord { current with
        state := .needsHuman
        reasonCode := some row.state.interruption
        revision := row.revision + 1 }

/-- `_recover_interrupted`, over the rows that it selects -/
def recoverInterrupted (limit : Nat) (rows : List LandingJobRecord)
    (t : Tables) : Tables :=
  if limit = 0 then t else rows.foldl recoverRow t

end SQLiteLandingJobStore

open SQLiteLandingJobStore

/-- What happens to the database: a call, over what the files say then, or
the process ends and another one opens it. -/
inductive Happens : Tables → Tables → Prop
  | called (files : Files) (call : StoreCall) {t : Tables} :
      Happens t (call.issue (sqlite files) t).2
  | restarted {limit : Nat} {rows : List LandingJobRecord} {t : Tables}
      (selects : Selects limit t rows) :
      Happens t (recoverInterrupted limit rows t)

-- ========================================================= what is kept

/-- A state that a job may be in later: on the way of `_TRANSITIONS`, or
after the demotion of a finished job. -/
def JobState.Later : JobState → JobState → Prop :=
  ReflTransGen fun state next => next ∈ state.transitions
    ∨ state = .artifactReady ∧ next = .needsHuman

/-- A record that may stand in the place of another. -/
structure LandingJobRecord.Follows (record next : LandingJobRecord) :
    Prop where
  source : next.source = record.source
  later : record.state.Later next.state
  newer : next = record ∨ record.revision < next.revision

/-- Every record is under its identity. -/
def Tables.Keyed (t : Tables) : Prop :=
  ∀ id record, t.records id = some record → record.identity = id

/-- Records follow on those that were there, and commands stay. -/
structure Tables.Grows (t t' : Tables) : Prop where
  records : ∀ {id record}, t.records id = some record →
    ∃ next, t'.records id = some next ∧ record.Follows next
  commands : ∀ {key command}, t.commands key = some command →
    t'.commands key = some command

variable {t t' t₀ t₁ : Tables} {record current answer : LandingJobRecord}
  {id : Identity} {files : Files} {rows : List LandingJobRecord}
  {limit : Nat}

namespace LandingJobRecord

theorem Follows.refl (record : LandingJobRecord) : record.Follows record :=
  ⟨rfl, .refl, .inl rfl⟩

theorem Follows.trans {next last : LandingJobRecord}
    (h : record.Follows next) (h' : next.Follows last) :
    record.Follows last := by
  refine ⟨h'.source.trans h.source, h.later.trans h'.later, ?_⟩
  rcases h.newer with rfl | hnewer
  · exact h'.newer
  · rcases h'.newer with rfl | hnewer'
    · exact .inr hnewer
    · exact .inr (hnewer.trans hnewer')

/-- A record of the same revision is the record. -/
theorem Follows.eq_of_revision {next : LandingJobRecord}
    (h : record.Follows next) (hrevision : next.revision ≤ record.revision) :
    next = record := by
  rcases h.newer with hsame | hnewer
  · exact hsame
  · omega

theorem follows_demoted (hready : record.state = .artifactReady) :
    record.Follows (demoted record) := by
  refine ⟨rfl, ?_, .inr (Nat.lt_succ_self _)⟩
  exact .single (.inr ⟨hready, rfl⟩)

theorem follows_interrupted (hunder : record.state.isUnderWay = true) :
    record.Follows record.interrupted := by
  refine ⟨rfl, .single (.inl ?_), .inr (Nat.lt_succ_self _)⟩
  show JobState.needsHuman ∈ record.state.transitions
  cases hstate : record.state with
  | accepted | normalizing | generating | evaluating => decide
  | artifactReady | providerUnavailable | rejected | cancelled
  | needsHuman =>
      rw [hstate] at hunder
      cases hunder

end LandingJobRecord

open LandingJobRecord (Follows)

namespace Tables

theorem Grows.refl (t : Tables) : t.Grows t :=
  ⟨fun h => ⟨_, h, .refl _⟩, fun h => h⟩

theorem Grows.trans {t'' : Tables} (h : t.Grows t') (h' : t'.Grows t'') :
    t.Grows t'' := by
  constructor
  · intro id record hrecord
    obtain ⟨next, hnext, hfollows⟩ := h.records hrecord
    obtain ⟨last, hlast, hfollows'⟩ := h'.records hnext
    exact ⟨last, hlast, hfollows.trans hfollows'⟩
  · intro key command hcommand
    exact h'.commands (h.commands hcommand)

theorem setRecord_of_ne (t : Tables) (hne : id ≠ record.identity) :
    (t.setRecord record).records id = t.records id :=
  Function.update_of_ne hne ..

theorem grows_setRecord (hfollows : ∀ current,
    t.records record.identity = some current → current.Follows record) :
    t.Grows (t.setRecord record) := by
  refine ⟨?_, fun h => h⟩
  intro id old hold
  by_cases hid : id = record.identity
  · rw [hid] at hold ⊢
    exact ⟨record, setRecord_records t record rfl, hfollows old hold⟩
  · exact ⟨old, (setRecord_of_ne t hid).trans hold, .refl old⟩

theorem Keyed.setRecord (hkeyed : t.Keyed) (record : LandingJobRecord) :
    (t.setRecord record).Keyed := by
  intro id found hfound
  by_cases hid : id = record.identity
  · rw [hid, setRecord_records t record rfl] at hfound
    rw [hid, ← Option.some.inj hfound]
  · rw [setRecord_of_ne t hid] at hfound
    exact hkeyed id found hfound

theorem grows_setCommand {action : Action} {key : PyStr}
    {command : Text × Text} (hnone : t.commands (id, action, key) = none) :
    t.Grows (t.setCommand id action key command) := by
  refine ⟨fun h => ⟨_, h, .refl _⟩, ?_⟩
  intro other prior hprior
  have hne : other ≠ (id, action, key) := by
    intro heq
    rw [heq, hnone] at hprior
    cases hprior
  exact (Function.update_of_ne hne ..).trans hprior

end Tables

open Tables (Grows Keyed grows_setRecord grows_setCommand)

-- ============================================================ one call

/-- What reading a record leaves. -/
structure Reads (t : Tables) (id : Identity)
    (found : Option LandingJobRecord) (t' : Tables) : Prop where
  keyed : t'.Keyed
  grows : t.Grows t'
  there : t'.records id = found
  commands : t'.commands = t.commands
  still : ∀ other, t.records other = none → t'.records other = none

/-- What a call leaves that answers with a record. -/
structure Answers (t : Tables) (record : LandingJobRecord) (t' : Tables) :
    Prop where
  keyed : t'.Keyed
  grows : t.Grows t'
  there : t'.records record.identity = some record
  still : ∀ other, other ≠ record.identity → t.records other = none →
    t'.records other = none

theorem selectRecord_ok {found : Option LandingJobRecord}
    (hkeyed : t.Keyed)
    (hok : selectRecord files id t = .ok (found, t')) :
    Reads t id found t' := by
  unfold selectRecord at hok
  split at hok
  next hnone =>
    cases hok
    exact ⟨hkeyed, .refl t, hnone, rfl, fun _ h => h⟩
  next record hrecord =>
    split at hok
    next =>
      cases hok
      exact ⟨hkeyed, .refl t, hrecord, rfl, fun _ h => h⟩
    next e _ =>
      by_cases hraise : e ≠ .service "artifact_integrity" 500
          ∨ record.state ≠ .artifactReady
      · rw [if_pos hraise] at hok
        cases hok
      · rw [if_neg hraise] at hok
        cases hok
        rw [not_or, not_not, not_not] at hraise
        have hid : (demoted record).identity = id := hkeyed id record hrecord
        refine ⟨hkeyed.setRecord _, grows_setRecord ?_,
          Tables.setRecord_records t _ hid, rfl, ?_⟩
        · intro current hcurrent
          rw [hid, hrecord] at hcurrent
          cases hcurrent
          exact LandingJobRecord.follows_demoted hraise.2
        · intro other hother
          rw [Tables.setRecord_of_ne t ?_]
          · exact hother
          · intro heq
            rw [heq, hid, hrecord] at hother
            cases hother

/-- A record that is read is an answer. -/
theorem Reads.answers (h : Reads t id (some record) t') :
    Answers t record t' := by
  have hid : record.identity = id := h.keyed id record h.there
  refine ⟨h.keyed, h.grows, ?_, fun other _ => h.still other⟩
  rw [hid]
  exact h.there

/-- A record that is written over one that was read. -/
theorem Reads.setRecord (h : Reads t id (some current) t')
    (hfollows : current.Follows record) :
    Answers t record (t'.setRecord record) := by
  have hid : record.identity = id := by
    rw [← h.keyed id current h.there]
    exact congrArg identityOf hfollows.source
  refine ⟨h.keyed.setRecord record, h.grows.trans (grows_setRecord ?_),
    Tables.setRecord_records t' record rfl, ?_⟩
  · intro other hother
    rw [hid, h.there] at hother
    cases hother
    exact hfollows
  · intro other hne hother
    rw [Tables.setRecord_of_ne t' hne]
    exact h.still other hother

/-- A command that is written beside an answer. -/
theorem Answers.setCommand (h : Answers t record t') {action : Action}
    {key : PyStr} {command : Text × Text}
    (hnone : t'.commands (id, action, key) = none) :
    Answers t record (t'.setCommand id action key command) :=
  ⟨h.keyed, h.grows.trans (grows_setCommand hnone), h.there, h.still⟩

theorem validateTransition_later {state next : JobState} {u : Unit}
    (hok : validateTransition state next = .ok u) : state.Later next := by
  have hallowed := failIf_ok.mp hok
  rw [Bool.and_eq_false_iff, decide_eq_false_iff_not, not_not,
    decide_eq_false_iff_not, not_not] at hallowed
  rcases hallowed with rfl | hallowed
  · exact .refl
  · exact .single (.inl hallowed)

/-- What a put asks of the record that is there. -/
theorem succeed_ok {stored : LandingJobRecord}
    (hok : succeed current record = .ok stored) :
    current.revision = record.revision ∧ current.Follows stored
      ∧ stored = { record with revision := record.revision + 1 } := by
  unfold succeed at hok
  obtain ⟨_, hstale, hok⟩ := bind_ok.mp hok
  obtain ⟨_, htransition, hok⟩ := bind_ok.mp hok
  cases hok
  have hsame := failIf_ok.mp hstale
  rw [Bool.or_eq_false_iff, decide_eq_false_iff_not, not_not,
    decide_eq_false_iff_not, not_not] at hsame
  refine ⟨hsame.2, ⟨hsame.1.symm, validateTransition_later htransition,
    .inr ?_⟩, rfl⟩
  rw [hsame.2]
  exact Nat.lt_succ_self _

/-- A put that succeeds: nothing newer was there. -/
theorem put_ok {stored : LandingJobRecord} (hkeyed : t.Keyed)
    (hok : SQLiteLandingJobStore.put files record t = .ok (stored, t')) :
    Answers t stored t'
      ∧ stored = { record with revision := record.revision + 1 }
      ∧ ∃ current, t.records record.identity = some current
        ∧ current.revision ≤ record.revision := by
  unfold SQLiteLandingJobStore.put at hok
  obtain ⟨_, _, hok⟩ := bind_ok.mp hok
  obtain ⟨⟨found, t₁⟩, hselect, hok⟩ := bind_ok.mp hok
  have hreads := selectRecord_ok hkeyed hselect
  cases found with
  | none => cases hok
  | some next =>
      obtain ⟨_, hsucceed, hok⟩ := bind_ok.mp hok
      cases hok
      obtain ⟨hrevision, hfollows, hstored⟩ := succeed_ok hsucceed
      refine ⟨hreads.setRecord hfollows, hstored, ?_⟩
      cases hcurrent : t.records record.identity with
      | none =>
          have hnone := hreads.still _ hcurrent
          rw [hreads.there] at hnone
          cases hnone
      | some current =>
          -- the record may have been demoted as it was read
          obtain ⟨next', hnext, hlater⟩ := hreads.grows.records hcurrent
          rw [hreads.there] at hnext
          cases hnext
          refine ⟨current, rfl, ?_⟩
          rcases hlater.newer with rfl | hnewer
          · exact hrevision.le
          · omega

/-- A submission that is answered: with the job of its input, under a command
that is its own; it is new only where there was none. -/
theorem createOrReplay_ok {key : PyStr} {digest : Text} {created : Bool}
    (hkeyed : t.Keyed)
    (hok : createOrReplay files record key digest t
      = .ok ((answer, created), t')) :
    Answers t answer t' ∧ answer.source = record.source
      ∧ t'.commands (record.identity, .submit, key)
        = some (digest, record.source.inputDigest)
      ∧ (created = true → t.records record.identity = none) := by
  unfold createOrReplay at hok
  obtain ⟨_, _, hok⟩ := bind_ok.mp hok
  obtain ⟨_, _, hok⟩ := bind_ok.mp hok
  obtain ⟨⟨found, t₁⟩, hselect, hok⟩ := bind_ok.mp hok
  have hreads := selectRecord_ok hkeyed hselect
  dsimp only at hok
  split at hok
  next => cases hok
  next command current hcommand =>
    split at hok
    next => cases hok
    next hsame =>
      cases hok
      rw [not_or, not_not, not_not] at hsame
      refine ⟨hreads.answers, hsame.1, ?_, nofun⟩
      rw [hreads.commands, hcommand, hsame.2, hsame.1]
  next current hnone =>
    split at hok
    next => cases hok
    next hsame =>
      cases hok
      rw [not_not] at hsame
      refine ⟨hreads.answers.setCommand ?_, hsame,
        Function.update_self .., nofun⟩
      rw [hreads.commands, hnone]
  next hnone =>
    cases hok
    refine ⟨?_, rfl, Function.update_self .., ?_⟩
    · refine Answers.setCommand ⟨hreads.keyed.setRecord _, hreads.grows.trans
        (grows_setRecord ?_), Tables.setRecord_records _ _ rfl, ?_⟩ ?_
      · intro other hother
        rw [hreads.there] at hother
        cases hother
      · intro other hne hother
        rw [Tables.setRecord_of_ne _ hne]
        exact hreads.still other hother
      · show t₁.commands _ = none
        rw [hreads.commands, hnone]
    · intro _
      cases hbefore : t.records record.identity with
      | none => rfl
      | some current =>
          obtain ⟨next, hnext, _⟩ := hreads.grows.records hbefore
          rw [hreads.there] at hnext
          cases hnext

theorem cancelOrReplay_ok {key : PyStr} {digest : Text} (hkeyed : t.Keyed)
    (hok : cancelOrReplay files record key digest t = .ok (answer, t')) :
    Answers t answer t' := by
  unfold cancelOrReplay at hok
  obtain ⟨_, _, hok⟩ := bind_ok.mp hok
  obtain ⟨_, _, hok⟩ := bind_ok.mp hok
  obtain ⟨⟨found, t₁⟩, hselect, hok⟩ := bind_ok.mp hok
  have hreads := selectRecord_ok hkeyed hselect
  cases found with
  | none => cases hok
  | some current =>
      dsimp only at hok
      split at hok
      next => cases hok
      next =>
        split at hok
        next =>
          split at hok
          next => cases hok
          next =>
            cases hok
            exact hreads.answers
        next hnone =>
          obtain ⟨_, htransition, hok⟩ := bind_ok.mp hok
          cases hok
          have hfollows : current.Follows (cancelledRecord current) :=
            ⟨rfl, validateTransition_later htransition,
              .inr (Nat.lt_succ_self _)⟩
          exact (hreads.setRecord hfollows).setCommand hnone

-- ============================================================ the calls

/-- What a call leaves, whatever it answers. -/
structure Issued (t : Tables) (call : StoreCall) (files : Files) : Prop where
  keyed : (call.issue (sqlite files) t).2.Keyed
  grows : t.Grows (call.issue (sqlite files) t).2
  answered : ∀ {answer created},
    (call.issue (sqlite files) t).1 = .ok (some answer, created) →
    (call.issue (sqlite files) t).2.records answer.identity = some answer
  few : ∃ id, ∀ other, other ≠ id → t.records other = none →
    (call.issue (sqlite files) t).2.records other = none

/-- A call that raises leaves everything as it was. -/
theorem Issued.of_settle {α : Type} {call : StoreCall}
    {reply : α → Option LandingJobRecord × Option Bool}
    {answer : Except JobError (α × Tables)}
    (hissue : call.issue (sqlite files) t
      = StoreCall.settle reply t answer) (hkeyed : t.Keyed)
    (hok : ∀ a t', answer = .ok (a, t') → t'.Keyed ∧ t.Grows t'
      ∧ (∀ record created, reply a = (some record, created) →
        t'.records record.identity = some record)
      ∧ ∃ id, ∀ other, other ≠ id → t.records other = none →
        t'.records other = none) : Issued t call files := by
  cases answer with
  | error e =>
      have hsame : call.issue (sqlite files) t = (.error e, t) := hissue
      constructor
      · rw [hsame]
        exact hkeyed
      · rw [hsame]
        exact .refl t
      · intro _ _ hanswer
        rw [hsame] at hanswer
        cases hanswer
      · rw [hsame]
        exact ⟨default, fun _ _ h => h⟩
  | ok answer =>
      obtain ⟨a, t'⟩ := answer
      have hnew : call.issue (sqlite files) t = (.ok (reply a), t') := hissue
      obtain ⟨hkeyed', hgrows, hanswered, hfew⟩ := hok a t' rfl
      constructor
      · rw [hnew]
        exact hkeyed'
      · rw [hnew]
        exact hgrows
      · intro _ _ hanswer
        rw [hnew] at hanswer ⊢
        exact hanswered _ _ (Except.ok.inj hanswer)
      · rw [hnew]
        exact hfew

theorem Answers.left (h : Answers t record t') :
    t'.Keyed ∧ t.Grows t'
      ∧ ∃ id, ∀ other, other ≠ id → t.records other = none →
        t'.records other = none :=
  ⟨h.keyed, h.grows, _, h.still⟩

theorem issued (hkeyed : t.Keyed) (call : StoreCall) (files : Files) :
    Issued t call files := by
  cases call with
  | get id =>
      refine .of_settle rfl hkeyed fun record t' hok => ?_
      change SQLiteLandingJobStore.get files id t = _ at hok
      unfold SQLiteLandingJobStore.get SQLiteLandingJobStore.find at hok
      obtain ⟨⟨found, t₁⟩, hselect, hok⟩ := bind_ok.mp hok
      have hreads := selectRecord_ok hkeyed hselect
      cases found with
      | none => cases hok
      | some record =>
          cases hok
          refine ⟨hreads.keyed, hreads.grows, ?_, _,
            hreads.answers.still⟩
          intro _ _ hreply
          cases hreply
          exact hreads.answers.there
  | find id =>
      refine .of_settle rfl hkeyed fun found t' hok => ?_
      change selectRecord files id t = _ at hok
      have hreads := selectRecord_ok hkeyed hok
      refine ⟨hreads.keyed, hreads.grows, ?_, id,
        fun other _ => hreads.still other⟩
      intro record _ hreply
      cases hreply
      exact hreads.answers.there
  | createOrReplay record key digest =>
      refine .of_settle rfl hkeyed fun answer t' hok => ?_
      obtain ⟨hanswers, _⟩ := createOrReplay_ok hkeyed hok
      refine ⟨hanswers.keyed, hanswers.grows, ?_, _, hanswers.still⟩
      intro _ _ hreply
      cases hreply
      exact hanswers.there
  | put record =>
      refine .of_settle rfl hkeyed fun stored t' hok => ?_
      obtain ⟨hanswers, _⟩ := put_ok hkeyed hok
      refine ⟨hanswers.keyed, hanswers.grows, ?_, _, hanswers.still⟩
      intro _ _ hreply
      cases hreply
      exact hanswers.there
  | cancelOrReplay record key digest =>
      refine .of_settle rfl hkeyed fun cancelled t' hok => ?_
      have hanswers := cancelOrReplay_ok hkeyed hok
      refine ⟨hanswers.keyed, hanswers.grows, ?_, _, hanswers.still⟩
      intro _ _ hreply
      cases hreply
      exact hanswers.there

-- ========================================================= one restart

theorem identityBefore_irrefl (id : Identity) : ¬ identityBefore id id := by
  intro h
  rcases h with h | ⟨_, h | ⟨_, h⟩⟩
  · exact lt_irrefl _ h
  · exact lt_irrefl _ h
  · exact lt_irrefl _ h

/-- The loop over rows of different jobs, each as it was selected. -/
theorem foldl_recoverRow (hfound : ∀ row ∈ rows,
    t.records row.identity = some row)
    (hdistinct : (rows.map LandingJobRecord.identity).Nodup) :
    (∀ row ∈ rows, (rows.foldl recoverRow t).records row.identity
        = some row.interrupted)
      ∧ (∀ id, id ∉ rows.map LandingJobRecord.identity →
        (rows.foldl recoverRow t).records id = t.records id)
      ∧ (rows.foldl recoverRow t).commands = t.commands := by
  induction rows generalizing t with
  | nil =>
      refine ⟨?_, fun _ _ => rfl, rfl⟩
      intro row hrow
      cases hrow
  | cons row rows ih =>
      rw [List.map_cons, List.nodup_cons] at hdistinct
      rw [List.forall_mem_cons] at hfound
      have hturn : recoverRow t row = t.setRecord row.interrupted := by
        unfold recoverRow
        rw [hfound.1]
        exact if_neg (not_not_intro rfl)
      have hid : row.interrupted.identity = row.identity := rfl
      obtain ⟨hrows, hothers, hcommands⟩ := ih (t := recoverRow t row) (by
        intro other hother
        have hne : other.identity ≠ row.interrupted.identity := by
          intro heq
          apply hdistinct.1
          rw [← hid, ← heq]
          exact List.mem_map_of_mem hother
        rw [hturn, Tables.setRecord_of_ne t hne]
        exact hfound.2 other hother) hdistinct.2
      rw [List.foldl_cons]
      refine ⟨?_, ?_, ?_⟩
      · rw [List.forall_mem_cons]
        refine ⟨?_, hrows⟩
        rw [hothers _ hdistinct.1, hturn]
        exact Tables.setRecord_records t _ hid
      · intro id hother
        rw [List.map_cons, List.mem_cons, not_or] at hother
        rw [hothers id hother.2, hturn]
        exact Tables.setRecord_of_ne t hother.1
      · rw [hcommands, hturn]
        rfl

theorem Selects.distinct (h : Selects limit t rows) :
    (rows.map LandingJobRecord.identity).Nodup := by
  rw [List.nodup_iff_pairwise_ne, List.pairwise_map]
  refine h.ordered.imp ?_
  intro row other hbefore heq
  rw [heq] at hbefore
  exact identityBefore_irrefl _ hbefore

/-- What a restart leaves: the rows it selected are handed over, and nothing
else is changed. -/
theorem Selects.recovered (h : Selects limit t rows) :
    (∀ row ∈ rows, (recoverInterrupted limit rows t).records row.identity
        = some row.interrupted)
      ∧ (∀ id, id ∉ rows.map LandingJobRecord.identity →
        (recoverInterrupted limit rows t).records id = t.records id)
      ∧ (recoverInterrupted limit rows t).commands = t.commands := by
  unfold recoverInterrupted
  split
  next hzero =>
    have hnone : rows = [] := by
      rw [← List.length_eq_zero_iff]
      have := h.limited
      omega
    rw [hnone]
    refine ⟨?_, fun _ _ => rfl, rfl⟩
    intro row hrow
    cases hrow
  next =>
    exact foldl_recoverRow (fun row hrow => (h.found row hrow).1) h.distinct

/-- What a sequence of restarts makes of a record. -/
def LandingJobRecord.Handed (record next : LandingJobRecord) : Prop :=
  next = record ∨ record.state.isUnderWay = true ∧ next = record.interrupted

theorem LandingJobRecord.Handed.trans {next last : LandingJobRecord}
    (h : record.Handed next) (h' : next.Handed last) :
    record.Handed last := by
  rcases h with rfl | ⟨hunder, rfl⟩
  · exact h'
  · rcases h' with rfl | ⟨hagain, _⟩
    · exact .inr ⟨hunder, rfl⟩
    · cases hagain

theorem LandingJobRecord.Handed.follows {next : LandingJobRecord}
    (h : record.Handed next) : record.Follows next := by
  rcases h with rfl | ⟨hunder, rfl⟩
  · exact .refl _
  · exact LandingJobRecord.follows_interrupted hunder

theorem Selects.handed (h : Selects limit t rows) (id : Identity) :
    Option.Rel LandingJobRecord.Handed (t.records id)
      ((recoverInterrupted limit rows t).records id) := by
  obtain ⟨hrows, hothers, _⟩ := h.recovered
  by_cases hin : id ∈ rows.map LandingJobRecord.identity
  · obtain ⟨row, hrow, rfl⟩ := List.mem_map.mp hin
    obtain ⟨hfound, hunder⟩ := h.found row hrow
    rw [hrows row hrow, hfound]
    exact .some (.inr ⟨hunder, rfl⟩)
  · rw [hothers id hin]
    cases t.records id with
    | none => exact .none
    | some record => exact .some (.inl rfl)

theorem Selects.keyed (h : Selects limit t rows) (hkeyed : t.Keyed) :
    (recoverInterrupted limit rows t).Keyed := by
  intro id record hrecord
  have hhanded := h.handed id
  rw [hrecord] at hhanded
  cases hbefore : t.records id with
  | none =>
      rw [hbefore] at hhanded
      cases hhanded
  | some before =>
      rw [hbefore] at hhanded
      obtain hhanded | _ := hhanded
      rw [← hkeyed id before hbefore]
      exact congrArg identityOf hhanded.follows.source

theorem Selects.grows (h : Selects limit t rows) :
    t.Grows (recoverInterrupted limit rows t) := by
  constructor
  · intro id record hrecord
    have hhanded := h.handed id
    rw [hrecord] at hhanded
    cases hnext : (recoverInterrupted limit rows t).records id with
    | none =>
        rw [hnext] at hhanded
        cases hhanded
    | some next =>
        rw [hnext] at hhanded
        obtain hhanded | _ := hhanded
        exact ⟨next, rfl, hhanded.follows⟩
  · intro key command hcommand
    rw [h.recovered.2.2]
    exact hcommand

-- ============================================================== any run

theorem Happens.keyed (h : Happens t t') (hkeyed : t.Keyed) : t'.Keyed := by
  cases h with
  | called files call => exact (issued hkeyed call files).keyed
  | restarted selects => exact selects.keyed hkeyed

theorem Happens.grows (h : Happens t t') (hkeyed : t.Keyed) :
    t.Grows t' := by
  cases h with
  | called files call => exact (issued hkeyed call files).grows
  | restarted selects => exact selects.grows

theorem run_grows (hrun : ReflTransGen Happens t t') (hkeyed : t.Keyed) :
    t'.Keyed ∧ t.Grows t' := by
  induction hrun with
  | refl => exact ⟨hkeyed, .refl t⟩
  | tail _ happens ih =>
      exact ⟨happens.keyed ih.1, ih.2.trans (happens.grows ih.1)⟩

/-- The tables that some run from the empty ones leaves. -/
def Tables.Reached (t : Tables) : Prop := ReflTransGen Happens {} t

theorem Tables.Reached.keyed (h : t.Reached) : t.Keyed := by
  refine (run_grows h ?_).1
  intro id record hrecord
  cases hrecord

/-- A put succeeds only over the record whose revision it has: whatever was
called since that record was answered, and however often the process ended,
the record is still what was answered. -/
theorem no_lost_update {call : StoreCall} {files' : Files}
    {created : Option Bool} {stored : LandingJobRecord}
    (hreach : t₀.Reached)
    (hanswer : call.issue (sqlite files) t₀
      = (.ok (some answer, created), t₁))
    (hrun : ReflTransGen Happens t₁ t)
    (hid : record.identity = answer.identity)
    (hrevision : record.revision = answer.revision)
    (hput : (sqlite files').put record t = .ok (stored, t')) :
    t.records answer.identity = some answer
      ∧ t'.records answer.identity = some stored
      ∧ stored = { record with revision := answer.revision + 1 } := by
  have hissued := issued hreach.keyed call files
  have hkeyed := hissued.keyed
  have hthere := hissued.answered (congrArg Prod.fst hanswer)
  rw [hanswer] at hkeyed hthere
  obtain ⟨hkeyed', hgrows⟩ := run_grows hrun hkeyed
  obtain ⟨hanswers, hstored, current, hcurrent, hold⟩ := put_ok hkeyed' hput
  rw [hid] at hcurrent
  obtain ⟨next, hnext, hfollows⟩ := hgrows.records hthere
  rw [hcurrent] at hnext
  cases hnext
  have hsame : current = answer :=
    hfollows.eq_of_revision (by omega)
  refine ⟨hcurrent.trans (congrArg some hsame), ?_, ?_⟩
  · rw [← hid]
    have hstoredId : stored.identity = record.identity := by
      rw [hstored]
      rfl
    rw [← hstoredId]
    exact hanswers.there
  · rw [hstored, hrevision]

-- ======================================================== what is over

theorem JobState.Later.over {state next : JobState} (h : state.Later next)
    (hover : state = .needsHuman ∨ state = .cancelled) :
    next = .needsHuman ∨ next = .cancelled := by
  induction h with
  | refl => exact hover
  | tail _ hnext ih =>
      rcases hnext with hnext | ⟨hready, _⟩
      · rcases ih with rfl | rfl
        · rw [List.mem_singleton.mp hnext]
          exact .inr rfl
        · cases hnext
      · rcases ih with rfl | rfl
        · cases hready
        · cases hready

/-- A job that a restart has handed over is not taken up again: it stays with
a person or is cancelled, and a worker that had read it before is refused. -/
theorem handed_over {row : LandingJobRecord} (hreach : t.Reached)
    (hselects : Selects limit t rows) (hrow : row ∈ rows)
    (hrun : ReflTransGen Happens (recoverInterrupted limit rows t) t') :
    (∃ record, t'.records row.identity = some record
        ∧ record.source = row.source
        ∧ (record.state = .needsHuman ∨ record.state = .cancelled))
      ∧ ∀ (files : Files) (record : LandingJobRecord),
        record.identity = row.identity → record.revision ≤ row.revision →
        ∃ e, (sqlite files).put record t' = .error e := by
  have hkeyed := hselects.keyed hreach.keyed
  have hover := hselects.recovered.1 row hrow
  obtain ⟨hkeyed', hgrows⟩ := run_grows hrun hkeyed
  obtain ⟨next, hnext, hfollows⟩ := hgrows.records hover
  refine ⟨⟨next, hnext, hfollows.source,
    JobState.Later.over hfollows.later (.inl rfl)⟩, ?_⟩
  intro files record hid hold
  cases hput : (sqlite files).put record t' with
  | error e => exact ⟨e, rfl⟩
  | ok answer =>
      obtain ⟨stored, t''⟩ := answer
      obtain ⟨_, _, current, hcurrent, hnew⟩ := put_ok hkeyed' hput
      rw [hid, hnext] at hcurrent
      cases hcurrent
      have hlarger : row.revision < next.revision := by
        rcases hfollows.newer with rfl | hnewer
        · exact Nat.lt_succ_self _
        · exact (Nat.lt_succ_self _).trans hnewer
      omega

-- ====================================================== nothing under way

/-- The jobs that are under way. -/
def Tables.underWay (t : Tables) : Set Identity :=
  {id | ∃ record, t.records id = some record
    ∧ record.state.isUnderWay = true}

theorem Selects.underWay (h : Selects limit t rows) :
    (recoverInterrupted limit rows t).underWay
      = t.underWay \ {id | id ∈ rows.map LandingJobRecord.identity} := by
  obtain ⟨hrows, hothers, _⟩ := h.recovered
  ext id
  by_cases hin : id ∈ rows.map LandingJobRecord.identity
  · refine iff_of_false ?_ fun hleft => hleft.2 hin
    intro hunder
    obtain ⟨record, hrecord, hstate⟩ := hunder
    obtain ⟨row, hrow, rfl⟩ := List.mem_map.mp hin
    rw [hrows row hrow] at hrecord
    cases hrecord
    cases hstate
  · show (∃ record, _ ∧ _) ↔ (∃ record, _ ∧ _) ∧ _
    rw [hothers id hin]
    exact (and_iff_left hin).symm

theorem Selects.subset (h : Selects limit t rows) :
    {id | id ∈ rows.map LandingJobRecord.identity} ⊆ t.underWay := by
  intro id hin
  obtain ⟨row, hrow, rfl⟩ := List.mem_map.mp hin
  exact ⟨row, h.found row hrow⟩

theorem Selects.ncard_rows (h : Selects limit t rows) :
    {id | id ∈ rows.map LandingJobRecord.identity}.ncard = rows.length := by
  have hset : {id | id ∈ rows.map LandingJobRecord.identity}
      = ((rows.map LandingJobRecord.identity).toFinset : Set Identity) := by
    ext id
    exact List.mem_toFinset.symm
  rw [hset, Set.ncard_coe_finset, List.toFinset_card_of_nodup h.distinct,
    List.length_map]

/-- A restart takes as many jobs off the way as its limit allows. -/
theorem Selects.ncard (h : Selects limit t rows) (hkeyed : t.Keyed)
    (hfinite : t.underWay.Finite) :
    (recoverInterrupted limit rows t).underWay.ncard
      = t.underWay.ncard - limit := by
  rw [h.underWay, Set.ncard_sdiff h.subset (hfinite.subset h.subset),
    h.ncard_rows]
  by_cases hfull : rows.length = limit
  · rw [hfull]
  · -- it selected all of them
    have hall : t.underWay = {id | id ∈ rows.map
        LandingJobRecord.identity} := by
      refine Set.Subset.antisymm ?_ h.subset
      intro id hunder
      obtain ⟨record, hrecord, hstate⟩ := hunder
      by_contra hout
      have hmem : record ∉ rows := by
        intro hmem
        apply hout
        rw [← hkeyed id record hrecord]
        exact List.mem_map_of_mem hmem
      exact hfull (h.first id record hrecord hstate hmem).1
    have hcard := h.ncard_rows
    rw [← hall] at hcard
    have hlimited := h.limited
    omega

/-- The database opened so often again, with one limit. -/
inductive Restarts (limit : Nat) : Nat → Tables → Tables → Prop
  | none {t : Tables} : Restarts limit 0 t t
  | more {n : Nat} {rows : List LandingJobRecord} {t t' : Tables}
      (selects : Selects limit t rows)
      (rest : Restarts limit n (recoverInterrupted limit rows t) t') :
      Restarts limit (n + 1) t t'

/-- Any run leaves finitely many jobs. -/
theorem Tables.Reached.finite (h : t.Reached) :
    {id | t.records id ≠ none}.Finite := by
  induction h with
  | refl => exact Set.finite_empty.subset fun id hid => hid rfl
  | @tail t t' hreach happens ih =>
      have hkeyed := Tables.Reached.keyed hreach
      cases happens with
      | called files call =>
          obtain ⟨id, hfew⟩ := (issued hkeyed call files).few
          refine (ih.insert id).subset ?_
          intro other hother
          by_cases heq : other = id
          · exact .inl heq
          · exact .inr fun hnone => hother (hfew other heq hnone)
      | @restarted limit rows _ selects =>
          refine ih.subset ?_
          intro id hid hnone
          apply hid
          rw [selects.recovered.2.1 id, hnone]
          intro hin
          obtain ⟨row, hrow, rfl⟩ := List.mem_map.mp hin
          rw [(selects.found row hrow).1] at hnone
          cases hnone

theorem Tables.underWay_finite (h : t.Reached) : t.underWay.Finite := by
  refine h.finite.subset ?_
  intro id hunder hnone
  obtain ⟨record, hrecord, _⟩ := hunder
  rw [hrecord] at hnone
  cases hnone

theorem handed_trans {a b c : Option LandingJobRecord}
    (h : Option.Rel LandingJobRecord.Handed a b)
    (h' : Option.Rel LandingJobRecord.Handed b c) :
    Option.Rel LandingJobRecord.Handed a c := by
  cases h with
  | none => exact h'
  | some hhanded =>
      cases h' with
      | some hnext => exact .some (hhanded.trans hnext)

theorem Restarts.handed {n : Nat} (h : Restarts limit n t t')
    (id : Identity) :
    Option.Rel LandingJobRecord.Handed (t.records id) (t'.records id) := by
  induction h with
  | @none t =>
      cases t.records id with
      | none => exact .none
      | some record => exact .some (.inl rfl)
  | more selects _ ih => exact handed_trans (selects.handed id) ih

theorem Restarts.ncard {n : Nat} (h : Restarts limit n t t')
    (hkeyed : t.Keyed) (hfinite : t.underWay.Finite) :
    t'.underWay.ncard = t.underWay.ncard - n * limit
      ∧ t'.underWay.Finite := by
  induction h with
  | none =>
      rw [Nat.zero_mul]
      exact ⟨rfl, hfinite⟩
  | @more n rows t t' selects _ ih =>
      have hfinite' : (recoverInterrupted limit rows t).underWay.Finite := by
        rw [selects.underWay]
        exact hfinite.sdiff
      obtain ⟨hcard, hleft⟩ := ih (selects.keyed hkeyed) hfinite'
      refine ⟨?_, hleft⟩
      rw [hcard, selects.ncard hkeyed hfinite, Nat.sub_sub, Nat.succ_mul,
        Nat.add_comm]

/-- So many restarts as the limit needs for the jobs under way leave none of
them: each is handed to a person with the reason of its state, and every
other job is as it was. -/
theorem restarts_clear {n : Nat} (hreach : t.Reached)
    (henough : t.underWay.ncard ≤ n * limit)
    (hrestarts : Restarts limit n t t') :
    t'.underWay = ∅ ∧ ∀ id, t'.records id = (t.records id).map fun record =>
      if record.state.isUnderWay then record.interrupted else record := by
  obtain ⟨hcard, hfinite⟩ :=
    hrestarts.ncard hreach.keyed (Tables.underWay_finite hreach)
  have hnone : t'.underWay = ∅ := by
    rw [← Set.ncard_eq_zero hfinite]
    omega
  refine ⟨hnone, fun id => ?_⟩
  have hhanded := hrestarts.handed id
  cases hnext : t'.records id with
  | none =>
      rw [hnext] at hhanded
      generalize t.records id = before at hhanded ⊢
      cases hhanded
      rfl
  | some next =>
      rw [hnext] at hhanded
      generalize t.records id = before at hhanded ⊢
      obtain hhanded | _ := hhanded
      show some next = some (if _ then _ else _)
      rcases hhanded with rfl | ⟨hunder, rfl⟩
      · rw [if_neg]
        intro hunder
        have hleft : id ∈ t'.underWay := ⟨_, hnext, hunder⟩
        rw [hnone] at hleft
        exact hleft
      · rw [if_pos hunder]

-- ============================================================ commands

/-- A job is created once. Each later submission for it is of the same input
and is answered with the job as it is then, and one under the same key is of
the same request; or else it is refused. -/
theorem submitted_once {again answer' : LandingJobRecord} {files' : Files}
    {key key' : PyStr} {digest digest' : Text} {created created' : Bool}
    (hreach : t₀.Reached)
    (hfirst : (sqlite files).createOrReplay record key digest t₀
      = .ok ((answer, created), t₁))
    (hrun : ReflTransGen Happens t₁ t)
    (hagain : (sqlite files').createOrReplay again key' digest' t
      = .ok ((answer', created'), t'))
    (hid : again.identity = record.identity) :
    created' = false ∧ again.source = record.source
      ∧ answer.Follows answer' ∧ (key' = key → digest' = digest) := by
  obtain ⟨hanswers, hsource, hcommand, _⟩ :=
    createOrReplay_ok hreach.keyed hfirst
  obtain ⟨hkeyed, hgrows⟩ := run_grows hrun hanswers.keyed
  obtain ⟨hanswers', hsource', hcommand', hnew⟩ :=
    createOrReplay_ok hkeyed hagain
  obtain ⟨next, hnext, hfollows⟩ := hgrows.records hanswers.there
  obtain ⟨last, hlast, hfollows'⟩ := hanswers'.grows.records hnext
  have hidentity : answer'.identity = answer.identity := by
    show identityOf answer'.source = identityOf answer.source
    rw [hsource, hsource']
    exact hid
  have hlater : answer.Follows answer' := by
    rw [← hidentity, hanswers'.there] at hlast
    rw [Option.some.inj hlast]
    exact hfollows.trans hfollows'
  refine ⟨?_, ?_, hlater, ?_⟩
  · rw [Bool.eq_false_iff]
    intro hcreated
    have hnone := hnew hcreated
    have hsame : again.identity = answer.identity := by
      rw [← hidentity]
      show identityOf again.source = identityOf answer'.source
      rw [hsource']
    rw [hsame, hnext] at hnone
    cases hnone
  · rw [← hsource', hlater.source, hsource]
  · intro hkey
    have hkept := hanswers'.grows.commands (hgrows.commands hcommand)
    rw [← hid, ← hkey, hcommand'] at hkept
    exact (Prod.ext_iff.mp (Option.some.inj hkept)).1

-- ------------------------------------------------ one job, and a restart

def smallJob : LandingJobRecord :=
  acceptedRecord (smallInput smallSubmission 0 86400000000)

/-- Files that match whatever was sealed. -/
def anyFiles : Files := fun _ _ => true

def smallCreation : StoreCall :=
  .createOrReplay smallJob (py "k") smallDigest

/-- The tables after the job is created. -/
def smallTables : Tables :=
  (({} : Tables).setRecord smallJob).setCommand smallJob.identity .submit
    (py "k") (smallDigest, smallDigest)

theorem smallTables_reached : smallTables.Reached :=
  .single (.called anyFiles smallCreation)

theorem smallTables_records {id : Identity} {record : LandingJobRecord}
    (hrecord : smallTables.records id = some record) :
    record = smallJob ∧ id = smallJob.identity := by
  by_cases hid : id = smallJob.identity
  · rw [hid] at hrecord
    exact ⟨(Option.some.inj hrecord).symm, hid⟩
  · have hnone : smallTables.records id = none := Function.update_of_ne hid ..
    rw [hnone] at hrecord
    cases hrecord

theorem smallTables_selects : Selects 1 smallTables [smallJob] where
  found := by
    intro row hrow
    rw [List.mem_singleton.mp hrow]
    exact ⟨rfl, rfl⟩
  ordered := List.pairwise_singleton _ _
  limited := Nat.le_refl 1
  first := by
    intro id record hrecord _ hout
    rw [(smallTables_records hrecord).1] at hout
    exact absurd List.mem_cons_self hout

theorem smallCreation_answer : smallCreation.issue (sqlite anyFiles) {}
    = (.ok (some smallJob, some true), smallTables) := rfl

/-- What a worker puts that has read the job. -/
def startedJob : LandingJobRecord :=
  { smallJob with state := .normalizing }

theorem no_lost_update_sample :
    (∃ t', (sqlite anyFiles).put startedJob smallTables
        = .ok (normalizingRecord smallJob.source, t'))
      ∧ smallTables.records smallJob.identity = some smallJob := by
  have hput : (sqlite anyFiles).put startedJob smallTables
      = .ok (normalizingRecord smallJob.source,
        smallTables.setRecord (normalizingRecord smallJob.source)) := rfl
  have hid : startedJob.identity = smallJob.identity := rfl
  have hrevision : startedJob.revision = smallJob.revision := rfl
  exact ⟨⟨_, hput⟩, (no_lost_update .refl smallCreation_answer .refl hid
    hrevision hput).1⟩

theorem handed_over_sample : ∃ e, (sqlite anyFiles).put smallJob
    (recoverInterrupted 1 [smallJob] smallTables) = .error e :=
  (handed_over smallTables_reached smallTables_selects List.mem_cons_self
    .refl).2 anyFiles smallJob rfl (Nat.le_refl _)

theorem restarts_clear_sample :
    (recoverInterrupted 1 [smallJob] smallTables).underWay = ∅ := by
  have hone : smallTables.underWay.ncard ≤ 1 := by
    rw [← Set.ncard_singleton smallJob.identity]
    refine Set.ncard_le_ncard ?_ (Set.finite_singleton _)
    intro id hunder
    obtain ⟨record, hrecord, _⟩ := hunder
    exact (smallTables_records hrecord).2
  exact (restarts_clear smallTables_reached hone
    (.more smallTables_selects .none)).1

theorem submitted_once_sample : ∃ answer t',
    (sqlite anyFiles).createOrReplay smallJob (py "k") smallDigest smallTables
        = .ok ((answer, false), t')
      ∧ smallJob.Follows answer := by
  have hagain : (sqlite anyFiles).createOrReplay smallJob (py "k") smallDigest
      smallTables = .ok ((_, _), _) := rfl
  have hsame := submitted_once .refl (show (sqlite anyFiles).createOrReplay
    smallJob (py "k") smallDigest {} = .ok ((smallJob, true), smallTables)
    from rfl) .refl hagain rfl
  exact ⟨_, _, hagain, hsame.2.2.1⟩

end Exolon.Landing
