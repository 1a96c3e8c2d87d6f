/-
When a created job is finished.

`course` is what the provider and the builder do with a job, without a
store: which record `process` ends with. `Finishes` is the condition on it.
A last record that the store refuses, or that may not follow the state that
was stored before, is put outside of every handler: the job stays where it
was and its input stays in quarantine. `submit_settled_iff` says that
nothing else keeps a job from its end.
-/
import Exolon.Landing.Service
import Exolon.Factory.Protocol

namespace Exolon.Landing

open Failover (LandingInput Category)
open Factory (bind_ok)

-- ============================================================= the stores

/-- The stores there are. -/
inductive StoreKind where
  | memory
  | sqlite (files : Files)

namespace StoreKind

def store : StoreKind → LandingJobStore
  | .memory => inMemory
  | .sqlite files => Landing.sqlite files

/-- What a store asks of a record by itself. -/
def check : StoreKind → LandingJobRecord → Except JobError Unit
  | .memory => fun _ => .ok ()
  | .sqlite files => LandingJobRecord.validate (some files)

end StoreKind

theorem failIf_error {condition : Bool} {code : String} {status : Nat}
    {e : JobError} (h : failIf condition code status = .error e) :
    e = .service code status := by
  cases condition with
  | false => cases h
  | true =>
      cases h
      rfl

/-- A sequence of checks raises what one of them does. -/
theorem bind_error {α β : Type} {x : Except JobError α}
    {f : α → Except JobError β} {e : JobError}
    (h : (x >>= f) = .error e) :
    x = .error e ∨ ∃ a, x = .ok a ∧ f a = .error e := by
  cases x with
  | error e' =>
      cases h
      exact .inl rfl
  | ok a => exact .inr ⟨a, rfl, h⟩

/-- Every error of the check of a record is one of the service. -/
theorem LandingJobRecord.validate_error {files : Option Files}
    {record : LandingJobRecord} {e : JobError}
    (h : record.validate files = .error e) :
    ∃ code status, e = .service code status := by
  unfold validate at h
  rcases bind_error h with h | ⟨_, _, h⟩
  · exact ⟨_, _, failIf_error h⟩
  rcases bind_error h with h | ⟨_, _, h⟩
  · exact ⟨_, _, failIf_error h⟩
  rcases bind_error h with h | ⟨_, _, h⟩
  · exact ⟨_, _, failIf_error h⟩
  rcases bind_error h with h | ⟨_, _, h⟩
  · exact ⟨_, _, failIf_error h⟩
  split at h
  · cases h
  · unfold checkArtifact at h
    split at h
    · cases h
    · rcases bind_error h with h | ⟨_, _, h⟩
      · exact ⟨_, _, failIf_error h⟩
      rcases bind_error h with h | ⟨_, _, h⟩
      · exact ⟨_, _, failIf_error h⟩
      exact ⟨_, _, failIf_error h⟩

namespace StoreKind

variable (kind : StoreKind)

theorem check_error {record : LandingJobRecord} {e : JobError}
    (h : kind.check record = .error e) : e ≠ .interrupt := by
  cases kind with
  | memory => cases h
  | sqlite files =>
      obtain ⟨code, status, rfl⟩ := LandingJobRecord.validate_error h
      intro heq
      cases heq

theorem selectRecord_eq {files : Files} {t : Tables} {id : Identity}
    {current : LandingJobRecord} (hcurrent : t.records id = some current)
    (hchecked : current.validate (some files) = .ok ()) :
    SQLiteLandingJobStore.selectRecord files id t
      = .ok (some current, t) := by
  unfold SQLiteLandingJobStore.selectRecord
  rw [hcurrent]
  dsimp only
  rw [hchecked]

/-- A put over a record that reads well: the check, the revision and the
transition. -/
theorem put_eq {t : Tables} {record current : LandingJobRecord}
    (hcurrent : t.records record.identity = some current)
    (hchecked : kind.check current = .ok ()) :
    kind.store.put record t = (do
      kind.check record
      let stored ← succeed current record
      .ok (stored, t.setRecord stored)) := by
  cases kind with
  | memory =>
      show InMemoryLandingJobStore.put record t = _
      unfold InMemoryLandingJobStore.put
      rw [hcurrent]
      rfl
  | sqlite files =>
      show SQLiteLandingJobStore.put files record t = _
      unfold SQLiteLandingJobStore.put
      rw [selectRecord_eq hcurrent hchecked]
      rfl

theorem get_eq {t : Tables} {id : Identity} {current : LandingJobRecord}
    (hcurrent : t.records id = some current)
    (hchecked : kind.check current = .ok ()) :
    kind.store.get id t = .ok (current, t) := by
  cases kind with
  | memory =>
      show InMemoryLandingJobStore.get id t = _
      unfold InMemoryLandingJobStore.get
      rw [hcurrent]
  | sqlite files =>
      show SQLiteLandingJobStore.get files id t = _
      unfold SQLiteLandingJobStore.get SQLiteLandingJobStore.find
      rw [selectRecord_eq hcurrent hchecked]
      rfl

end StoreKind

@[simp] theorem Tables.setRecord_records (t : Tables)
    (record : LandingJobRecord) {id : Identity} (h : record.identity = id) :
    (t.setRecord record).records id = some record := by
  rw [← h]
  exact Function.update_self ..

@[simp] theorem Tables.setCommand_records (t : Tables) (id : Identity)
    (action : Action) (key : PyStr) (command : Text × Text) :
    (t.setCommand id action key command).records = t.records := rfl

/-- What is asked of a record without an artifact. -/
theorem LandingJobRecord.validate_plain {files : Option Files}
    {record : LandingJobRecord} (hartifact : record.artifact = none)
    (hsealed : record.sealedArtifact = none)
    (hstate : record.state ≠ .artifactReady) :
    record.validate files = .ok ()
      ↔ (∀ digest, record.providerEvidenceDigest = some digest →
          isHex64 digest = true)
        ∧ record.observationBound = true := by
  have hevidence : ((record.providerEvidenceDigest.map fun digest =>
      !isHex64 digest).getD false) = false
      ↔ ∀ digest, record.providerEvidenceDigest = some digest →
        isHex64 digest = true := by
    cases record.providerEvidenceDigest with
    | none => simp
    | some digest => simp
  have hlast : (if record.state = .needsHuman
        ∧ record.reasonCode = some "artifact_integrity".toList then .ok ()
      else record.checkArtifact files) = .ok () := by
    by_cases hdemoted : record.state = .needsHuman
        ∧ record.reasonCode = some "artifact_integrity".toList
    · exact if_pos hdemoted
    · rw [if_neg hdemoted]
      unfold checkArtifact
      rw [hartifact]
  unfold validate
  rw [hlast]
  constructor
  · intro h
    obtain ⟨_, hdigest, h⟩ := bind_ok.mp h
    obtain ⟨_, hbound, _⟩ := bind_ok.mp h
    exact ⟨hevidence.mp (failIf_ok.mp hdigest), by
      simpa using failIf_ok.mp hbound⟩
  · intro h
    refine bind_ok.mpr ⟨(), failIf_ok.mpr (hevidence.mpr h.1),
      bind_ok.mpr ⟨(), failIf_ok.mpr (by simpa using h.2),
      bind_ok.mpr ⟨(), failIf_ok.mpr (by simp [hstate]),
      bind_ok.mpr ⟨(), failIf_ok.mpr (by simp [hartifact, hsealed]),
        rfl⟩⟩⟩⟩

namespace StoreKind

/-- What a store asks of a record without an artifact only depends on its
evidence. -/
theorem check_congr (kind : StoreKind) {record other : LandingJobRecord}
    (hchecked : kind.check record = .ok ())
    (hartifact : record.artifact = none ∧ other.artifact = none)
    (hsealed : record.sealedArtifact = none ∧ other.sealedArtifact = none)
    (hstate : record.state ≠ .artifactReady
      ∧ other.state ≠ .artifactReady)
    (hsource : other.source = record.source)
    (hdigest : other.providerEvidenceDigest
      = record.providerEvidenceDigest)
    (hobservation : other.observation = record.observation) :
    kind.check other = .ok () := by
  cases kind with
  | memory => rfl
  | sqlite files =>
      obtain ⟨hhex, hbound⟩ := (LandingJobRecord.validate_plain
        hartifact.1 hsealed.1 hstate.1).mp hchecked
      refine (LandingJobRecord.validate_plain hartifact.2 hsealed.2
        hstate.2).mpr ⟨?_, ?_⟩
      · rw [hdigest]
        exact hhex
      · unfold LandingJobRecord.observationBound at hbound ⊢
        rw [hobservation, hsource, hdigest]
        exact hbound

/-- A record without evidence is accepted. -/
theorem check_bare (kind : StoreKind) {record : LandingJobRecord}
    (hartifact : record.artifact = none)
    (hsealed : record.sealedArtifact = none)
    (hstate : record.state ≠ .artifactReady)
    (hdigest : record.providerEvidenceDigest = none)
    (hobservation : record.observation = none) :
    kind.check record = .ok () := by
  cases kind with
  | memory => rfl
  | sqlite files =>
      refine (LandingJobRecord.validate_plain hartifact hsealed
        hstate).mpr ⟨?_, ?_⟩
      · intro digest h
        rw [hdigest] at h
        cases h
      · unfold LandingJobRecord.observationBound
        rw [hobservation]

end StoreKind

-- ============================================================== the course

/-- What the provider and the builder do with a job. -/
inductive Course where
  | interrupted
  | failed
  | providerFailed
  | closes (outcome : LandingNormalizationOutcome) (state : JobState)
      (reason : Text)
  | builds (outcome : LandingNormalizationOutcome)
      (spec : StaticLandingSpec) (answer : Answer Built)

namespace LandingApplicationService

variable (service : LandingApplicationService)

/-- The course of a job: the calls and the checks of `process`. -/
def course (source : LandingInput) : Course :=
  match service.provider source service.profileDigest with
  | .interrupted => .interrupted
  | .raised => .failed
  | .raisedProvider => .providerFailed
  | .returned outcome =>
      if !outcome.valid then .providerFailed
      else if outcome.evidence.inputDigest ≠ source.inputDigest
          ∨ outcome.evidence.profileDigest ≠ service.profileDigest then
        .failed
      else
        match outcome.state, outcome.spec with
        | .normalized, some spec =>
            match service.artifactBuilder with
            | some builder =>
                if spec.inputDigest ≠ source.inputDigest then
                  .closes outcome .needsHuman
                    "artifact_builder_unavailable".toList
                else .builds outcome spec
                  (builder source spec outcome.evidence)
            | none => .closes outcome .needsHuman
                "artifact_builder_unavailable".toList
        | .providerUnavailable, _ =>
            .closes outcome .providerUnavailable outcome.reasonCode
        | .needsHuman, _ => .closes outcome .needsHuman outcome.reasonCode
        | .rejected, _ => .closes outcome .rejected outcome.reasonCode
        | .normalized, none => .failed

/-- A job whose provider was called. -/
def normalizingRecord (source : LandingInput) : LandingJobRecord where
  source := source
  state := .normalizing
  revision := 1

/-- A job whose builder was called. -/
def generatingRecord (source : LandingInput)
    (outcome : LandingNormalizationOutcome) : LandingJobRecord :=
  { generating (normalizingRecord source) outcome with revision := 2 }

/-- A build comes to its end: nothing interrupts it, it does not raise
`LandingProviderError`, and what it returns is no artifact of this input or
one whose record the store accepts. -/
def BuildFinishes (kind : StoreKind) (source : LandingInput)
    (outcome : LandingNormalizationOutcome) (spec : StaticLandingSpec) :
    Answer Built → Prop
  | .interrupted => False
  | .raisedProvider => False
  | .raised => True
  | .returned built =>
      artifactBound source spec outcome.evidence built.artifact = false
        ∨ kind.check (ready (generatingRecord source outcome) outcome built)
          = .ok ()

/-- The job of this course comes to its end: nothing interrupts it, the
store accepts the record of what the provider has returned, and if a build
was stored to be called for, it comes to its end. -/
def Finishes (kind : StoreKind) (source : LandingInput) : Course → Prop
  | .interrupted => False
  | .failed => True
  | .providerFailed => True
  | .closes outcome state reason =>
      kind.check (closed (normalizingRecord source) outcome state reason)
        = .ok ()
  | .builds outcome spec answer =>
      kind.check (generating (normalizingRecord source) outcome) = .ok () →
        BuildFinishes kind source outcome spec answer

/-- What `process` answers and leaves, by the course of the job; `t` has
the job as it was while its provider ran. -/
inductive Ran (kind : StoreKind) (source : LandingInput) (t : Tables) :
    Course → Except JobError LandingJobRecord × Tables → Prop where
  | interrupted : Ran kind source t .interrupted (.error .interrupt, t)
  | failed (e : JobError) (h : e ≠ .interrupt) :
      Ran kind source t .failed (.error e, t)
  | providerFailed : Ran kind source t .providerFailed
      (.ok (providerFailed (normalizingRecord source)), t)
  | closes (outcome : LandingNormalizationOutcome) (state : JobState)
      (reason : Text)
      (h : state ∈ [JobState.providerUnavailable, .needsHuman, .rejected]) :
      Ran kind source t (.closes outcome state reason)
        (.ok (closed (normalizingRecord source) outcome state reason), t)
  | refused (outcome : LandingNormalizationOutcome)
      (spec : StaticLandingSpec) (answer : Answer Built) (e : JobError)
      (h : kind.check (generating (normalizingRecord source) outcome)
        = .error e) :
      Ran kind source t (.builds outcome spec answer) (.error e, t)
  | built (outcome : LandingNormalizationOutcome)
      (spec : StaticLandingSpec) (answer : Answer Built)
      (final : Except JobError LandingJobRecord)
      (h : kind.check (generating (normalizingRecord source) outcome)
        = .ok ())
      (hfinal : final = match answer with
        | .interrupted => .error .interrupt
        | .raised => .error .other
        | .raisedProvider =>
            .ok (providerFailed (generatingRecord source outcome))
        | .returned built =>
            if artifactBound source spec outcome.evidence built.artifact
            then .ok (ready (generatingRecord source outcome) outcome built)
            else .error (.service "artifact_binding" 500)) :
      Ran kind source t (.builds outcome spec answer)
        (final, t.setRecord (generatingRecord source outcome))

variable {service : LandingApplicationService} {kind : StoreKind}

/-- The first put of a created job. -/
theorem put_normalizing (hstore : service.store = kind.store)
    {source : LandingInput} {t : Tables}
    (hcreated : t.records (identityOf source)
      = some { source := source, state := .accepted }) :
    service.store.put { source := source, state := .normalizing } t
      = .ok (normalizingRecord source,
        t.setRecord (normalizingRecord source)) := by
  have haccepted : kind.check { source := source, state := .accepted }
      = .ok () := kind.check_bare rfl rfl (by simp) rfl rfl
  have hnormalizing : kind.check
      { source := source, state := .normalizing } = .ok () :=
    kind.check_bare rfl rfl (by simp) rfl rfl
  have hsucceed : succeed { source := source, state := .accepted }
      { source := source, state := .normalizing }
      = .ok (normalizingRecord source) := by
    unfold succeed validateTransition
    simp [failIf, JobState.transitions]
    rfl
  rw [hstore, kind.put_eq hcreated haccepted, hnormalizing]
  show (succeed _ _ >>= fun stored => _) = _
  rw [hsucceed]
  rfl

theorem check_normalizingRecord (kind : StoreKind) (source : LandingInput) :
    kind.check (normalizingRecord source) = .ok () :=
  kind.check_bare rfl rfl (by unfold normalizingRecord; simp) rfl rfl

/-- The put before a build, which a store may refuse for its evidence. -/
theorem put_generating (hstore : service.store = kind.store)
    {source : LandingInput} {t : Tables}
    (hrecord : t.records (identityOf source)
      = some (normalizingRecord source))
    (outcome : LandingNormalizationOutcome) :
    service.store.put (generating (normalizingRecord source) outcome) t
      = (do
        kind.check (generating (normalizingRecord source) outcome)
        .ok (generatingRecord source outcome,
          t.setRecord (generatingRecord source outcome))) := by
  have hsucceed : succeed (normalizingRecord source)
      (generating (normalizingRecord source) outcome)
      = .ok (generatingRecord source outcome) := by
    unfold succeed validateTransition
    simp [failIf, JobState.transitions, generating, normalizingRecord]
    rfl
  rw [hstore, kind.put_eq hrecord (check_normalizingRecord kind source)]
  rw [hsucceed]
  rfl

/-- `process` runs the course of the job. -/
theorem process_ran (hstore : service.store = kind.store)
    {source : LandingInput} {t : Tables}
    (hcreated : t.records (identityOf source)
      = some { source := source, state := .accepted }) :
    Ran kind source (t.setRecord (normalizingRecord source))
      (course service source)
      (process service { source := source, state := .accepted } t) := by
  have hrecord : (t.setRecord (normalizingRecord source)).records
      (identityOf source) = some (normalizingRecord source) :=
    Tables.setRecord_records t _ rfl
  unfold process course
  dsimp only
  rw [put_normalizing hstore hcreated]
  dsimp only
  cases service.provider source service.profileDigest with
  | interrupted => exact .interrupted
  | raised => exact .failed _ (by decide)
  | raisedProvider => exact .providerFailed
  | returned outcome =>
      dsimp only
      by_cases hvalid : (!outcome.valid) = true
      · rw [if_pos hvalid, if_pos hvalid]
        exact .providerFailed
      rw [if_neg hvalid, if_neg hvalid]
      by_cases hforeign : outcome.evidence.inputDigest ≠ source.inputDigest
          ∨ outcome.evidence.profileDigest ≠ service.profileDigest
      · rw [if_pos hforeign, if_pos hforeign]
        exact .failed _ (by decide)
      rw [if_neg hforeign, if_neg hforeign]
      cases hstate : outcome.state with
      | providerUnavailable => exact .closes _ _ _ (by decide)
      | needsHuman => exact .closes _ _ _ (by decide)
      | rejected => exact .closes _ _ _ (by decide)
      | normalized =>
          cases hspec : outcome.spec with
          | none => exact .failed _ (by decide)
          | some spec =>
              cases hbuilder : service.artifactBuilder with
              | none => exact .closes _ _ _ (by decide)
              | some builder =>
                  dsimp only
                  by_cases hother : spec.inputDigest ≠ source.inputDigest
                  · rw [if_pos hother, if_pos hother]
                    exact .closes _ _ _ (by decide)
                  rw [if_neg hother, if_neg hother]
                  unfold build
                  rw [put_generating hstore hrecord]
                  cases hcheck : kind.check
                      (generating (normalizingRecord source) outcome) with
                  | error e => exact .refused _ _ _ e hcheck
                  | ok u =>
                      show Ran kind source _ _ (match builder source spec
                          outcome.evidence with
                        | .interrupted => _
                        | .raised => _
                        | .raisedProvider => _
                        | .returned built => _)
                      cases builder source spec outcome.evidence with
                      | interrupted => exact .built _ _ _ _ hcheck rfl
                      | raised => exact .built _ _ _ _ hcheck rfl
                      | raisedProvider => exact .built _ _ _ _ hcheck rfl
                      | returned built =>
                          dsimp only
                          by_cases hbound : artifactBound source spec
                              outcome.evidence built.artifact = true
                          · rw [if_pos hbound]
                            exact .built _ _ _ _ hcheck (if_pos hbound).symm
                          · rw [if_neg hbound]
                            exact .built _ _ _ _ hcheck (if_neg hbound).symm

-- ================================================================ the end

/-- The job is at its end and its input is out of quarantine. -/
def Settled (id : Identity) (w : World) : Prop :=
  (∃ record, w.tables.records id = some record
    ∧ record.state ∈ JobState.terminalStates) ∧ w.blobs id = none

/-- The job is stored as `current`, and its input is in quarantine. -/
structure Pending (kind : StoreKind) (source : LandingInput)
    (current : LandingJobRecord) (w : World) : Prop where
  stored : w.tables.records (identityOf source) = some current
  checked : kind.check current = .ok ()
  source_eq : current.source = source
  open_ : current.state ∉ JobState.terminalStates
  blob : w.blobs (identityOf source) = some source

theorem Pending.not_settled {source : LandingInput}
    {current : LandingJobRecord} {w : World}
    (h : Pending kind source current w) :
    ¬ Settled (identityOf source) w := by
  intro hsettled
  have hblob := hsettled.2
  rw [h.blob] at hblob
  cases hblob

/-- A last record that the store accepts ends the job. -/
theorem Pending.conclude_settled (hstore : service.store = kind.store)
    {source : LandingInput} {current final : LandingJobRecord} {w : World}
    (h : Pending kind source current w) (hsource : final.source = source)
    (hrevision : current.revision = final.revision)
    (hchecked : kind.check final = .ok ())
    (hmay : validateTransition current.state final.state = .ok ())
    (hends : final.state ∈ JobState.terminalStates) :
    Settled (identityOf source) (conclude service source final w).2 := by
  have hid : final.identity = identityOf source := by
    unfold LandingJobRecord.identity
    rw [hsource]
  have hput : service.store.put final w.tables
      = .ok ({ final with revision := final.revision + 1 },
        w.tables.setRecord
          { final with revision := final.revision + 1 }) := by
    rw [hstore, kind.put_eq (by rw [hid]; exact h.stored) h.checked,
      hchecked]
    have hsucceed : succeed current final
        = .ok { final with revision := final.revision + 1 } := by
      unfold succeed
      rw [hmay, h.source_eq, hsource, hrevision]
      simp [failIf]
      rfl
    show (succeed current final >>= fun stored => _) = _
    rw [hsucceed]
    rfl
  unfold conclude
  rw [hput]
  dsimp only
  unfold purge
  dsimp only
  rw [h.blob, if_neg (by simp)]
  refine ⟨⟨{ final with revision := final.revision + 1 }, ?_, hends⟩, ?_⟩
  · exact Tables.setRecord_records w.tables _ hid
  · exact Function.update_self ..

/-- A last record that the store refuses, or that may not follow, leaves
everything as it is. -/
theorem Pending.conclude_refused (hstore : service.store = kind.store)
    {source : LandingInput} {current final : LandingJobRecord} {w : World}
    (h : Pending kind source current w) (hsource : final.source = source)
    (hrefused : kind.check final ≠ .ok ()
      ∨ validateTransition current.state final.state ≠ .ok ()) :
    ¬ Settled (identityOf source) (conclude service source final w).2 := by
  have hid : final.identity = identityOf source := by
    unfold LandingJobRecord.identity
    rw [hsource]
  have hput : ∃ e, service.store.put final w.tables = .error e := by
    rw [hstore, kind.put_eq (by rw [hid]; exact h.stored) h.checked]
    cases hanswer : (do
        kind.check final
        let stored ← succeed current final
        .ok (stored, w.tables.setRecord stored)) with
    | error e => exact ⟨e, rfl⟩
    | ok answer =>
        exfalso
        obtain ⟨_, hchecked, hanswer⟩ := bind_ok.mp hanswer
        obtain ⟨_, hsucceed, _⟩ := bind_ok.mp hanswer
        obtain ⟨_, _, hsucceed⟩ := bind_ok.mp hsucceed
        obtain ⟨_, hmay, _⟩ := bind_ok.mp hsucceed
        rcases hrefused with hrefused | hrefused
        · exact hrefused hchecked
        · exact hrefused hmay
  obtain ⟨e, hput⟩ := hput
  unfold conclude
  rw [hput]
  exact h.not_settled

/-- A failure ends the job. -/
theorem Pending.recover_settled (hstore : service.store = kind.store)
    {source : LandingInput} {current : LandingJobRecord} {w : World}
    (h : Pending kind source current w)
    (hplain : current.artifact = none ∧ current.sealedArtifact = none)
    (hmay : validateTransition current.state .needsHuman = .ok ()) :
    Settled (identityOf source) (recover service source w).2 := by
  have hnotready : current.state ≠ .artifactReady := by
    intro heq
    apply h.open_
    rw [heq]
    decide
  unfold recover
  rw [hstore, kind.get_eq h.stored h.checked]
  refine h.conclude_settled hstore h.source_eq rfl ?_ hmay ?_
  · exact kind.check_congr h.checked ⟨hplain.1, hplain.1⟩
      ⟨hplain.2, hplain.2⟩ ⟨hnotready, by simp [failed]⟩ rfl rfl rfl
  · show JobState.needsHuman ∈ _
    decide

/-- The handler takes whatever is not an interrupt. -/
theorem workOff_error {accepted : LandingJobRecord} {w : World}
    {e : JobError} {t : Tables} (he : e ≠ .interrupt)
    (hprocess : process service accepted w.tables = (.error e, t)) :
    workOff service accepted w
      = recover service accepted.source { w with tables := t } := by
  unfold workOff
  dsimp only
  rw [hprocess]
  cases e with
  | interrupt => exact absurd rfl he
  | service code status => rfl
  | provider => rfl
  | other => rfl

theorem workOff_interrupt {accepted : LandingJobRecord} {w : World}
    {t : Tables}
    (hprocess : process service accepted w.tables
      = (.error .interrupt, t)) :
    (workOff service accepted w).2 = { w with tables := t } := by
  unfold workOff
  dsimp only
  rw [hprocess]

theorem workOff_final {accepted final : LandingJobRecord} {w : World}
    {t : Tables}
    (hprocess : process service accepted w.tables = (.ok final, t)) :
    workOff service accepted w
      = conclude service accepted.source final { w with tables := t } := by
  unfold workOff
  dsimp only
  rw [hprocess]

theorem pending_generating {source : LandingInput} {w : World}
    (hblob : w.blobs (identityOf source) = some source) (t : Tables)
    {outcome : LandingNormalizationOutcome}
    (hcheck : kind.check (generating (normalizingRecord source) outcome)
      = .ok ()) :
    Pending kind source (generatingRecord source outcome)
      ⟨t.setRecord (generatingRecord source outcome), w.blobs⟩ where
  stored := Tables.setRecord_records t _ rfl
  checked := kind.check_congr hcheck ⟨rfl, rfl⟩ ⟨rfl, rfl⟩
    ⟨by simp [generating], by simp [generatingRecord, generating]⟩ rfl rfl
    rfl
  source_eq := rfl
  open_ := by
    show JobState.generating ∉ _
    decide
  blob := hblob

/-- A created job is worked off to its end exactly when its course lets
it. -/
theorem workOff_settled_iff (hstore : service.store = kind.store)
    {source : LandingInput} {w : World}
    (hcreated : w.tables.records (identityOf source)
      = some { source := source, state := .accepted })
    (hblob : w.blobs (identityOf source) = some source) :
    Settled (identityOf source) (workOff service
        { source := source, state := .accepted } w).2
      ↔ Finishes kind source (course service source) := by
  have hran := process_ran hstore hcreated
  have hnormal : Pending kind source (normalizingRecord source)
      { w with tables := w.tables.setRecord (normalizingRecord source) } :=
    { stored := Tables.setRecord_records _ _ rfl
      checked := check_normalizingRecord kind source
      source_eq := rfl
      open_ := by
        show JobState.normalizing ∉ _
        decide
      blob := hblob }
  cases hprocess : process service { source := source, state := .accepted }
      w.tables with
  | mk answer t =>
  rw [hprocess] at hran
  cases hcourse : course service source with
  | interrupted =>
      rw [hcourse] at hran
      cases hran
      rw [workOff_interrupt hprocess]
      exact iff_of_false hnormal.not_settled id
  | failed =>
      rw [hcourse] at hran
      cases hran with
      | failed e he =>
          rw [workOff_error he hprocess]
          exact iff_of_true (hnormal.recover_settled hstore ⟨rfl, rfl⟩ rfl)
            trivial
  | providerFailed =>
      rw [hcourse] at hran
      cases hran
      rw [workOff_final hprocess]
      refine iff_of_true (hnormal.conclude_settled hstore rfl rfl ?_ rfl ?_)
        trivial
      · exact kind.check_bare rfl rfl (by simp [providerFailed]) rfl rfl
      · show JobState.providerUnavailable ∈ _
        decide
  | closes outcome state reason =>
      rw [hcourse] at hran
      cases hran with
      | closes _ _ _ hstate =>
          rw [workOff_final hprocess]
          constructor
          · intro hsettled
            by_contra hrefused
            exact hnormal.conclude_refused hstore rfl (.inl hrefused)
              hsettled
          · intro hchecked
            have hmay : validateTransition .normalizing state = .ok ()
                ∧ state ∈ JobState.terminalStates := by
              simp only [List.mem_cons, List.not_mem_nil, or_false]
                at hstate
              rcases hstate with rfl | rfl | rfl
              · exact ⟨rfl, by decide⟩
              · exact ⟨rfl, by decide⟩
              · exact ⟨rfl, by decide⟩
            exact hnormal.conclude_settled hstore rfl rfl hchecked hmay.1
              hmay.2
  | builds outcome spec built =>
      rw [hcourse] at hran
      cases hran with
      | refused _ _ _ e hcheck =>
          rw [workOff_error (kind.check_error hcheck) hprocess]
          refine iff_of_true
            (hnormal.recover_settled hstore ⟨rfl, rfl⟩ rfl) ?_
          intro hchecked
          rw [hcheck] at hchecked
          cases hchecked
      | built _ _ _ _ hcheck hfinal =>
          have hbuilding := pending_generating hblob (w.tables.setRecord
            (normalizingRecord source)) hcheck
          show _ ↔ (_ → BuildFinishes kind source outcome spec built)
          rw [forall_prop_of_true hcheck]
          cases built with
          | interrupted =>
              subst hfinal
              rw [workOff_interrupt hprocess]
              exact iff_of_false hbuilding.not_settled id
          | raised =>
              subst hfinal
              rw [workOff_error (by simp) hprocess]
              exact iff_of_true
                (hbuilding.recover_settled hstore ⟨rfl, rfl⟩ rfl) trivial
          | raisedProvider =>
              -- the handler's record may not follow `generating`
              subst hfinal
              rw [workOff_final hprocess]
              refine iff_of_false (hbuilding.conclude_refused hstore rfl
                (.inr ?_)) id
              intro heq
              cases heq
          | returned result =>
              dsimp only at hfinal ⊢
              by_cases hbound : artifactBound source spec outcome.evidence
                  result.artifact = true
              · rw [if_pos hbound] at hfinal
                subst hfinal
                rw [workOff_final hprocess]
                constructor
                · intro hsettled
                  right
                  by_contra hrefused
                  exact hbuilding.conclude_refused hstore rfl
                    (.inl hrefused) hsettled
                · intro hchecked
                  rcases hchecked with hfalse | hchecked
                  · rw [hbound] at hfalse
                    cases hfalse
                  · refine hbuilding.conclude_settled hstore rfl rfl
                      hchecked rfl ?_
                    show JobState.artifactReady ∈ _
                    decide
              · rw [if_neg hbound] at hfinal
                subst hfinal
                rw [workOff_error (by simp) hprocess]
                exact iff_of_true
                  (hbuilding.recover_settled hstore ⟨rfl, rfl⟩ rfl)
                  (.inl (by simpa using hbound))

-- ============================================================== the job

/-- A job that a store says it has created is stored as it was given. -/
theorem createOrReplay_created {record current : LandingJobRecord}
    {key : PyStr} {digest : Text} {t t' : Tables}
    (h : kind.store.createOrReplay record key digest t
      = .ok ((current, true), t')) :
    current = record ∧ t'.records record.identity = some record := by
  cases kind with
  | memory =>
      change InMemoryLandingJobStore.createOrReplay record key digest t
        = _ at h
      unfold InMemoryLandingJobStore.createOrReplay at h
      obtain ⟨_, _, h⟩ := bind_ok.mp h
      dsimp only at h
      split at h
      · split at h
        · cases h
        · split at h
          · cases h
          · cases h
      · split at h
        · split at h
          · cases h
          · cases h
        · cases h
          exact ⟨rfl, Tables.setRecord_records _ _ rfl⟩
  | sqlite files =>
      change SQLiteLandingJobStore.createOrReplay files record key digest t
        = _ at h
      unfold SQLiteLandingJobStore.createOrReplay at h
      obtain ⟨_, _, h⟩ := bind_ok.mp h
      obtain ⟨_, _, h⟩ := bind_ok.mp h
      obtain ⟨⟨found, t₁⟩, _, h⟩ := bind_ok.mp h
      dsimp only at h
      split at h
      · cases h
      · split at h
        · cases h
        · cases h
      · split at h
        · cases h
        · cases h
      · cases h
        exact ⟨rfl, Tables.setRecord_records _ _ rfl⟩

/-- A job that was created: its input is in quarantine. -/
theorem openJob_created (hstore : service.store = kind.store)
    {request : Submission} {w w' : World} {source : LandingInput}
    {record : LandingJobRecord}
    (h : openJob service request w = (.ok (source, record, true), w')) :
    record = { source := source, state := .accepted }
      ∧ identityOf source = request.identity
      ∧ w'.tables.records (identityOf source) = some record
      ∧ w'.blobs (identityOf source) = some source := by
  unfold openJob at h
  split at h
  · cases h
  split at h
  · cases h
  dsimp only at h
  split at h
  · cases h
  split at h
  · cases h
  next haccept =>
    split at h
    · cases h
    next hcreate =>
      cases h
      unfold createJob at hcreate
      split at hcreate
      next hanswer =>
        cases hcreate
        rw [hstore] at hanswer
        obtain ⟨hrecord, hstored⟩ := createOrReplay_created hanswer
        refine ⟨hrecord, (service.intake.accepted haccept).1, ?_, ?_⟩
        · rw [hrecord]
          exact hstored
        · exact Function.update_self ..
      next =>
        split at hcreate
        · cases hcreate
        · cases hcreate

/-- The end of `submit` is that of the job it has created. -/
theorem submit_created {request : Submission} {w w' : World}
    {source : LandingInput} {record : LandingJobRecord}
    (h : openJob service request w = (.ok (source, record, true), w')) :
    (submit service request w).2 = (workOff service record w').2 := by
  unfold submit
  rw [h]
  dsimp only
  cases workOff service record w' with
  | mk answer w₁ =>
      cases answer with
      | error e => rfl
      | ok final => rfl

/-- A job that `submit` has created is at its end afterwards, and its input
purged, whether `submit` returns or raises, exactly when its course
finishes: what the provider and the builder do is not interrupted, the
builder does not raise `LandingProviderError`, and the store accepts the
record of what they have returned. -/
theorem submit_settled_iff (service : LandingApplicationService)
    (kind : StoreKind) (hstore : service.store = kind.store)
    (request : Submission) (w w' : World) (source : LandingInput)
    (record : LandingJobRecord)
    (hcreated : openJob service request w
      = (.ok (source, record, true), w')) :
    Settled request.identity (submit service request w).2
      ↔ Finishes kind source (course service source) := by
  obtain ⟨hrecord, hid, hstored, hblob⟩ := openJob_created hstore hcreated
  rw [submit_created hcreated, ← hid, hrecord]
  rw [hrecord] at hstored
  exact workOff_settled_iff hstore hstored hblob

-- ------------------------------------------------- one job, two builders

def smallDigest : Text := List.replicate 64 '0'

/-- The input of a submission. -/
def smallInput (request : Submission) (received expires : Int) :
    LandingInput where
  jobId := request.jobId
  tenantId := request.actor.actorId
  repositoryId := request.repositoryId
  exactBaseSha := request.exactBaseSha
  exactBaseTree := request.exactBaseTree
  siteId := "therealaidarkfactory.online".toList
  mediaKind := "text".toList
  mediaType := request.mediaType
  byteLength := 1
  contentSha256 := smallDigest
  quarantineRefDigest := smallDigest
  receivedAt := received
  expiresAt := expires
  inputDigest := smallDigest

/-- Takes any job in whose id is an identifier. -/
def smallIntake : Intake where
  accept request received expires :=
    if isIdentifier (request.jobId.map codePoint) then
      .ok (smallInput request received expires)
    else .error "invalid_identifier"
  accepted := by
    intro request received expires source h
    by_cases hid : isIdentifier (request.jobId.map codePoint) = true
    · rw [if_pos hid] at h
      cases h
      have hdigest : isHex64 smallDigest = true := by decide
      exact ⟨rfl, rfl, rfl, hid, hdigest⟩
    · rw [if_neg hid] at h
      cases h

/-- A provider that has normalized the input. -/
def smallOutcome (source : LandingInput) (profile : Text) :
    LandingNormalizationOutcome where
  spec := some ⟨source.inputDigest, smallDigest⟩
  evidence := ⟨.v2, source.inputDigest, profile, "normalized".toList,
    smallDigest⟩
  state := .normalized
  reasonCode := "normalized".toList
  observation := none

def smallService (built : Answer Built) : LandingApplicationService where
  store := inMemory
  provider := fun source profile => .returned (smallOutcome source profile)
  artifactBuilder := some fun _ _ _ => built
  profileDigest := smallDigest
  intake := smallIntake
  clock := some 0

def smallSubmission : Submission where
  jobId := "j".toList
  repositoryId := targetRepositoryId
  exactBaseSha := targetBaseSha
  exactBaseTree := targetBaseTree
  mediaType := "text/plain".toList
  actor := ⟨"a".toList, ["*".toList]⟩

def emptyWorld : World := ⟨{}, fun _ => none⟩

theorem smallService_opens (built : Answer Built) :
    ∃ w, openJob (smallService built) smallSubmission emptyWorld
      = (.ok (smallInput smallSubmission 0 86400000000,
        { source := smallInput smallSubmission 0 86400000000
          state := .accepted }, true), w) :=
  ⟨(openJob (smallService built) smallSubmission emptyWorld).2,
    Prod.ext rfl rfl⟩

/-- A builder that raises something else. -/
theorem submit_settled_raised :
    ∃ w, openJob (smallService .raised) smallSubmission emptyWorld
        = (.ok (smallInput smallSubmission 0 86400000000,
          { source := smallInput smallSubmission 0 86400000000
            state := .accepted }, true), w)
      ∧ (Settled smallSubmission.identity
          (submit (smallService .raised) smallSubmission emptyWorld).2
        ↔ Finishes .memory (smallInput smallSubmission 0 86400000000)
          (course (smallService .raised)
            (smallInput smallSubmission 0 86400000000))) := by
  obtain ⟨w, hopens⟩ := smallService_opens .raised
  exact ⟨w, hopens, submit_settled_iff (smallService .raised) .memory rfl
    smallSubmission emptyWorld w _ _ hopens⟩

/-- A builder that raises `LandingProviderError`. -/
theorem submit_unsettled :
    ¬ ∀ (service : LandingApplicationService) (kind : StoreKind),
      service.store = kind.store →
      ∀ (request : Submission) (w w' : World) (source : LandingInput)
        (record : LandingJobRecord),
      openJob service request w = (.ok (source, record, true), w') →
      Settled request.identity (submit service request w).2 := by
  intro hall
  obtain ⟨w, hopens⟩ := smallService_opens .raisedProvider
  have hsettled := hall (smallService .raisedProvider) .memory rfl
    smallSubmission emptyWorld w _ _ hopens
  obtain ⟨⟨record, hrecord, hstate⟩, _⟩ := hsettled
  have hgenerating : ((submit (smallService .raisedProvider) smallSubmission
      emptyWorld).2.tables.records smallSubmission.identity).map
        LandingJobRecord.state = some .generating := by decide +kernel
  rw [hrecord, Option.map_some] at hgenerating
  rw [Option.some.inj hgenerating] at hstate
  exact absurd hstate (by decide)

end LandingApplicationService

end Exolon.Landing
