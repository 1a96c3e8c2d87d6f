/-
Earned autonomy: a profile, the cohorts that may promote it, and its
demotion.

`evaluateAutonomy` compares one cohort with the profile it is given and
answers a new profile and a recommendation; nothing else is remembered.
`step` is one autonomy tuple over time: evaluations of any cohorts, the
activation of recommendations and demotions.

# Why no cohort promotes twice

The replay check only knows the cohort of the last evaluation. What keeps
a cohort from promoting twice is that none promotes: a bundle of the
hand-off is always blocked and its acceptance is never available
(`gate_closed`), so no recommendation is ever `qualified`.
-/
import Exolon.Factory.Protocol
import Exolon.Lib.Run

namespace Exolon.Factory

-- ============================================================== contracts

/-- `ContractError` -/
structure ContractError where
  code : String
  detail : String := ""
  deriving DecidableEq

/-- Raise where the condition holds. -/
def refuse (condition : Bool) (code : String) (detail : String := "") :
    Except ContractError Unit :=
  if condition then .error ⟨code, detail⟩ else .ok ()

theorem refuse_ok {condition : Bool} {code detail : String} {u : Unit} :
    refuse condition code detail = .ok u ↔ condition = false := by
  cases condition with
  | false => exact iff_of_true rfl rfl
  | true =>
      constructor
      · intro h
        cases h
      · intro h
        cases h

/-- `LEVELS` -/
inductive Level where
  | l0
  | l1
  | l2
  deriving DecidableEq

namespace Level

/-- `LEVELS.index` -/
def index : Level → Nat
  | .l0 => 0
  | .l1 => 1
  | .l2 => 2

/-- `LEVELS[LEVELS.index(level) + 1]`; there is none after the last. -/
def next? : Level → Option Level
  | .l0 => some .l1
  | .l1 => some .l2
  | .l2 => none

end Level

/-- `RECOMMENDATION_REASONS` -/
inductive Reason where
  | qualified
  | alreadyAtCeiling
  | cohortReplay
  | m7BundleBlocked
  | m7AcceptanceMissing
  | m7CurrentnessMissing
  | tupleExpired
  | insufficientAcceptances
  | humanAcceptanceMissing
  | auditRateInsufficient
  | auditDayGap
  | auditRejected
  | qualityBelowThreshold
  | securityFailure
  | authorizationFailure
  | duplicateDispatch
  | costAboveThreshold
  | latencyAboveThreshold
  | demotionFactPresent
  | haltedProfile
  deriving DecidableEq

/-- `DEMOTION_TRIGGERS`, the first one first. -/
def demotionTriggers : List String := [
  "security_failure", "authorization_failure", "incorrect_merge",
  "rollback", "escaped_defect", "invalid_attestation", "policy_bypass",
  "unexplained_regression"]

def maxCohortTasks : Nat := 10000
def maxCount : Nat := 1000000
def maxCostUsdMicros : Nat := 1000000000000
def maxLatencyMs : Nat := 604800000

-- ============================================================ the evidence

/-- `AutonomyTupleV1`: what its digest binds is not read otherwise. Times
are microseconds of UTC. -/
structure AutonomyTuple where
  digest : Digest
  authorityCeiling : Level := .l2
  expiresAt : Int
  ceiling_eq : authorityCeiling = .l2 := by rfl
  deriving DecidableEq

/-- `ReadyForPrBundleV1` -/
structure ReadyForPrBundle where
  bundleDigest : Digest
  status : String := "blocked_pending_durable_lookup"
  status_eq : status = "blocked_pending_durable_lookup" := by rfl

inductive HumanDecision where
  | mergedAccepted
  | notMerged
  deriving DecidableEq

/-- `ShadowOutcomeV1` -/
structure ShadowOutcome where
  digest : Digest
  bundleDigest : Digest
  humanDecision : HumanDecision

/-- `M7AutonomyBridgeV1`, with the outcomes of its cohort. -/
structure M7AutonomyBridge where
  bundles : List ReadyForPrBundle
  outcomes : List ShadowOutcome
  bundles_ne : bundles ≠ []
  bundles_le : bundles.length ≤ maxCohortTasks
  same_bundles : (outcomes.map ShadowOutcome.bundleDigest).Perm
    (bundles.map ReadyForPrBundle.bundleDigest)

namespace M7AutonomyBridge

/-- `external_acceptance_available` -/
def externalAcceptanceAvailable (_ : M7AutonomyBridge) : Bool := false

/-- `currentness_available` -/
def currentnessAvailable (_ : M7AutonomyBridge) : Bool := false

end M7AutonomyBridge

/-- `CohortTaskEvidenceV1` -/
structure CohortTaskEvidence where
  observedAt : Int
  m7OutcomeDigest : Digest
  auditSampled : Bool
  auditAccepted : Bool
  qualityScoreMillionths : Nat
  securityFailureCount : Nat
  authorizationFailureCount : Nat
  duplicateDispatchCount : Nat
  costUsdMicros : Nat
  latencyMs : Nat
  demotionTriggerCount : Nat
  audit : auditAccepted = true → auditSampled = true

/-- `CohortEvidenceV1` -/
structure CohortEvidence where
  digest : Digest
  autonomyTuple : AutonomyTuple
  tasks : List CohortTaskEvidence
  m7Handoff : M7AutonomyBridge
  windowStartedAt : Int
  windowEndedAt : Int
  minimumHumanAcceptances : Nat
  minimumAuditRateMillionths : Nat
  minimumQualityScoreMillionths : Nat
  maximumSecurityFailures : Nat
  maximumAuthorizationFailures : Nat
  maximumDuplicateDispatches : Nat
  maximumCostUsdMicros : Nat
  maximumLatencyMs : Nat
  maximumDemotionTriggers : Nat
  tasks_ne : tasks ≠ []
  tasks_le : tasks.length ≤ maxCohortTasks
  linked : ∀ task ∈ tasks, ∃ outcome ∈ m7Handoff.outcomes,
    outcome.digest = task.m7OutcomeDigest
  window : windowStartedAt < windowEndedAt
    ∧ windowEndedAt ≤ autonomyTuple.expiresAt
  in_window : ∀ task ∈ tasks, windowStartedAt ≤ task.observedAt
    ∧ task.observedAt ≤ windowEndedAt
    ∧ task.observedAt < autonomyTuple.expiresAt
  zero_tolerance : maximumSecurityFailures = 0
    ∧ maximumAuthorizationFailures = 0 ∧ maximumDuplicateDispatches = 0
    ∧ maximumDemotionTriggers = 0

-- ============================================================ the profile

/-- The fields of an `AutonomyProfileV1`. -/
structure ProfileFields where
  tupleDigest : Digest
  cohortDigest : Digest
  currentLevel : Level
  acceptedTaskCount : Nat
  auditSampleCount : Nat
  auditAcceptedCount : Nat
  minimumQualityScoreMillionths : Nat
  totalSecurityFailures : Nat
  totalAuthorizationFailures : Nat
  totalDuplicateDispatches : Nat
  maximumCostUsdMicros : Nat
  p95LatencyMs : Nat
  totalDemotionTriggers : Nat
  expiresAt : Int
  halted : Bool

/-- `_integer` of a count. -/
def inRange (value maximum : Nat) (name : String) :
    Except ContractError Unit :=
  refuse (maximum < value) "invalid_integer" name

/-- `AutonomyProfileV1.__post_init__` -/
def ProfileFields.postInit (p : ProfileFields) :
    Except ContractError Unit := do
  inRange p.acceptedTaskCount maxCount "accepted_task_count"
  inRange p.auditSampleCount maxCount "audit_sample_count"
  inRange p.auditAcceptedCount maxCount "audit_accepted_count"
  inRange p.totalSecurityFailures maxCount "total_security_failures"
  inRange p.totalAuthorizationFailures maxCount
    "total_authorization_failures"
  inRange p.totalDuplicateDispatches maxCount "total_duplicate_dispatches"
  inRange p.totalDemotionTriggers maxCount "total_demotion_triggers"
  refuse (p.auditSampleCount < p.auditAcceptedCount) "invalid_audit_state"
  inRange p.minimumQualityScoreMillionths 1000000
    "minimum_quality_score_millionths"
  inRange p.maximumCostUsdMicros maxCostUsdMicros "maximum_cost_usd_micros"
  inRange p.p95LatencyMs maxLatencyMs "p95_latency_ms"
  refuse (p.halted && p.currentLevel ≠ .l0) "invalid_halted_profile"

/-- `AutonomyProfileV1` -/
structure AutonomyProfile extends ProfileFields where
  checked : toProfileFields.postInit = .ok ()

/-- `AutonomyProfileV1(...)` -/
def AutonomyProfile.make (fields : ProfileFields) :
    Except ContractError AutonomyProfile :=
  match h : fields.postInit with
  | .ok () => .ok ⟨fields, h⟩
  | .error e => .error e

/-- `PromotionRecommendationV1` -/
structure PromotionRecommendation where
  tupleDigest : Digest
  cohortDigest : Digest
  currentLevel : Level
  recommendedLevel : Level
  reasonCode : Reason
  evaluatedAt : Int
  expiresAt : Int
  deriving DecidableEq

/-- `PromotionRecommendationV1.__post_init__` -/
def PromotionRecommendation.postInit (r : PromotionRecommendation) :
    Except ContractError Unit := do
  let advances : Bool := r.recommendedLevel.index = r.currentLevel.index + 1
  refuse (r.recommendedLevel.index ≠ r.currentLevel.index && !advances)
    "invalid_transition"
  refuse (advances ≠ (r.reasonCode = .qualified)) "invalid_transition"
  refuse (r.reasonCode = .tupleExpired && (r.evaluatedAt < r.expiresAt
      || r.currentLevel ≠ .l0 || r.recommendedLevel ≠ .l0))
    "invalid_expired_recommendation"
  refuse (r.reasonCode ≠ .tupleExpired && r.expiresAt ≤ r.evaluatedAt)
    "invalid_time" "recommendation_expiry"

-- ============================================================= evaluation

/-- The outcome a task names; of two with one digest, the later one. -/
def CohortEvidence.outcomeOf (cohort : CohortEvidence)
    (task : CohortTaskEvidence) : Option ShadowOutcome :=
  cohort.m7Handoff.outcomes.reverse.find? fun outcome =>
    outcome.digest = task.m7OutcomeDigest

/-- Its human decision is `merged_accepted`. -/
def CohortEvidence.isAccepted (cohort : CohortEvidence)
    (task : CohortTaskEvidence) : Bool :=
  (cohort.outcomeOf task).map ShadowOutcome.humanDecision
    = some .mergedAccepted

/-- `_bounded_sum` -/
def boundedSum (values : List Nat) : Nat := min values.sum maxCount

/-- `_nearest_rank_p95`, of at least one value. -/
def nearestRankP95 (values : List Nat) : Nat :=
  let ordered := values.insertionSort (· ≤ ·)
  let rank := (95 * ordered.length + 99) / 100
  ordered.getD (rank - 1) 0

/-- `_cohort_profile` -/
def cohortProfile (cohort : CohortEvidence) (currentLevel : Level)
    (halted : Bool) : Except ContractError AutonomyProfile :=
  let tasks := cohort.tasks
  AutonomyProfile.make {
    tupleDigest := cohort.autonomyTuple.digest
    cohortDigest := cohort.digest
    currentLevel := currentLevel
    acceptedTaskCount := tasks.countP cohort.isAccepted
    auditSampleCount := tasks.countP CohortTaskEvidence.auditSampled
    auditAcceptedCount := tasks.countP CohortTaskEvidence.auditAccepted
    minimumQualityScoreMillionths :=
      (tasks.map CohortTaskEvidence.qualityScoreMillionths).min?.getD 0
    totalSecurityFailures :=
      boundedSum (tasks.map CohortTaskEvidence.securityFailureCount)
    totalAuthorizationFailures :=
      boundedSum (tasks.map CohortTaskEvidence.authorizationFailureCount)
    totalDuplicateDispatches :=
      boundedSum (tasks.map CohortTaskEvidence.duplicateDispatchCount)
    maximumCostUsdMicros :=
      (tasks.map CohortTaskEvidence.costUsdMicros).max?.getD 0
    p95LatencyMs :=
      nearestRankP95 (tasks.map CohortTaskEvidence.latencyMs)
    totalDemotionTriggers :=
      boundedSum (tasks.map CohortTaskEvidence.demotionTriggerCount)
    expiresAt := cohort.autonomyTuple.expiresAt
    halted := halted }

/-- The day of a time, in UTC. -/
def day (time : Int) : Int := time / 86400000000

/-- Every day with a task has one that was sampled. -/
def everyDaySampled (tasks : List CohortTaskEvidence) : Bool :=
  tasks.all fun task => tasks.any fun other =>
    other.auditSampled && day other.observedAt = day task.observedAt

/-- The checks of `_cohort_gate_reason` in their order, each with the
reason it gives where it fails. -/
def gateChecks (cohort : CohortEvidence) (p : AutonomyProfile) :
    List (Bool × Reason) := [
  (cohort.tasks.any fun task => !cohort.isAccepted task,
    .humanAcceptanceMissing),
  (p.acceptedTaskCount < cohort.minimumHumanAcceptances,
    .insufficientAcceptances),
  (p.auditSampleCount * 1000000
      < cohort.tasks.length * cohort.minimumAuditRateMillionths,
    .auditRateInsufficient),
  (!everyDaySampled cohort.tasks, .auditDayGap),
  (p.auditAcceptedCount ≠ p.auditSampleCount, .auditRejected),
  (p.minimumQualityScoreMillionths < cohort.minimumQualityScoreMillionths,
    .qualityBelowThreshold),
  (cohort.maximumSecurityFailures < p.totalSecurityFailures,
    .securityFailure),
  (cohort.maximumAuthorizationFailures < p.totalAuthorizationFailures,
    .authorizationFailure),
  (cohort.maximumDuplicateDispatches < p.totalDuplicateDispatches,
    .duplicateDispatch),
  (cohort.maximumCostUsdMicros < p.maximumCostUsdMicros,
    .costAboveThreshold),
  (cohort.maximumLatencyMs < p.p95LatencyMs, .latencyAboveThreshold),
  (cohort.maximumDemotionTriggers < p.totalDemotionTriggers,
    .demotionFactPresent),
  (cohort.m7Handoff.bundles.any fun bundle =>
      bundle.status = "blocked_pending_durable_lookup",
    .m7BundleBlocked),
  (!cohort.m7Handoff.externalAcceptanceAvailable, .m7AcceptanceMissing),
  (!cohort.m7Handoff.currentnessAvailable, .m7CurrentnessMissing)]

/-- `_cohort_gate_reason` -/
def cohortGateReason (cohort : CohortEvidence) (p : AutonomyProfile) :
    Option Reason :=
  ((gateChecks cohort p).find? Prod.fst).map Prod.snd

/-- The reason a recommendation gives when nothing is wrong with the time
or the profile. -/
def cohortReason (cohort : CohortEvidence)
    (existing : Option AutonomyProfile) (expired halted : Bool)
    (p : AutonomyProfile) : Option Reason :=
  if expired then some .tupleExpired
  else if halted then some .haltedProfile
  else if existing.map (·.cohortDigest) = some cohort.digest then
    some .cohortReplay
  else cohortGateReason cohort p

/-- The profile is one of the cohort's tuple. -/
def checkExisting (cohort : CohortEvidence) :
    Option AutonomyProfile → Except ContractError Unit
  | none => .ok ()
  | some p =>
      if p.tupleDigest ≠ cohort.autonomyTuple.digest then
        .error ⟨"tuple_mismatch", "existing_profile"⟩
      else if p.expiresAt ≠ cohort.autonomyTuple.expiresAt then
        .error ⟨"profile_expiry_mismatch", ""⟩
      else .ok ()

/-- `evaluate_autonomy` -/
def evaluateAutonomy (cohort : CohortEvidence)
    (existing : Option AutonomyProfile) (evaluatedAt : Int) :
    Except ContractError (AutonomyProfile × PromotionRecommendation) := do
  refuse (evaluatedAt < cohort.windowEndedAt) "invalid_time"
    "cohort_window_open"
  checkExisting cohort existing
  let expired : Bool := cohort.autonomyTuple.expiresAt ≤ evaluatedAt
  let currentLevel := if expired then .l0
    else (existing.map (·.currentLevel)).getD .l0
  let halted := (existing.map (·.halted)).getD false && !expired
  let profile ← cohortProfile cohort currentLevel halted
  let reason := cohortReason cohort existing expired halted profile
  let reason := if reason = none
      ∧ currentLevel = cohort.autonomyTuple.authorityCeiling then
    some .alreadyAtCeiling else reason
  let recommendation : PromotionRecommendation := {
    tupleDigest := cohort.autonomyTuple.digest
    cohortDigest := cohort.digest
    currentLevel := currentLevel
    recommendedLevel := match reason with
      | none => (currentLevel.next?).getD currentLevel
      | some _ => currentLevel
    reasonCode := reason.getD .qualified
    evaluatedAt := evaluatedAt
    expiresAt := cohort.autonomyTuple.expiresAt }
  recommendation.postInit
  .ok (profile, recommendation)

-- =============================================================== demotion

/-- `DemotionDecisionV1` -/
structure DemotionDecision where
  profileDigest : Digest
  tupleDigest : Digest
  trigger : String
  priorLevel : Level
  resultingLevel : Level
  effectiveAt : Int
  halt : Bool

/-- `demote_profile`; `digest` is the digest of a profile. -/
def demoteProfile (digest : AutonomyProfile → Digest)
    (profile : AutonomyProfile) (triggerFacts : Finset String)
    (observedAt : Int) :
    Except ContractError (AutonomyProfile × DemotionDecision) := do
  refuse (triggerFacts = ∅ ∨ ¬ triggerFacts ⊆ demotionTriggers.toFinset)
    "invalid_demotion_trigger"
  let selected := demotionTriggers.find? (· ∈ triggerFacts)
  let updated ← AutonomyProfile.make { profile.toProfileFields with
    currentLevel := .l0
    totalDemotionTriggers :=
      min maxCount (profile.totalDemotionTriggers + triggerFacts.card)
    halted := true }
  .ok (updated, {
    profileDigest := digest profile
    tupleDigest := profile.tupleDigest
    trigger := selected.getD ""
    priorLevel := profile.currentLevel
    resultingLevel := .l0
    effectiveAt := observedAt
    halt := true })

-- ============================================================ the history

/-- One autonomy tuple over time: its current profile, every recommendation
that was made, the cohort of every promotion that was activated, and the
time. -/
structure History where
  profile : Option AutonomyProfile := none
  issued : List PromotionRecommendation := []
  activated : List Digest := []
  now : Int

namespace History

/-- The level in force. -/
def level (h : History) : Level := (h.profile.map (·.currentLevel)).getD .l0

def halted (h : History) : Bool := (h.profile.map (·.halted)).getD false

/-- What may happen to a tuple. Any recommendation that was ever made may
be activated. -/
inductive Act where
  | evaluate (cohort : CohortEvidence) (time : Int)
  | activate (recommendation : PromotionRecommendation)
  | demote (triggerFacts : Finset String) (time : Int)

section

variable (digest : AutonomyProfile → Digest) (tuple : AutonomyTuple)

/-- One step; `none` is one that is not taken, or that raises. -/
def step (h : History) : Act → Option History
  | .evaluate cohort time =>
      if cohort.autonomyTuple = tuple ∧ h.now ≤ time then
        match evaluateAutonomy cohort h.profile time with
        | .error _ => none
        | .ok (profile, recommendation) => some {
            profile := some profile
            issued := recommendation :: h.issued
            activated := h.activated
            now := time }
      else none
  | .activate recommendation =>
      match h.profile with
      | none => none
      | some profile =>
          if recommendation ∈ h.issued
              ∧ recommendation.reasonCode = .qualified then
            match AutonomyProfile.make { profile.toProfileFields with
              currentLevel := recommendation.recommendedLevel } with
            | .error _ => none
            | .ok profile => some { h with
                profile := some profile
                activated := recommendation.cohortDigest :: h.activated }
          else none
  | .demote triggerFacts time =>
      match h.profile with
      | none => none
      | some profile =>
          if h.now ≤ time then
            match demoteProfile digest profile triggerFacts time with
            | .error _ => none
            | .ok (profile, _) => some { h with
                profile := some profile
                now := time }
          else none

end

end History

-- ===================================================== what a call answers

theorem AutonomyProfile.make_ok {fields : ProfileFields}
    {p : AutonomyProfile} (h : AutonomyProfile.make fields = .ok p) :
    p.toProfileFields = fields := by
  unfold make at h
  split at h
  · cases h
    rfl
  · cases h

/-- A halted profile is at L0. -/
theorem AutonomyProfile.level_of_halted (p : AutonomyProfile)
    (h : p.halted = true) : p.currentLevel = .l0 := by
  have hchecked := p.checked
  unfold ProfileFields.postInit at hchecked
  simp only [bind_ok] at hchecked
  obtain ⟨_, _, _, _, _, _, _, _, _, _, _, _, _, _, _, _, _, _, _, _, _, _,
    hrefused⟩ := hchecked
  rw [refuse_ok, h, Bool.true_and] at hrefused
  simpa using hrefused

/-- The gate is closed: the acceptance of a hand-off is never available. -/
theorem gate_closed (cohort : CohortEvidence) (p : AutonomyProfile) :
    cohortGateReason cohort p ≠ none := by
  intro hnone
  unfold cohortGateReason at hnone
  rw [Option.map_eq_none_iff, List.find?_eq_none] at hnone
  refine hnone (!cohort.m7Handoff.externalAcceptanceAvailable,
    .m7AcceptanceMissing) ?_ rfl
  simp [gateChecks]

/-- A check that fails gives a reason against the promotion. -/
theorem gateReason_ne {cohort : CohortEvidence} {p : AutonomyProfile}
    {reason : Reason} (h : cohortGateReason cohort p = some reason) :
    reason ≠ .qualified := by
  obtain ⟨check, hfound, hcheck⟩ := Option.map_eq_some_iff.mp h
  have hmem : reason ∈ (gateChecks cohort p).map Prod.snd := by
    rw [← hcheck]
    exact List.mem_map_of_mem (List.mem_of_find?_eq_some hfound)
  have hnone : Reason.qualified ∉ (gateChecks cohort p).map Prod.snd := by
    simp [gateChecks]
  intro heq
  rw [heq] at hmem
  exact hnone hmem

/-- The level an evaluation starts from: L0 once the tuple has expired. -/
def levelAt (cohort : CohortEvidence) (existing : Option AutonomyProfile)
    (time : Int) : Level :=
  if cohort.autonomyTuple.expiresAt ≤ time then .l0
  else (existing.map (·.currentLevel)).getD .l0

theorem cohortReason_closed (cohort : CohortEvidence)
    (existing : Option AutonomyProfile) (expired halted : Bool)
    (p : AutonomyProfile) :
    ∃ reason, cohortReason cohort existing expired halted p = some reason
      ∧ reason ≠ .qualified := by
  unfold cohortReason
  by_cases hexpired : expired = true
  · exact ⟨.tupleExpired, if_pos hexpired, by decide⟩
  · rw [if_neg hexpired]
    by_cases hhalted : halted = true
    · exact ⟨.haltedProfile, if_pos hhalted, by decide⟩
    · rw [if_neg hhalted]
      by_cases hreplay : existing.map (·.cohortDigest) = some cohort.digest
      · exact ⟨.cohortReplay, if_pos hreplay, by decide⟩
      · rw [if_neg hreplay]
        obtain ⟨reason, hreason⟩ :=
          Option.ne_none_iff_exists'.mp (gate_closed cohort p)
        refine ⟨reason, hreason, ?_⟩
        exact gateReason_ne hreason

/-- What an evaluation answers: it keeps the level, it keeps a halt until
the tuple expires, and it never recommends a promotion. -/
theorem evaluateAutonomy_ok {cohort : CohortEvidence}
    {existing : Option AutonomyProfile} {time : Int} {p : AutonomyProfile}
    {r : PromotionRecommendation}
    (h : evaluateAutonomy cohort existing time = .ok (p, r)) :
    p.currentLevel = levelAt cohort existing time
      ∧ (p.halted = true ↔ (existing.map (·.halted)).getD false = true
        ∧ time < cohort.autonomyTuple.expiresAt)
      ∧ r.recommendedLevel = levelAt cohort existing time
      ∧ r.reasonCode ≠ .qualified := by
  unfold evaluateAutonomy at h
  obtain ⟨_, _, h⟩ := bind_ok.mp h
  obtain ⟨_, _, h⟩ := bind_ok.mp h
  obtain ⟨profile, hprofile, h⟩ := bind_ok.mp h
  obtain ⟨_, _, h⟩ := bind_ok.mp h
  have hfields := AutonomyProfile.make_ok hprofile
  obtain ⟨reason, hreason, hnot⟩ := cohortReason_closed cohort existing
    (cohort.autonomyTuple.expiresAt ≤ time)
    ((existing.map (·.halted)).getD false
      && !decide (cohort.autonomyTuple.expiresAt ≤ time)) profile
  cases h
  have hlevel : ∀ expired : Bool,
      expired = decide (cohort.autonomyTuple.expiresAt ≤ time) →
      (if expired = true then Level.l0
        else (existing.map (·.currentLevel)).getD .l0)
      = levelAt cohort existing time := by
    intro expired hexpired
    unfold levelAt
    rw [hexpired]
    simp only [decide_eq_true_eq]
  refine ⟨?_, ?_, ?_, ?_⟩
  · rw [hfields]
    exact hlevel _ rfl
  · rw [hfields]
    show (_ && !_) = true ↔ _
    simp
  · rw [hreason]
    exact hlevel _ rfl
  · rw [hreason]
    exact hnot

/-- A demotion halts at L0. -/
theorem demoteProfile_ok {digest : AutonomyProfile → Digest}
    {profile updated : AutonomyProfile} {triggerFacts : Finset String}
    {time : Int} {decision : DemotionDecision}
    (h : demoteProfile digest profile triggerFacts time
      = .ok (updated, decision)) :
    updated.halted = true ∧ updated.currentLevel = .l0 := by
  unfold demoteProfile at h
  obtain ⟨_, _, h⟩ := bind_ok.mp h
  obtain ⟨made, hmade, h⟩ := bind_ok.mp h
  cases h
  have hfields := AutonomyProfile.make_ok hmade
  rw [hfields]
  exact ⟨rfl, rfl⟩

namespace History

variable {digest : AutonomyProfile → Digest} {tuple : AutonomyTuple}

/-- A tuple without any profile. -/
def start (time : Int) : History := { now := time }

/-- What a step can do: evaluate, which adds a recommendation, or demote. An
activation needs a recommendation that is `qualified`. -/
theorem step_cases {h h' : History} {act : Act}
    (hstep : step digest tuple h act = some h') :
    (∃ cohort time p r, cohort.autonomyTuple = tuple ∧ h.now ≤ time
        ∧ evaluateAutonomy cohort h.profile time = .ok (p, r)
        ∧ h' = ⟨some p, r :: h.issued, h.activated, time⟩)
      ∨ (∃ r ∈ h.issued, r.reasonCode = .qualified)
      ∨ (∃ p time, p.halted = true ∧ p.currentLevel = .l0 ∧ h.now ≤ time
        ∧ h' = { h with profile := some p, now := time }) := by
  cases act with
  | evaluate cohort time =>
      left
      rw [step] at hstep
      by_cases hguard : cohort.autonomyTuple = tuple ∧ h.now ≤ time
      · rw [if_pos hguard] at hstep
        cases hanswer : evaluateAutonomy cohort h.profile time with
        | error e =>
            rw [hanswer] at hstep
            cases hstep
        | ok answer =>
            rw [hanswer] at hstep
            cases hstep
            exact ⟨cohort, time, answer.1, answer.2, hguard.1, hguard.2,
              hanswer, rfl⟩
      · rw [if_neg hguard] at hstep
        cases hstep
  | activate r =>
      right; left
      rw [step] at hstep
      cases hprofile : h.profile with
      | none =>
          rw [hprofile] at hstep
          cases hstep
      | some p =>
          rw [hprofile] at hstep
          dsimp only at hstep
          by_cases hguard : r ∈ h.issued ∧ r.reasonCode = .qualified
          · exact ⟨r, hguard.1, hguard.2⟩
          · rw [if_neg hguard] at hstep
            cases hstep
  | demote triggerFacts time =>
      right; right
      rw [step] at hstep
      cases hprofile : h.profile with
      | none =>
          rw [hprofile] at hstep
          cases hstep
      | some p =>
          rw [hprofile] at hstep
          dsimp only at hstep
          by_cases hguard : h.now ≤ time
          · rw [if_pos hguard] at hstep
            cases hanswer : demoteProfile digest p triggerFacts time with
            | error e =>
                rw [hanswer] at hstep
                cases hstep
            | ok answer =>
                rw [hanswer] at hstep
                cases hstep
                obtain ⟨hhalted, hlevel⟩ := demoteProfile_ok hanswer
                exact ⟨answer.1, time, hhalted, hlevel, hguard, rfl⟩
          · rw [if_neg hguard] at hstep
            cases hstep

-- ============================================================ every run

/-- Nothing was ever recommended, nor activated. -/
structure Quiet (h : History) : Prop where
  issued : ∀ r ∈ h.issued, r.reasonCode ≠ .qualified
  activated : h.activated = []

theorem Quiet.step {h h' : History} {act : Act} (hquiet : Quiet h)
    (hstep : step digest tuple h act = some h') : Quiet h' := by
  rcases step_cases hstep with
    ⟨cohort, time, p, r, _, _, hanswer, rfl⟩ | ⟨r, hr, hqualified⟩
    | ⟨p, time, _, _, _, rfl⟩
  · obtain ⟨_, _, _, hnot⟩ := evaluateAutonomy_ok hanswer
    refine ⟨?_, hquiet.activated⟩
    intro other hother
    rcases List.mem_cons.mp hother with heq | hmem
    · rw [heq]
      exact hnot
    · exact hquiet.issued other hmem
  · exact absurd hqualified (hquiet.issued r hr)
  · exact ⟨hquiet.issued, hquiet.activated⟩

/-- No step raises the level. -/
theorem Quiet.level_le {h h' : History} {act : Act} (hquiet : Quiet h)
    (hstep : History.step digest tuple h act = some h') :
    h'.level.index ≤ h.level.index := by
  rcases step_cases hstep with
    ⟨cohort, time, p, r, _, _, hanswer, rfl⟩ | ⟨r, hr, hqualified⟩
    | ⟨p, time, _, hlevel, _, rfl⟩
  · obtain ⟨hlevel, _⟩ := evaluateAutonomy_ok hanswer
    show p.currentLevel.index ≤ _
    rw [hlevel]
    unfold levelAt
    by_cases hexpired : cohort.autonomyTuple.expiresAt ≤ time
    · rw [if_pos hexpired]
      exact Nat.zero_le _
    · rw [if_neg hexpired]
      exact Nat.le_refl _
  · exact absurd hqualified (hquiet.issued r hr)
  · show p.currentLevel.index ≤ _
    rw [hlevel]
    exact Nat.zero_le _

/-- Halted since `before`: if the tuple has not expired, the profile still
is, and what was recommended since then is L0. -/
structure HaltedSince (tuple : AutonomyTuple)
    (before : List PromotionRecommendation) (h : History) : Prop where
  quiet : Quiet h
  halted : h.now < tuple.expiresAt → h.halted = true
  issued : h.now < tuple.expiresAt → ∃ new, h.issued = new ++ before
    ∧ ∀ r ∈ new, r.recommendedLevel = .l0

theorem level_of_halted {h : History} (hhalted : h.halted = true) :
    h.level = .l0 := by
  unfold halted at hhalted
  unfold level
  cases hprofile : h.profile with
  | none => rfl
  | some p =>
      rw [hprofile] at hhalted
      exact p.level_of_halted hhalted

theorem HaltedSince.step {before : List PromotionRecommendation}
    {h h' : History} {act : Act} (hI : HaltedSince tuple before h)
    (hstep : History.step digest tuple h act = some h') :
    HaltedSince tuple before h' := by
  have hquiet := hI.quiet.step hstep
  rcases step_cases hstep with
    ⟨cohort, time, p, r, htuple, htime, hanswer, rfl⟩ | ⟨r, hr, hqualified⟩
    | ⟨p, time, hhalted, _, htime, rfl⟩
  · obtain ⟨_, hhalt, hrecommended, _⟩ := evaluateAutonomy_ok hanswer
    rw [htuple] at hhalt
    refine ⟨hquiet, ?_, ?_⟩
    · intro hnow
      exact hhalt.mpr ⟨hI.halted (lt_of_le_of_lt htime hnow), hnow⟩
    · intro hnow
      have hbefore : h.now < tuple.expiresAt := lt_of_le_of_lt htime hnow
      obtain ⟨new, hnew, hlow⟩ := hI.issued hbefore
      refine ⟨r :: new, ?_, ?_⟩
      · show r :: h.issued = _
        rw [hnew, List.cons_append]
      · intro other hother
        rcases List.mem_cons.mp hother with heq | hmem
        · rw [heq, hrecommended]
          have hlevel := level_of_halted (hI.halted hbefore)
          unfold levelAt
          rw [htuple, if_neg (not_le_of_gt hnow)]
          exact hlevel
        · exact hlow other hmem
  · exact absurd hqualified (hI.quiet.issued r hr)
  · refine ⟨hquiet, fun _ => hhalted, ?_⟩
    intro hnow
    exact hI.issued (lt_of_le_of_lt htime hnow)

/-- No cohort is promoted twice: over every history of a tuple, a cohort
digest justifies at most one activated promotion, no step raises the level
by more than one, and once the profile is halted it stays so at L0, and is
not recommended for more, until the tuple expires. -/
theorem promoted_at_most_once (digest : AutonomyProfile → Digest)
    (tuple : AutonomyTuple) (time : Int) (acts : List Act) (h : History)
    (hrun : Run.run (step digest tuple) (start time) acts = some h) :
    h.activated.Nodup
      ∧ (∀ act h', step digest tuple h act = some h' →
        h'.level.index ≤ h.level.index + 1)
      ∧ (h.halted = true → h.level = .l0 ∧ ∀ later h',
        Run.run (step digest tuple) h later = some h' →
        h'.now < tuple.expiresAt →
        h'.halted = true ∧ h'.level = .l0
          ∧ ∃ new, h'.issued = new ++ h.issued
            ∧ ∀ r ∈ new, r.recommendedLevel = .l0) := by
  have hfresh : Quiet (start time) :=
    ⟨fun r hr => absurd hr List.not_mem_nil, rfl⟩
  have hquiet : Quiet h := Run.run_invariant
    (fun hI hstep => Quiet.step hI hstep) hfresh hrun
  refine ⟨?_, ?_, ?_⟩
  · rw [hquiet.activated]
    exact List.nodup_nil
  · intro act h' hstep
    exact Nat.le_succ_of_le (hquiet.level_le hstep)
  · intro hhalted
    refine ⟨level_of_halted hhalted, ?_⟩
    intro later h' hlater hnow
    have hsince : HaltedSince tuple h.issued h :=
      ⟨hquiet, fun _ => hhalted, fun _ => ⟨[], rfl, fun r hr =>
        absurd hr List.not_mem_nil⟩⟩
    have hend : HaltedSince tuple h.issued h' := Run.run_invariant
      (fun hI hstep => HaltedSince.step hI hstep) hsince hlater
    exact ⟨hend.halted hnow, level_of_halted (hend.halted hnow),
      hend.issued hnow⟩

/-- A tuple that expires at 100. -/
def smallTuple : AutonomyTuple where
  digest := .genesis
  expiresAt := 100

def smallHandoff : M7AutonomyBridge where
  bundles := [⟨.genesis, _, rfl⟩]
  outcomes := [⟨.genesis, .genesis, .mergedAccepted⟩]
  bundles_ne := List.cons_ne_nil _ _
  bundles_le := by decide
  same_bundles := List.Perm.refl _

/-- A cohort of one task. -/
def smallCohort : CohortEvidence where
  digest := .genesis
  autonomyTuple := smallTuple
  tasks := [⟨5, .genesis, true, true, 1000000, 0, 0, 0, 1, 1, 0,
    fun _ => rfl⟩]
  m7Handoff := smallHandoff
  windowStartedAt := 0
  windowEndedAt := 10
  minimumHumanAcceptances := 30
  minimumAuditRateMillionths := 200000
  minimumQualityScoreMillionths := 0
  maximumSecurityFailures := 0
  maximumAuthorizationFailures := 0
  maximumDuplicateDispatches := 0
  maximumCostUsdMicros := 10
  maximumLatencyMs := 10
  maximumDemotionTriggers := 0
  tasks_ne := List.cons_ne_nil _ _
  tasks_le := by decide
  linked := by
    intro task htask
    rw [List.mem_singleton] at htask
    rw [htask]
    exact ⟨_, List.mem_cons_self, rfl⟩
  window := by decide
  in_window := by
    intro task htask
    rw [List.mem_singleton] at htask
    rw [htask]
    decide
  zero_tolerance := by decide

/-- Evaluated, demoted and evaluated again. -/
theorem promoted_at_most_once_demoted : ∃ h,
    Run.run (step (fun _ => .genesis) smallTuple) (start 0)
        [.evaluate smallCohort 10, .demote {"rollback"} 11,
          .evaluate smallCohort 12] = some h
      ∧ h.halted = true ∧ h.activated.Nodup
      ∧ (∀ act h', step (fun _ => .genesis) smallTuple h act = some h' →
        h'.level.index ≤ h.level.index + 1)
      ∧ (h.halted = true → h.level = .l0 ∧ ∀ later h',
        Run.run (step (fun _ => .genesis) smallTuple) h later = some h' →
        h'.now < smallTuple.expiresAt →
        h'.halted = true ∧ h'.level = .l0
          ∧ ∃ new, h'.issued = new ++ h.issued
            ∧ ∀ r ∈ new, r.recommendedLevel = .l0) := by
  have hran : (Run.run (step (fun _ => .genesis) smallTuple) (start 0)
      [.evaluate smallCohort 10, .demote {"rollback"} 11,
        .evaluate smallCohort 12]).map History.halted = some true := by
    decide +kernel
  obtain ⟨h, hrun, hhalted⟩ := Option.map_eq_some_iff.mp hran
  exact ⟨h, hrun, hhalted,
    promoted_at_most_once (fun _ => .genesis) smallTuple 0 _ h hrun⟩

end History

end Exolon.Factory
