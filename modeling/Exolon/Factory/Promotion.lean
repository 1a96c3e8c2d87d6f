/-
When an evaluation recommends a promotion.

`CohortGates` says of a cohort what the gates of its evaluation ask for, each
in the words of the evidence and not of the profile that is computed from it.
The profile loses nothing that a gate needs: a sum that is capped is zero as
the sum is, the least quality is within a bound as all are, and a nearest
rank counts. So the gates are open exactly as `CohortGates` says
(`gateReason_eq_none_iff`), and what an evaluation answers passes its two
validators (`evaluates`).

A hand-off of the current version is always blocked, and then the first of
its gates is the reason for a cohort that meets all the others
(`promotes_iff`, the last part).
-/
import Exolon.Factory.Autonomy
import Exolon.Lib.Rank

namespace Exolon.Factory

-- ============================================================== the cohort

/-- What `CohortTaskEvidenceV1` and `CohortEvidenceV1` check beside the
relations that are fields of the evidence. -/
structure CohortEvidence.Checked (cohort : CohortEvidence) : Prop where
  qualities : ∀ task ∈ cohort.tasks, task.qualityScoreMillionths ≤ 1000000
  counts : ∀ task ∈ cohort.tasks, task.securityFailureCount ≤ maxCount
    ∧ task.authorizationFailureCount ≤ maxCount
    ∧ task.duplicateDispatchCount ≤ maxCount
    ∧ task.demotionTriggerCount ≤ maxCount
  costs : ∀ task ∈ cohort.tasks, task.costUsdMicros ≤ maxCostUsdMicros
  latencies : ∀ task ∈ cohort.tasks, task.latencyMs ≤ maxLatencyMs
  outcomes : (cohort.tasks.map CohortTaskEvidence.m7OutcomeDigest).Nodup
    ∧ cohort.tasks.length = cohort.m7Handoff.outcomes.length
  acceptances : 30 ≤ cohort.minimumHumanAcceptances
    ∧ cohort.minimumHumanAcceptances ≤ maxCohortTasks
  auditRate : 200000 ≤ cohort.minimumAuditRateMillionths
    ∧ cohort.minimumAuditRateMillionths ≤ 1000000
  quality : cohort.minimumQualityScoreMillionths ≤ 1000000
  cost : cohort.maximumCostUsdMicros ≤ maxCostUsdMicros
  latency : cohort.maximumLatencyMs ≤ maxLatencyMs

/-- The outcome of the task was merged and accepted. -/
def CohortEvidence.Accepted (cohort : CohortEvidence)
    (task : CohortTaskEvidence) : Prop :=
  ∃ outcome ∈ cohort.m7Handoff.outcomes,
    outcome.digest = task.m7OutcomeDigest
      ∧ outcome.humanDecision = .mergedAccepted

instance (cohort : CohortEvidence) (task : CohortTaskEvidence) :
    Decidable (cohort.Accepted task) := by
  unfold CohortEvidence.Accepted
  infer_instance

/-- What the gates ask of a cohort. -/
structure CohortGates (cohort : CohortEvidence) : Prop where
  accepted : ∀ outcome ∈ cohort.m7Handoff.outcomes,
    outcome.humanDecision = .mergedAccepted
  enough : cohort.minimumHumanAcceptances
    ≤ cohort.tasks.countP fun task => cohort.Accepted task
  audited : (cohort.minimumAuditRateMillionths : ℚ) / 1000000
    ≤ (cohort.tasks.countP CohortTaskEvidence.auditSampled : ℚ)
      / cohort.tasks.length
  everyDay : ∀ task ∈ cohort.tasks, ∃ other ∈ cohort.tasks,
    other.auditSampled ∧ day other.observedAt = day task.observedAt
  auditsAccepted : ∀ task ∈ cohort.tasks,
    task.auditSampled → task.auditAccepted
  quality : ∀ task ∈ cohort.tasks,
    cohort.minimumQualityScoreMillionths ≤ task.qualityScoreMillionths
  cost : ∀ task ∈ cohort.tasks,
    task.costUsdMicros ≤ cohort.maximumCostUsdMicros
  latency : Rank.nearestRank 95 (cohort.tasks.map CohortTaskEvidence.latencyMs)
    0 ≤ cohort.maximumLatencyMs
  security : (cohort.tasks.map
    CohortTaskEvidence.securityFailureCount).sum = 0
  authorization : (cohort.tasks.map
    CohortTaskEvidence.authorizationFailureCount).sum = 0
  duplicates : (cohort.tasks.map
    CohortTaskEvidence.duplicateDispatchCount).sum = 0
  demotions : (cohort.tasks.map
    CohortTaskEvidence.demotionTriggerCount).sum = 0

/-- The hand-off is not blocked, accepted and current. -/
structure M7AutonomyBridge.Open (handoff : M7AutonomyBridge) : Prop where
  unblocked : ∀ bundle ∈ handoff.bundles,
    bundle.status ≠ "blocked_pending_durable_lookup"
  accepted : handoff.externalAcceptanceAvailable = true
  current : handoff.currentnessAvailable = true

/-- Neither the time nor the profile keeps the cohort from promoting. -/
structure Unbarred (cohort : CohortEvidence)
    (existing : Option AutonomyProfile) (time : Int) : Prop where
  current : time < cohort.autonomyTuple.expiresAt
  unhalted : ∀ p ∈ existing, p.halted = false
  fresh : ∀ p ∈ existing, p.cohortDigest ≠ cohort.digest

section Cohort

variable {cohort : CohortEvidence}

/-- Every outcome is the one of a task, and no two have one digest. -/
theorem outcomes_perm (hchecked : cohort.Checked) :
    (cohort.m7Handoff.outcomes.map ShadowOutcome.digest).Perm
      (cohort.tasks.map CohortTaskEvidence.m7OutcomeDigest) := by
  have hsubset : cohort.tasks.map CohortTaskEvidence.m7OutcomeDigest
      ⊆ cohort.m7Handoff.outcomes.map ShadowOutcome.digest := by
    intro digest hdigest
    obtain ⟨task, htask, rfl⟩ := List.mem_map.mp hdigest
    obtain ⟨outcome, hmem, hlink⟩ := cohort.linked task htask
    exact List.mem_map.mpr ⟨outcome, hmem, hlink⟩
  have hsub := List.subperm_of_subset hchecked.outcomes.1 hsubset
  have hlength : (cohort.m7Handoff.outcomes.map ShadowOutcome.digest).length
      ≤ (cohort.tasks.map CohortTaskEvidence.m7OutcomeDigest).length := by
    rw [List.length_map, List.length_map, hchecked.outcomes.2]
  exact (hsub.perm_of_length_le hlength).symm

theorem outcomeOf_eq (hchecked : cohort.Checked) {task : CohortTaskEvidence}
    {outcome : ShadowOutcome} (hmem : outcome ∈ cohort.m7Handoff.outcomes)
    (hlink : outcome.digest = task.m7OutcomeDigest) :
    cohort.outcomeOf task = some outcome := by
  have hnodup : (cohort.m7Handoff.outcomes.map ShadowOutcome.digest).Nodup :=
    (outcomes_perm hchecked).nodup_iff.mpr hchecked.outcomes.1
  unfold CohortEvidence.outcomeOf
  cases hfound : cohort.m7Handoff.outcomes.reverse.find? _ with
  | none =>
      have hno := List.find?_eq_none.mp hfound outcome
        (List.mem_reverse.mpr hmem)
      exact absurd (decide_eq_true hlink) hno
  | some other =>
      have hp := List.find?_some hfound
      have hother := List.mem_reverse.mp (List.mem_of_find?_eq_some hfound)
      have hdigest := of_decide_eq_true hp
      rw [List.inj_on_of_nodup_map hnodup hother hmem
        (hdigest.trans hlink.symm)]

theorem isAccepted_iff (hchecked : cohort.Checked) {task : CohortTaskEvidence}
    (htask : task ∈ cohort.tasks) :
    cohort.isAccepted task = true ↔ cohort.Accepted task := by
  obtain ⟨outcome, hmem, hlink⟩ := cohort.linked task htask
  unfold CohortEvidence.isAccepted
  rw [outcomeOf_eq hchecked hmem hlink, decide_eq_true_eq]
  constructor
  · intro haccepted
    exact ⟨outcome, hmem, hlink, Option.some.inj haccepted⟩
  · intro haccepted
    obtain ⟨other, hother, hlink', haccepted⟩ := haccepted
    have hsame := (outcomeOf_eq hchecked hmem hlink).symm.trans
      (outcomeOf_eq hchecked hother hlink')
    rw [Option.some.inj hsame]
    exact congrArg some haccepted

/-- All tasks are accepted where all outcomes are. -/
theorem all_accepted_iff (hchecked : cohort.Checked) :
    (∀ task ∈ cohort.tasks, cohort.isAccepted task = true)
      ↔ ∀ outcome ∈ cohort.m7Handoff.outcomes,
        outcome.humanDecision = .mergedAccepted := by
  constructor
  · intro hall outcome hmem
    have hdigest : outcome.digest
        ∈ cohort.tasks.map CohortTaskEvidence.m7OutcomeDigest :=
      (outcomes_perm hchecked).mem_iff.mp (List.mem_map_of_mem hmem)
    obtain ⟨task, htask, hlink⟩ := List.mem_map.mp hdigest
    have haccepted := hall task htask
    unfold CohortEvidence.isAccepted at haccepted
    rw [outcomeOf_eq hchecked hmem hlink.symm, decide_eq_true_eq]
      at haccepted
    exact Option.some.inj haccepted
  · intro hall task htask
    obtain ⟨outcome, hmem, hlink⟩ := cohort.linked task htask
    exact (isAccepted_iff hchecked htask).mpr
      ⟨outcome, hmem, hlink, hall outcome hmem⟩

-- ============================================================== the gates

theorem boundedSum_pos {values : List Nat} :
    0 < boundedSum values ↔ values.sum ≠ 0 := by
  unfold boundedSum maxCount
  omega

theorem nearestRankP95_eq (values : List Nat) :
    nearestRankP95 values = Rank.nearestRank 95 values 0 := by
  unfold nearestRankP95 Rank.nearestRank Rank.ranked
  dsimp only
  rw [List.length_insertionSort]

/-- The least value is below a bound where one is. -/
theorem min_lt_iff {values : List Nat} {bound : Nat} (hne : values ≠ []) :
    values.min?.getD 0 < bound ↔ ¬ ∀ v ∈ values, bound ≤ v := by
  cases hmin : values.min? with
  | none => exact absurd (List.min?_eq_none_iff.mp hmin) hne
  | some least =>
      obtain ⟨hmem, hleast⟩ := List.min?_eq_some_iff.mp hmin
      rw [Option.getD_some, ← Nat.not_le]
      apply not_congr
      constructor
      · intro hbound v hv
        exact hbound.trans (hleast v hv)
      · intro hall
        exact hall least hmem

theorem lt_max_iff {values : List Nat} {bound : Nat} (hne : values ≠ []) :
    bound < values.max?.getD 0 ↔ ¬ ∀ v ∈ values, v ≤ bound := by
  cases hmax : values.max? with
  | none => exact absurd (List.max?_eq_none_iff.mp hmax) hne
  | some greatest =>
      obtain ⟨hmem, hgreatest⟩ := List.max?_eq_some_iff.mp hmax
      rw [Option.getD_some, ← Nat.not_le]
      apply not_congr
      constructor
      · intro hbound v hv
        exact (hgreatest v hv).trans hbound
      · intro hall
        exact hall greatest hmem

/-- Of two conditions one implies the other; as many values meet one as meet
the other where they are the same values. -/
theorem countP_eq_iff {α : Type} {p q : α → Bool} {l : List α}
    (hpq : ∀ a ∈ l, p a → q a) :
    l.countP p = l.countP q ↔ ∀ a ∈ l, q a → p a := by
  induction l with
  | nil => simp
  | cons a l ih =>
      have htail : ∀ b ∈ l, p b → q b := fun b hb =>
        hpq b (List.mem_cons_of_mem a hb)
      have hle := List.countP_mono_left htail
      rw [List.forall_mem_cons, ← ih htail, List.countP_cons, List.countP_cons]
      have hhead := hpq a List.mem_cons_self
      cases hp : p a <;> cases hq : q a
      · simp
      · simp only [Bool.false_eq_true, if_false, if_true, forall_const,
          false_and, iff_false]
        omega
      · rw [hp, hq] at hhead
        exact absurd (hhead rfl) Bool.false_ne_true
      · simp

theorem audit_rate_iff {sampled tasks rate : Nat} (htasks : 0 < tasks) :
    sampled * 1000000 < tasks * rate
      ↔ ¬ (rate : ℚ) / 1000000 ≤ (sampled : ℚ) / tasks := by
  have htasks' : (0 : ℚ) < tasks := by exact_mod_cast htasks
  rw [div_le_div_iff₀ (by norm_num) htasks', not_le, ← Nat.cast_mul]
  constructor
  · intro h
    have hcast : ((sampled * 1000000 : ℕ) : ℚ) < ((tasks * rate : ℕ) : ℚ) := by
      exact_mod_cast h
    rw [Nat.mul_comm rate]
    exact_mod_cast hcast
  · intro h
    rw [Nat.mul_comm tasks]
    exact_mod_cast h

/-- The gates of the cohort's own evidence, and those of its hand-off. -/
theorem gateChecks_eq (cohort : CohortEvidence) (p : AutonomyProfile) :
    gateChecks cohort p
      = (gateChecks cohort p).take 12 ++ (gateChecks cohort p).drop 12 :=
  (List.take_append_drop 12 _).symm

/-- The fields of the profile a cohort has. -/
def cohortFields (cohort : CohortEvidence) (currentLevel : Level)
    (halted : Bool) : ProfileFields where
  tupleDigest := cohort.autonomyTuple.digest
  cohortDigest := cohort.digest
  currentLevel := currentLevel
  acceptedTaskCount := cohort.tasks.countP cohort.isAccepted
  auditSampleCount := cohort.tasks.countP CohortTaskEvidence.auditSampled
  auditAcceptedCount := cohort.tasks.countP CohortTaskEvidence.auditAccepted
  minimumQualityScoreMillionths :=
    (cohort.tasks.map CohortTaskEvidence.qualityScoreMillionths).min?.getD 0
  totalSecurityFailures :=
    boundedSum (cohort.tasks.map CohortTaskEvidence.securityFailureCount)
  totalAuthorizationFailures :=
    boundedSum (cohort.tasks.map CohortTaskEvidence.authorizationFailureCount)
  totalDuplicateDispatches :=
    boundedSum (cohort.tasks.map CohortTaskEvidence.duplicateDispatchCount)
  maximumCostUsdMicros :=
    (cohort.tasks.map CohortTaskEvidence.costUsdMicros).max?.getD 0
  p95LatencyMs :=
    nearestRankP95 (cohort.tasks.map CohortTaskEvidence.latencyMs)
  totalDemotionTriggers :=
    boundedSum (cohort.tasks.map CohortTaskEvidence.demotionTriggerCount)
  expiresAt := cohort.autonomyTuple.expiresAt
  halted := halted

theorem everyDaySampled_iff {tasks : List CohortTaskEvidence} :
    (!everyDaySampled tasks) = false ↔ ∀ task ∈ tasks, ∃ other ∈ tasks,
      other.auditSampled ∧ day other.observedAt = day task.observedAt := by
  unfold everyDaySampled
  simp only [Bool.not_eq_false', List.all_eq_true, List.any_eq_true,
    Bool.and_eq_true, decide_eq_true_eq]

theorem any_not_accepted_iff (hchecked : cohort.Checked) :
    (cohort.tasks.any fun task => !cohort.isAccepted task) = false
      ↔ ∀ outcome ∈ cohort.m7Handoff.outcomes,
        outcome.humanDecision = .mergedAccepted := by
  rw [← all_accepted_iff hchecked]
  simp only [List.any_eq_false, Bool.not_eq_true, Bool.not_eq_false']

theorem countP_accepted (hchecked : cohort.Checked) :
    cohort.tasks.countP cohort.isAccepted
      = cohort.tasks.countP fun task => cohort.Accepted task := by
  apply List.countP_congr
  intro task htask
  rw [isAccepted_iff hchecked htask, decide_eq_true_eq]

/-- As many audits were accepted as were sampled where all sampled were. -/
theorem audits_accepted_iff (cohort : CohortEvidence) :
    cohort.tasks.countP CohortTaskEvidence.auditAccepted
        = cohort.tasks.countP CohortTaskEvidence.auditSampled
      ↔ ∀ task ∈ cohort.tasks, task.auditSampled → task.auditAccepted :=
  countP_eq_iff fun task _ haccepted => task.audit haccepted

/-- No check of the cohort's own evidence fails where its gates are open. -/
theorem cohortChecks_iff (hchecked : cohort.Checked) {p : AutonomyProfile}
    {level : Level} {halted : Bool}
    (hp : p.toProfileFields = cohortFields cohort level halted) :
    (∀ c ∈ (gateChecks cohort p).take 12, c.1 = false)
      ↔ CohortGates cohort := by
  have hne : ∀ {β : Type} (f : CohortTaskEvidence → β),
      cohort.tasks.map f ≠ [] := fun f hnil =>
    cohort.tasks_ne (List.map_eq_nil_iff.mp hnil)
  have htasks : 0 < cohort.tasks.length :=
    List.length_pos_iff.mpr cohort.tasks_ne
  obtain ⟨hsecurity, hauthorization, hduplicates, hdemotions⟩ :=
    cohort.zero_tolerance
  unfold gateChecks
  rw [hp, hsecurity, hauthorization, hduplicates, hdemotions]
  simp only [List.take_succ_cons, List.take_zero, List.forall_mem_cons,
    cohortFields, decide_eq_false_iff_not, boundedSum_pos, nearestRankP95_eq,
    min_lt_iff (hne _), lt_max_iff (hne _), audit_rate_iff htasks,
    any_not_accepted_iff hchecked, countP_accepted hchecked,
    everyDaySampled_iff, audits_accepted_iff, Decidable.not_not, Nat.not_lt,
    ne_eq, List.forall_mem_map, List.not_mem_nil, false_implies,
    implies_true, and_true]
  constructor
  · rintro ⟨haccepted, henough, haudited, hday, haudits, hquality, hsecurity,
      hauthorization, hduplicates, hcost, hlatency, hdemotions⟩
    exact ⟨haccepted, henough, haudited, hday, haudits, hquality, hcost,
      hlatency, hsecurity, hauthorization, hduplicates, hdemotions⟩
  · intro h
    exact ⟨h.accepted, h.enough, h.audited, h.everyDay, h.auditsAccepted,
      h.quality, h.security, h.authorization, h.duplicates, h.cost, h.latency,
      h.demotions⟩

/-- The checks of the hand-off. -/
theorem handoffChecks_iff {p : AutonomyProfile} :
    (∀ c ∈ (gateChecks cohort p).drop 12, c.1 = false)
      ↔ cohort.m7Handoff.Open := by
  unfold gateChecks
  simp only [List.drop_succ_cons, List.drop_zero, List.forall_mem_cons,
    List.any_eq_false, decide_eq_true_eq, Bool.not_eq_false',
    List.not_mem_nil, false_implies, implies_true, and_true]
  constructor
  · rintro ⟨hunblocked, haccepted, hcurrent⟩
    exact ⟨hunblocked, haccepted, hcurrent⟩
  · intro h
    exact ⟨h.unblocked, h.accepted, h.current⟩

/-- The reasons of the cohort's own checks are not those of its hand-off,
nor of anything else. -/
theorem reason_of_mem {p : AutonomyProfile} {c : Bool × Reason}
    (hmem : c ∈ (gateChecks cohort p).take 12) :
    c.2 ≠ .m7BundleBlocked ∧ c.2 ≠ .tupleExpired := by
  have hreason : c.2 ∈ ((gateChecks cohort p).take 12).map Prod.snd :=
    List.mem_map_of_mem hmem
  constructor
  · intro heq
    rw [heq] at hreason
    simp [gateChecks] at hreason
  · intro heq
    rw [heq] at hreason
    simp [gateChecks] at hreason

theorem gateReason_ne_expired {p : AutonomyProfile} {reason : Reason}
    (h : cohortGateReason cohort p = some reason) :
    reason ≠ .tupleExpired := by
  obtain ⟨check, hfound, hcheck⟩ := Option.map_eq_some_iff.mp h
  have hmem : reason ∈ (gateChecks cohort p).map Prod.snd := by
    rw [← hcheck]
    exact List.mem_map_of_mem (List.mem_of_find?_eq_some hfound)
  intro heq
  rw [heq] at hmem
  simp [gateChecks] at hmem

/-- There is no reason against a promotion where every gate is open. -/
theorem gateReason_eq_none_iff (hchecked : cohort.Checked)
    {p : AutonomyProfile} {level : Level} {halted : Bool}
    (hp : p.toProfileFields = cohortFields cohort level halted) :
    cohortGateReason cohort p = none
      ↔ CohortGates cohort ∧ cohort.m7Handoff.Open := by
  rw [← cohortChecks_iff hchecked hp, ← handoffChecks_iff (p := p)]
  unfold cohortGateReason
  rw [Option.map_eq_none_iff, gateChecks_eq, List.find?_append,
    Option.or_eq_none_iff, ← gateChecks_eq, List.find?_eq_none,
    List.find?_eq_none]
  simp only [Bool.not_eq_true]

/-- The blocked bundle is the reason where the cohort's own gates are
open. -/
theorem gateReason_blocked_iff (hchecked : cohort.Checked)
    {p : AutonomyProfile} {level : Level} {halted : Bool}
    (hp : p.toProfileFields = cohortFields cohort level halted) :
    cohortGateReason cohort p = some .m7BundleBlocked
      ↔ CohortGates cohort := by
  have hblocked : (cohort.m7Handoff.bundles.any fun bundle =>
      bundle.status = "blocked_pending_durable_lookup") = true := by
    obtain ⟨bundle, hbundle⟩ :=
      List.exists_mem_of_ne_nil _ cohort.m7Handoff.bundles_ne
    exact List.any_eq_true.mpr
      ⟨bundle, hbundle, decide_eq_true bundle.status_eq⟩
  have hhead : ((gateChecks cohort p).drop 12).find? Prod.fst
      = some (true, .m7BundleBlocked) := by
    unfold gateChecks
    rw [hblocked]
    rfl
  rw [← cohortChecks_iff hchecked hp]
  unfold cohortGateReason
  rw [gateChecks_eq, List.find?_append, hhead, ← gateChecks_eq]
  cases hfound : ((gateChecks cohort p).take 12).find? Prod.fst with
  | none =>
      apply iff_of_true rfl
      intro c hc
      exact Bool.not_eq_true _ ▸ List.find?_eq_none.mp hfound c hc
  | some check =>
      have hmem := List.mem_of_find?_eq_some hfound
      have hfails := List.find?_some hfound
      apply iff_of_false
      · intro hreason
        exact (reason_of_mem hmem).1 (Option.some.inj hreason)
      · intro hall
        exact Bool.false_ne_true ((hall check hmem).symm.trans hfails)

-- ========================================================= the validators

theorem inRange_ok {value maximum : Nat} {name : String}
    (h : value ≤ maximum) : inRange value maximum name = .ok () := by
  unfold inRange
  rw [refuse_ok, decide_eq_false_iff_not]
  omega

theorem AutonomyProfile.make_of_checked {fields : ProfileFields}
    (h : fields.postInit = .ok ()) :
    ∃ p, AutonomyProfile.make fields = .ok p ∧ p.toProfileFields = fields := by
  refine ⟨⟨fields, h⟩, ?_, rfl⟩
  unfold make
  split
  · rfl
  · rename_i hfails
    rw [h] at hfails
    cases hfails

theorem min_le_of_all {values : List Nat} {bound : Nat}
    (h : ∀ v ∈ values, v ≤ bound) : values.min?.getD 0 ≤ bound := by
  cases hmin : values.min? with
  | none => exact Nat.zero_le _
  | some least => exact h least (List.min?_eq_some_iff.mp hmin).1

theorem max_le_of_all {values : List Nat} {bound : Nat}
    (h : ∀ v ∈ values, v ≤ bound) : values.max?.getD 0 ≤ bound := by
  cases hmax : values.max? with
  | none => exact Nat.zero_le _
  | some greatest => exact h greatest (List.max?_eq_some_iff.mp hmax).1

theorem p95_le_of_all {values : List Nat} {bound : Nat} (hne : values ≠ [])
    (h : ∀ v ∈ values, v ≤ bound) : nearestRankP95 values ≤ bound := by
  rw [nearestRankP95_eq, Rank.nearestRank_le_iff hne (by omega)]
  have hall : values.countP (· ≤ bound) = values.length :=
    List.countP_eq_length.mpr fun v hv => decide_eq_true (h v hv)
  rw [hall]
  omega

/-- The profile of a cohort passes its own validator. -/
theorem cohortProfile_ok (hchecked : cohort.Checked) {level : Level}
    {halted : Bool} (hhalted : halted = true → level = .l0) :
    ∃ p, cohortProfile cohort level halted = .ok p
      ∧ p.toProfileFields = cohortFields cohort level halted := by
  have hcount : ∀ q : CohortTaskEvidence → Bool,
      cohort.tasks.countP q ≤ maxCount := by
    intro q
    calc cohort.tasks.countP q ≤ cohort.tasks.length :=
          List.countP_le_length
      _ ≤ maxCohortTasks := cohort.tasks_le
      _ ≤ maxCount := by decide
  have hsum : ∀ values, boundedSum values ≤ maxCount := fun values =>
    Nat.min_le_right _ _
  have haudits : cohort.tasks.countP CohortTaskEvidence.auditAccepted
      ≤ cohort.tasks.countP CohortTaskEvidence.auditSampled :=
    List.countP_mono_left fun task _ => task.audit
  have hquality : ∀ v ∈
      cohort.tasks.map CohortTaskEvidence.qualityScoreMillionths,
      v ≤ 1000000 := List.forall_mem_map.mpr hchecked.qualities
  have hcost : ∀ v ∈ cohort.tasks.map CohortTaskEvidence.costUsdMicros,
      v ≤ maxCostUsdMicros := List.forall_mem_map.mpr hchecked.costs
  have hlatency : ∀ v ∈ cohort.tasks.map CohortTaskEvidence.latencyMs,
      v ≤ maxLatencyMs := List.forall_mem_map.mpr hchecked.latencies
  have hne : cohort.tasks.map CohortTaskEvidence.latencyMs ≠ [] := fun hnil =>
    cohort.tasks_ne (List.map_eq_nil_iff.mp hnil)
  have hlevel : (halted && decide (level ≠ .l0)) = false := by
    cases halted with
    | false => rfl
    | true =>
        rw [hhalted rfl]
        rfl
  apply AutonomyProfile.make_of_checked
  unfold ProfileFields.postInit
  simp only [bind_ok]
  exact ⟨(), inRange_ok (hcount _), (), inRange_ok (hcount _),
    (), inRange_ok (hcount _), (), inRange_ok (hsum _),
    (), inRange_ok (hsum _), (), inRange_ok (hsum _),
    (), inRange_ok (hsum _),
    (), refuse_ok.mpr (decide_eq_false (Nat.not_lt.mpr haudits)),
    (), inRange_ok (min_le_of_all hquality),
    (), inRange_ok (max_le_of_all hcost),
    (), inRange_ok (p95_le_of_all hne hlatency), refuse_ok.mpr hlevel⟩

/-- What keeps an evaluation from promoting, if anything does. -/
def refusal (cohort : CohortEvidence) (existing : Option AutonomyProfile)
    (time : Int) (p : AutonomyProfile) : Option Reason :=
  let expired : Bool := cohort.autonomyTuple.expiresAt ≤ time
  let reason := cohortReason cohort existing expired
    ((existing.map (·.halted)).getD false && !expired) p
  if reason = none
      ∧ levelAt cohort existing time = cohort.autonomyTuple.authorityCeiling
  then some .alreadyAtCeiling else reason

/-- The recommendation of an evaluation. -/
def recommendation (cohort : CohortEvidence)
    (existing : Option AutonomyProfile) (time : Int) (p : AutonomyProfile) :
    PromotionRecommendation :=
  let level := levelAt cohort existing time
  let reason := refusal cohort existing time p
  { tupleDigest := cohort.autonomyTuple.digest
    cohortDigest := cohort.digest
    currentLevel := level
    recommendedLevel := match reason with
      | none => (level.next?).getD level
      | some _ => level
    reasonCode := reason.getD .qualified
    evaluatedAt := time
    expiresAt := cohort.autonomyTuple.expiresAt }

/-- The refusals in their order. The ceiling is the last of them: it is
asked for where the gates give no reason. -/
theorem refusal_eq {existing : Option AutonomyProfile} {time : Int}
    {p : AutonomyProfile} :
    refusal cohort existing time p
      = if cohort.autonomyTuple.expiresAt ≤ time then some .tupleExpired
        else if (existing.map (·.halted)).getD false then some .haltedProfile
        else if existing.map (·.cohortDigest) = some cohort.digest then
          some .cohortReplay
        else (cohortGateReason cohort p).or
          (if levelAt cohort existing time = .l2 then some .alreadyAtCeiling
            else none) := by
  unfold refusal cohortReason
  rw [cohort.autonomyTuple.ceiling_eq]
  by_cases hexpired : cohort.autonomyTuple.expiresAt ≤ time
  · simp only [hexpired, decide_true, if_true, reduceCtorEq, false_and,
      if_false]
  · simp only [hexpired, decide_false, Bool.false_eq_true, if_false,
      Bool.not_false, Bool.and_true]
    by_cases hhalted : (existing.map (·.halted)).getD false = true
    · simp only [hhalted, if_true, reduceCtorEq, false_and, if_false]
    · simp only [hhalted]
      by_cases hreplay : existing.map (·.cohortDigest) = some cohort.digest
      · simp only [hreplay, if_true, reduceCtorEq, false_and, if_false]
      · simp only [hreplay, if_false]
        cases cohortGateReason cohort p with
        | none => simp
        | some reason => simp

/-- It is for time that a recommendation says that the tuple expired. -/
theorem refusal_expired_iff {existing : Option AutonomyProfile} {time : Int}
    {p : AutonomyProfile} :
    refusal cohort existing time p = some .tupleExpired
      ↔ cohort.autonomyTuple.expiresAt ≤ time := by
  rw [refusal_eq]
  by_cases hexpired : cohort.autonomyTuple.expiresAt ≤ time
  · rw [if_pos hexpired]
    exact iff_of_true rfl hexpired
  · rw [if_neg hexpired]
    refine iff_of_false ?_ hexpired
    split_ifs with hhalted hreplay hlevel
    · decide
    · decide
    · intro hreason
      rcases Option.or_eq_some_iff.mp hreason with hgate | ⟨_, hceiling⟩
      · exact gateReason_ne_expired hgate rfl
      · cases hceiling
    · intro hreason
      rw [Option.or_none] at hreason
      exact gateReason_ne_expired hreason rfl

theorem refusal_ne_qualified {existing : Option AutonomyProfile}
    {time : Int} {p : AutonomyProfile} :
    refusal cohort existing time p ≠ some .qualified := by
  rw [refusal_eq]
  split_ifs with hexpired hhalted hreplay hlevel
  · decide
  · decide
  · decide
  · intro hreason
    rcases Option.or_eq_some_iff.mp hreason with hgate | ⟨_, hceiling⟩
    · exact gateReason_ne hgate rfl
    · cases hceiling
  · intro hreason
    rw [Option.or_none] at hreason
    exact gateReason_ne hreason rfl

/-- Nothing is refused only below the ceiling. -/
theorem refusal_none_level {existing : Option AutonomyProfile} {time : Int}
    {p : AutonomyProfile} (hnone : refusal cohort existing time p = none) :
    levelAt cohort existing time ≠ .l2 := by
  intro hlevel
  rw [refusal_eq, if_pos hlevel] at hnone
  split_ifs at hnone
  rw [Option.or_eq_none_iff] at hnone
  cases hnone.2

theorem next_of_ne : ∀ {level : Level}, level ≠ .l2 → ∃ next,
    level.next? = some next ∧ next.index = level.index + 1
  | .l0, _ => ⟨.l1, rfl, rfl⟩
  | .l1, _ => ⟨.l2, rfl, rfl⟩
  | .l2, h => absurd rfl h

theorem next_ne_self (level : Level) : level.next? ≠ some level := by
  cases level <;> decide

/-- The recommendation passes its own validator. -/
theorem recommendation_ok {existing : Option AutonomyProfile} {time : Int}
    {p : AutonomyProfile} :
    (recommendation cohort existing time p).postInit = .ok () := by
  unfold PromotionRecommendation.postInit recommendation
  simp only [bind_ok, refuse_ok]
  have hiff : refusal cohort existing time p = some .tupleExpired
      ↔ cohort.autonomyTuple.expiresAt ≤ time := refusal_expired_iff
  cases hreason : refusal cohort existing time p with
  | none =>
      obtain ⟨next, hnext, hindex⟩ :=
        next_of_ne (refusal_none_level hreason)
      have hexpired : ¬ cohort.autonomyTuple.expiresAt ≤ time := by
        rw [← hiff, hreason]
        exact Option.some_ne_none _ ∘ Eq.symm
      simp [hnext, hindex, hexpired]
  | some reason =>
      have hqualified : reason ≠ .qualified := by
        intro heq
        rw [heq] at hreason
        exact refusal_ne_qualified hreason
      have hexpired : reason = .tupleExpired
          ↔ cohort.autonomyTuple.expiresAt ≤ time := by
        rw [← hiff, hreason, Option.some_inj]
      simp only [Option.getD_some, hqualified]
      by_cases heq : reason = .tupleExpired
      · have htime := hexpired.mp heq
        have hlevel : levelAt cohort existing time = .l0 := if_pos htime
        simp [heq, hlevel, not_lt.mpr htime]
      · have htime := mt hexpired.mpr heq
        simp [heq, not_le.mp htime]

/-- An evaluation answers, for any cohort and any profile of its tuple. -/
theorem evaluates (hchecked : cohort.Checked)
    {existing : Option AutonomyProfile} {time : Int}
    (hsame : ∀ p ∈ existing, p.tupleDigest = cohort.autonomyTuple.digest
      ∧ p.expiresAt = cohort.autonomyTuple.expiresAt)
    (htime : cohort.windowEndedAt ≤ time) :
    ∃ p halted, p.toProfileFields
        = cohortFields cohort (levelAt cohort existing time) halted
      ∧ evaluateAutonomy cohort existing time
        = .ok (p, recommendation cohort existing time p) := by
  have hexisting : checkExisting cohort existing = .ok () := by
    cases existing with
    | none => rfl
    | some p =>
        obtain ⟨htuple, hexpiry⟩ := hsame p rfl
        unfold checkExisting
        simp only [htuple, hexpiry, ne_eq, not_true_eq_false, if_false]
  have hlevel : (if decide (cohort.autonomyTuple.expiresAt ≤ time) = true
      then Level.l0 else (existing.map (·.currentLevel)).getD .l0)
      = levelAt cohort existing time := by
    unfold levelAt
    simp only [decide_eq_true_eq]
  have hhalted : ((existing.map (·.halted)).getD false
      && !decide (cohort.autonomyTuple.expiresAt ≤ time)) = true
      → levelAt cohort existing time = .l0 := by
    intro h
    rw [Bool.and_eq_true, Bool.not_eq_true', decide_eq_false_iff_not] at h
    unfold levelAt
    rw [if_neg h.2]
    cases existing with
    | none => rfl
    | some p => exact p.level_of_halted h.1
  obtain ⟨p, hprofile, hp⟩ := cohortProfile_ok hchecked hhalted
  refine ⟨p, _, hp, ?_⟩
  unfold evaluateAutonomy
  rw [bind_ok]
  refine ⟨(), refuse_ok.mpr (decide_eq_false (not_lt.mpr htime)), ?_⟩
  rw [bind_ok]
  refine ⟨(), hexisting, ?_⟩
  dsimp only
  rw [hlevel, bind_ok]
  refine ⟨p, hprofile, ?_⟩
  rw [bind_ok]
  exact ⟨(), recommendation_ok, rfl⟩

/-- Where nothing bars the cohort, its gates and the ceiling decide. -/
theorem refusal_of_unbarred {existing : Option AutonomyProfile} {time : Int}
    (hunbarred : Unbarred cohort existing time) (p : AutonomyProfile) :
    refusal cohort existing time p = (cohortGateReason cohort p).or
      (if levelAt cohort existing time = .l2 then some .alreadyAtCeiling
        else none) := by
  have hhalted : ¬ (existing.map (·.halted)).getD false = true := by
    cases existing with
    | none => exact Bool.false_ne_true
    | some q => exact Bool.not_eq_true _ ▸ hunbarred.unhalted q rfl
  have hreplay : ¬ existing.map (·.cohortDigest) = some cohort.digest := by
    cases existing with
    | none => exact Option.some_ne_none _ ∘ Eq.symm
    | some q =>
        intro heq
        exact hunbarred.fresh q rfl (Option.some.inj heq)
  rw [refusal_eq, if_neg (not_le.mpr hunbarred.current), if_neg hhalted,
    if_neg hreplay]

/-- Else the refusal is none of the gates'. -/
theorem refusal_of_barred {existing : Option AutonomyProfile} {time : Int}
    (hbarred : ¬ Unbarred cohort existing time) (p : AutonomyProfile) :
    refusal cohort existing time p = some .tupleExpired
      ∨ refusal cohort existing time p = some .haltedProfile
      ∨ refusal cohort existing time p = some .cohortReplay := by
  rw [refusal_eq]
  by_cases hexpired : cohort.autonomyTuple.expiresAt ≤ time
  · exact .inl (if_pos hexpired)
  · rw [if_neg hexpired]
    by_cases hhalted : (existing.map (·.halted)).getD false = true
    · exact .inr (.inl (if_pos hhalted))
    · rw [if_neg hhalted]
      by_cases hreplay : existing.map (·.cohortDigest) = some cohort.digest
      · exact .inr (.inr (if_pos hreplay))
      · apply absurd _ hbarred
        refine ⟨not_le.mp hexpired, ?_, ?_⟩
        · rintro q rfl
          exact Bool.not_eq_true _ ▸ hhalted
        · rintro q rfl
          exact hreplay ∘ congrArg some

/-- A recommendation goes one level up where nothing is refused. -/
theorem recommendation_advances_iff {existing : Option AutonomyProfile}
    {time : Int} {p : AutonomyProfile} :
    (recommendation cohort existing time p).currentLevel.next?
        = some (recommendation cohort existing time p).recommendedLevel
      ↔ refusal cohort existing time p = none := by
  unfold recommendation
  dsimp only
  cases hreason : refusal cohort existing time p with
  | none =>
      obtain ⟨next, hnext, _⟩ := next_of_ne (refusal_none_level hreason)
      simp [hnext]
  | some reason =>
      apply iff_of_false _ (Option.some_ne_none _)
      exact next_ne_self _

/-- A promotion is recommended exactly when every gate is open. The last part
says what becomes of a cohort that is stopped at its hand-off alone. -/
theorem promotes_iff (cohort : CohortEvidence)
    (existing : Option AutonomyProfile) (time : Int)
    (hchecked : cohort.Checked)
    (hsame : ∀ p ∈ existing, p.tupleDigest = cohort.autonomyTuple.digest
      ∧ p.expiresAt = cohort.autonomyTuple.expiresAt)
    (htime : cohort.windowEndedAt ≤ time) :
    ∃ p r, evaluateAutonomy cohort existing time = .ok (p, r)
      ∧ r.currentLevel = levelAt cohort existing time
      ∧ (r.currentLevel.next? = some r.recommendedLevel
        ↔ Unbarred cohort existing time ∧ r.currentLevel ≠ .l2
          ∧ CohortGates cohort ∧ cohort.m7Handoff.Open)
      ∧ (r.reasonCode = .m7BundleBlocked
        ↔ Unbarred cohort existing time ∧ CohortGates cohort) := by
  obtain ⟨p, halted, hp, hanswer⟩ := evaluates hchecked hsame htime
  refine ⟨p, _, hanswer, rfl, ?_, ?_⟩
  · rw [recommendation_advances_iff,
      ← gateReason_eq_none_iff hchecked hp]
    by_cases hunbarred : Unbarred cohort existing time
    · rw [refusal_of_unbarred hunbarred, Option.or_eq_none_iff]
      show _ ↔ _ ∧ levelAt cohort existing time ≠ .l2 ∧ _
      by_cases hlevel : levelAt cohort existing time = .l2
      · simp [hlevel]
      · simp [hlevel, hunbarred]
    · apply iff_of_false
      · intro hnone
        rcases refusal_of_barred hunbarred p with h | h | h <;>
          · rw [hnone] at h
            cases h
      · intro h
        exact hunbarred h.1
  · rw [← gateReason_blocked_iff hchecked hp]
    show (refusal cohort existing time p).getD .qualified = _ ↔ _
    by_cases hunbarred : Unbarred cohort existing time
    · rw [refusal_of_unbarred hunbarred]
      cases hgate : cohortGateReason cohort p with
      | none => exact absurd hgate (gate_closed cohort p)
      | some reason => simp [hunbarred]
    · apply iff_of_false
      · rcases refusal_of_barred hunbarred p with h | h | h <;>
          · rw [h]
            decide
      · intro h
        exact hunbarred h.1

end Cohort

/-- The digest that starts with two digits. -/
def numbered (n : Fin 30) : Digest where
  text := Nat.digitChar (n / 10) :: Nat.digitChar (n % 10)
    :: List.replicate 62 '0'
  length_eq := rfl
  hex := by
    revert n
    decide

theorem thirtyTasks_tolerance : 0 = 0 ∧ 0 = 0 ∧ 0 = 0 ∧ 0 = 0 := by decide

/-- Thirty tasks on two days that were all accepted and audited. -/
def thirtyTasks : CohortEvidence where
  digest := .genesis
  autonomyTuple := ⟨.genesis, .l2, 200000000000, rfl⟩
  tasks := (List.finRange 30).map fun n =>
    ⟨n.val * 5000000000, numbered n, true, true, 1000000, 0, 0, 0, 1, 1, 0,
      fun _ => rfl⟩
  m7Handoff := {
    bundles := (List.finRange 30).map fun n => ⟨numbered n, _, rfl⟩
    outcomes := (List.finRange 30).map fun n =>
      ⟨numbered n, numbered n, .mergedAccepted⟩
    bundles_ne := by decide
    bundles_le := by decide
    same_bundles := by
      rw [List.map_map, List.map_map]
      exact List.Perm.refl _ }
  windowStartedAt := 0 - 1
  windowEndedAt := 172800000000
  minimumHumanAcceptances := 30
  minimumAuditRateMillionths := 200000
  minimumQualityScoreMillionths := 900000
  maximumSecurityFailures := 0
  maximumAuthorizationFailures := 0
  maximumDuplicateDispatches := 0
  maximumCostUsdMicros := 10
  maximumLatencyMs := 10
  maximumDemotionTriggers := 0
  tasks_ne := by decide
  tasks_le := by decide
  linked := by
    rw [List.forall_mem_map]
    intro n hn
    exact ⟨_, List.mem_map_of_mem hn, rfl⟩
  window := by decide
  in_window := by decide
  zero_tolerance := thirtyTasks_tolerance

/-- All their gates are open, and they are stopped at the hand-off. -/
theorem promotes_iff_thirtyTasks :
    CohortGates thirtyTasks
    ∧ ∃ p r, evaluateAutonomy thirtyTasks none 172800000000 = .ok (p, r)
      ∧ r.currentLevel = levelAt thirtyTasks none 172800000000
      ∧ (r.currentLevel.next? = some r.recommendedLevel
        ↔ Unbarred thirtyTasks none 172800000000 ∧ r.currentLevel ≠ .l2
          ∧ CohortGates thirtyTasks ∧ thirtyTasks.m7Handoff.Open)
      ∧ (r.reasonCode = .m7BundleBlocked
        ↔ Unbarred thirtyTasks none 172800000000
          ∧ CohortGates thirtyTasks) := by
  refine ⟨by constructor <;> decide +kernel, ?_⟩
  apply promotes_iff thirtyTasks none 172800000000
  · constructor <;> decide +kernel
  · intro p hp
    cases hp
  · decide

end Exolon.Factory
