/-
The repair policy: when a writer may repair what a verdict found.

`planRepair` asks one thing after another and grants a directive when none
of them refuses. `repair_iff` reads all of them off the answer, whatever the
order; `History` is a series of grants in which each one's context and
findings become the priors of the next.
-/
import Exolon.Lib.Run
import Exolon.Semantic.Adjudication

namespace Exolon.Semantic.Review

open Factory (ContractError refuse refuse_ok bind_ok)

-- ============================================================ the policy

/-- `RISK_ORDER[level]`; `none` is no key of it. -/
def RiskLevel.order : RiskLevel → Except ContractError Nat
  | .none => .error ⟨"KeyError", "none"⟩
  | .low => .ok 0
  | .medium => .ok 1
  | .high => .ok 2
  | .critical => .ok 3

/-- What `plan_repair` is asked beside the subject and the verdict. -/
structure RepairArguments where
  requestedCycle : Int
  writerId : Text
  contextDigest : Text
  priorContextDigests : List Text
  priorFindingIdentityDigests : List Text
  expectedBaseSha : Text
  expectedArchitectureDigest : Text
  expectedAuthorityDigest : Text
  baselineRiskLevel : RiskLevel
  budgetRemainingUnits : Int
  deadlineRemainingSeconds : Int

/-- The decisions of a `RepairPolicyDecision`. -/
inductive PolicyDecision where
  | repair
  | needsHuman
  deriving DecidableEq

structure RepairPolicyDecision where
  decision : PolicyDecision
  reason : String
  directive : Option RepairDirectiveV1
  deriving DecidableEq

/-- `_human` -/
def human (reason : String) : RepairPolicyDecision :=
  ⟨.needsHuman, reason, none⟩

/-- `_digests` -/
def priorDigests (name : String) (values : List Text) :
    Except ContractError Unit := do
  refuse (maxItems < values.length || !isSortedUnique values) name
  values.forM (hexDigest name)

/-- `_remaining` -/
def remaining (name : String) (value : Int) : Except ContractError Unit :=
  refuse (value < 0) name

/-- The arguments that raise when they are malformed. -/
def RepairArguments.check (rt : Runtime) (args : RepairArguments) :
    Except ContractError Unit := do
  checkId rt "writer_id" args.writerId
  hexDigest "context_digest" args.contextDigest
  priorDigests "prior_context_digests" args.priorContextDigests
  priorDigests "prior_finding_identity_digests"
    args.priorFindingIdentityDigests
  hexSha "expected_base_sha" args.expectedBaseSha
  hexDigest "expected_architecture_digest" args.expectedArchitectureDigest
  hexDigest "expected_authority_digest" args.expectedAuthorityDigest
  refuse (args.baselineRiskLevel = .none) "baseline_risk_level"
  remaining "budget_remaining_units" args.budgetRemainingUnits
  remaining "deadline_remaining_seconds" args.deadlineRemainingSeconds

section

variable (rt : Runtime) (subject : SemanticSubjectV1)
  (verdict : SemanticVerdictV1) (args : RepairArguments)

/-- The risk of the subject is above the baseline. -/
def riskIncreased : Except ContractError Bool := do
  let risk ← subject.riskLevel.order
  let baseline ← args.baselineRiskLevel.order
  .ok (baseline < risk)

/-- What may refuse a repair, in the order it is asked. -/
def refusals : List (Except ContractError Bool × String) := [
  (.ok (args.writerId ≠ subject.originalWriterId),
    "original_writer_mismatch"),
  (.ok (args.requestedCycle ∉ [1, 2, 3]), "repair_cycle_out_of_bounds"),
  (.ok (verdict.findingIdentityDigests.any
      args.priorFindingIdentityDigests.contains), "finding_recurrence"),
  (riskIncreased subject args, "risk_increased"),
  (.ok (subject.diffLimit < subject.diffLines), "diff_limit_exceeded"),
  (.ok (subject.architectureDigest ≠ args.expectedArchitectureDigest),
    "architecture_changed"),
  (.ok (subject.authorityDigest ≠ args.expectedAuthorityDigest),
    "authority_changed"),
  (.ok (subject.exactBaseSha ≠ args.expectedBaseSha), "base_changed"),
  (.ok (args.budgetRemainingUnits = 0), "budget_exhausted"),
  (.ok (args.deadlineRemainingSeconds = 0), "deadline_exhausted"),
  (.ok (args.contextDigest = subject.originalWriterContextDigest
      || args.priorContextDigests.contains args.contextDigest),
    "context_not_fresh"),
  (.ok (verdict.decision ≠ .repair), "verdict_not_repair")]

/-- The reason of the first refusal, or what its test raises. -/
def firstRefusal :
    List (Except ContractError Bool × String) →
      Except ContractError (Option String)
  | [] => .ok none
  | (test, reason) :: rest => do
      let refused ← test
      if refused then .ok (some reason) else firstRefusal rest

/-- The directive that is granted. -/
def granted : RepairDirectiveV1 where
  subjectDigest := subject.digest rt
  verdictDigest := verdict.digest rt
  cycle := args.requestedCycle
  writerId := subject.originalWriterId
  contextDigest := args.contextDigest
  exactHeadSha := subject.exactHeadSha
  findingIdentityDigests := verdict.findingIdentityDigests

/-- The rest of `plan_repair`, for a verdict of the subject. -/
def planFor : Except ContractError RepairPolicyDecision := do
  args.check rt
  match ← firstRefusal (refusals subject verdict args) with
  | some reason => .ok (human reason)
  | none =>
      let directive ← (granted rt subject verdict args).fromDict rt
      .ok ⟨.repair, "repair_allowed", some directive⟩

/-- `plan_repair` -/
def planRepair : Except ContractError RepairPolicyDecision :=
  match verdict.validateFor rt subject with
  | .error e =>
      if e.code = "stale_semantic_evidence" then
        .ok (human "stale_semantic_evidence")
      else .error e
  | .ok () => planFor rt subject verdict args

/-- What is asked of a repair. -/
structure Grantable : Prop where
  belongs : verdict.subjectDigest = subject.digest rt
  decided : verdict.decision = .repair
  writer : args.writerId = subject.originalWriterId
  cycle : args.requestedCycle = 1 ∨ args.requestedCycle = 2
    ∨ args.requestedCycle = 3
  findings : ∀ identity ∈ verdict.findingIdentityDigests,
    identity ∉ args.priorFindingIdentityDigests
  risk : ∃ risk baseline, subject.riskLevel.order = .ok risk
    ∧ args.baselineRiskLevel.order = .ok baseline ∧ risk ≤ baseline
  diff : subject.diffLines ≤ subject.diffLimit
  architecture : subject.architectureDigest = args.expectedArchitectureDigest
  authority : subject.authorityDigest = args.expectedAuthorityDigest
  base : subject.exactBaseSha = args.expectedBaseSha
  budget : 0 < args.budgetRemainingUnits
  deadline : 0 < args.deadlineRemainingSeconds
  context : args.contextDigest ≠ subject.originalWriterContextDigest
    ∧ args.contextDigest ∉ args.priorContextDigests

end

-- ============================================================ one answer

section

variable {rt : Runtime} {subject : SemanticSubjectV1}
  {verdict : SemanticVerdictV1} {args : RepairArguments}

/-- No refusal where no test refuses. -/
theorem firstRefusal_none_iff
    {tests : List (Except ContractError Bool × String)} :
    firstRefusal tests = .ok none ↔ ∀ t ∈ tests, t.1 = .ok false := by
  induction tests with
  | nil => exact iff_of_true rfl fun t ht => absurd ht List.not_mem_nil
  | cons t rest ih =>
      obtain ⟨test, reason⟩ := t
      rw [List.forall_mem_cons, ← ih, firstRefusal]
      cases test with
      | error e =>
          apply iff_of_false
          · intro h
            cases h
          · intro h
            cases h.1
      | ok refused =>
          cases refused with
          | true =>
              apply iff_of_false
              · intro h
                cases h
              · intro h
                cases h.1
          | false => exact ⟨fun h => ⟨rfl, h⟩, fun h => h.2⟩

/-- An answer, where no test raises. -/
theorem firstRefusal_ok
    {tests : List (Except ContractError Bool × String)}
    (h : ∀ t ∈ tests, ∃ refused, t.1 = .ok refused) :
    ∃ answer, firstRefusal tests = .ok answer := by
  induction tests with
  | nil => exact ⟨none, rfl⟩
  | cons t rest ih =>
      obtain ⟨test, reason⟩ := t
      rw [List.forall_mem_cons] at h
      obtain ⟨⟨refused, rfl⟩, hrest⟩ := h
      obtain ⟨answer, hanswer⟩ := ih hrest
      cases refused with
      | true => exact ⟨some reason, rfl⟩
      | false => exact ⟨answer, hanswer⟩

theorem RiskLevel.order_ok {level : RiskLevel} (h : level ≠ .none) :
    ∃ n, level.order = .ok n := by
  cases level with
  | none => exact absurd rfl h
  | low => exact ⟨0, rfl⟩
  | medium => exact ⟨1, rfl⟩
  | high => exact ⟨2, rfl⟩
  | critical => exact ⟨3, rfl⟩

/-- The arguments are well formed. -/
structure RepairArguments.WellFormed (rt : Runtime) (args : RepairArguments) :
    Prop where
  writerId : rt.identifier args.writerId = true
  contextDigest : isHex 64 args.contextDigest = true
  priors : ∀ values ∈ [args.priorContextDigests,
    args.priorFindingIdentityDigests], values.length ≤ maxItems
      ∧ isSortedUnique values = true ∧ ∀ v ∈ values, isHex 64 v = true
  expectedBaseSha : isHex 40 args.expectedBaseSha = true
  expectedDigests : ∀ digest ∈ [args.expectedArchitectureDigest,
    args.expectedAuthorityDigest], isHex 64 digest = true
  baselineRiskLevel : args.baselineRiskLevel ≠ .none
  budget : 0 ≤ args.budgetRemainingUnits
  deadline : 0 ≤ args.deadlineRemainingSeconds

theorem hexDigest_ok {name : String} {t : Text} (h : isHex 64 t = true) :
    hexDigest name t = .ok () := by
  unfold hexDigest
  rw [refuse_ok, h]
  rfl

theorem hexSha_ok {name : String} {t : Text} (h : isHex 40 t = true) :
    hexSha name t = .ok () := by
  unfold hexSha
  rw [refuse_ok, h]
  rfl

theorem checkId_ok {name : String} {t : Text} (h : rt.identifier t = true) :
    checkId rt name t = .ok () := by
  unfold Runtime.identifier at h
  rw [Bool.and_eq_true] at h
  unfold checkId
  rw [bind_ok]
  refine ⟨(), refuse_ok.mpr ?_, refuse_ok.mpr ?_⟩
  · rw [h.1]
    rfl
  · rw [h.2]
    rfl

theorem priorDigests_ok {name : String} {values : List Text}
    (h : values.length ≤ maxItems ∧ isSortedUnique values = true
      ∧ ∀ v ∈ values, isHex 64 v = true) :
    priorDigests name values = .ok () := by
  unfold priorDigests
  rw [bind_ok]
  refine ⟨(), refuse_ok.mpr ?_, ?_⟩
  · rw [h.2.1, Bool.not_true, Bool.or_false, decide_eq_false_iff_not]
    omega
  · rw [forM_ok_iff]
    intro v hv
    exact hexDigest_ok (h.2.2 v hv)

/-- Arguments that are well formed raise nothing. -/
theorem check_ok (h : args.WellFormed rt) : args.check rt = .ok () := by
  have hpriors := h.priors
  have hexpected := h.expectedDigests
  simp only [List.forall_mem_cons, List.not_mem_nil, false_implies,
    implies_true, and_true] at hpriors hexpected
  unfold RepairArguments.check
  simp only [bind_ok]
  refine ⟨(), checkId_ok h.writerId, (), hexDigest_ok h.contextDigest,
    (), priorDigests_ok hpriors.1, (), priorDigests_ok hpriors.2,
    (), hexSha_ok h.expectedBaseSha, (), hexDigest_ok hexpected.1,
    (), hexDigest_ok hexpected.2, (), refuse_ok.mpr ?_,
    (), refuse_ok.mpr ?_, refuse_ok.mpr ?_⟩
  · exact decide_eq_false h.baselineRiskLevel
  · exact decide_eq_false (Int.not_lt.mpr h.budget)
  · exact decide_eq_false (Int.not_lt.mpr h.deadline)

theorem riskIncreased_false_iff :
    riskIncreased subject args = .ok false
      ↔ ∃ risk baseline, subject.riskLevel.order = .ok risk
        ∧ args.baselineRiskLevel.order = .ok baseline
        ∧ risk ≤ baseline := by
  unfold riskIncreased
  simp only [bind_ok, Except.ok.injEq, decide_eq_false_iff_not, Nat.not_lt]
  constructor
  · rintro ⟨risk, hrisk, baseline, hbaseline, hle⟩
    exact ⟨risk, baseline, hrisk, hbaseline, hle⟩
  · rintro ⟨risk, baseline, hrisk, hbaseline, hle⟩
    exact ⟨risk, hrisk, baseline, hbaseline, hle⟩

/-- Nothing refuses where the repair can be granted. -/
theorem refusals_none_iff (hbudget : 0 ≤ args.budgetRemainingUnits)
    (hdeadline : 0 ≤ args.deadlineRemainingSeconds)
    (hbelongs : verdict.subjectDigest = subject.digest rt) :
    firstRefusal (refusals subject verdict args) = .ok none
      ↔ Grantable rt subject verdict args := by
  rw [firstRefusal_none_iff]
  unfold refusals
  simp only [List.forall_mem_cons, Except.ok.injEq, decide_eq_false_iff_not,
    ne_eq, Decidable.not_not, riskIncreased_false_iff, Bool.or_eq_false_iff,
    List.any_eq_false, List.contains_eq_mem, decide_eq_true_eq, Int.not_lt,
    List.not_mem_nil, false_implies, implies_true, and_true]
  constructor
  · rintro ⟨hwriter, hcycle, hfindings, hrisk, hdiff, harchitecture,
      hauthority, hbase, hbudget', hdeadline', hcontext, hdecided⟩
    refine ⟨hbelongs, hdecided, hwriter, ?_, hfindings, hrisk, hdiff,
      harchitecture, hauthority, hbase, by omega, by omega, hcontext⟩
    simpa using hcycle
  · intro h
    refine ⟨h.writer, ?_, h.findings, h.risk, h.diff, h.architecture,
      h.authority, h.base, ?_, ?_, h.context, h.decided⟩
    · simpa using h.cycle
    · have hpos := h.budget
      omega
    · have hpos := h.deadline
      omega

/-- No test raises, as neither risk is `none`. -/
theorem refusals_ok (hrisk : subject.riskLevel ≠ .none)
    (hbaseline : args.baselineRiskLevel ≠ .none) :
    ∃ answer, firstRefusal (refusals subject verdict args) = .ok answer := by
  have hincreased : ∃ refused, riskIncreased subject args = .ok refused := by
    obtain ⟨risk, hrisk⟩ := RiskLevel.order_ok hrisk
    obtain ⟨baseline, hbaseline⟩ := RiskLevel.order_ok hbaseline
    refine ⟨decide (baseline < risk), ?_⟩
    unfold riskIncreased
    rw [hrisk, hbaseline]
    rfl
  apply firstRefusal_ok
  unfold refusals
  simp only [List.forall_mem_cons, Except.ok.injEq, exists_eq', hincreased,
    List.not_mem_nil, false_implies, implies_true, and_true]

/-- A directive that is granted passes its contract. -/
theorem granted_accepted (hsubject : subject.Accepted rt)
    (hverdict : verdict.fromDict rt = .ok verdict)
    (hargs : args.WellFormed rt)
    (hcycle : args.requestedCycle = 1 ∨ args.requestedCycle = 2
      ∨ args.requestedCycle = 3) :
    (granted rt subject verdict args).fromDict rt
      = .ok (granted rt subject verdict args) := by
  have hfindings : sortedUnique "finding_identity_digests"
      (hexDigest "finding_identity_digest") verdict.findingIdentityDigests
      = .ok () := by
    unfold SemanticVerdictV1.fromDict at hverdict
    obtain ⟨_, _, hverdict⟩ := bind_ok.mp hverdict
    obtain ⟨_, hlist, _⟩ := bind_ok.mp hverdict
    unfold sortedUnique at hlist ⊢
    simp only [bind_ok, forM_ok_iff] at hlist ⊢
    obtain ⟨_, hle, _, hparses, hsorted⟩ := hlist
    refine ⟨(), hle, (), ?_, hsorted⟩
    intro t ht
    have hhex := hparses t ht
    unfold hexDigest at hhex ⊢
    rw [refuse_ok] at hhex ⊢
    exact hhex
  have hinteger : integer "repair_cycle" 1 3 args.requestedCycle = .ok () := by
    unfold integer
    rw [refuse_ok]
    rcases hcycle with h | h | h <;> · rw [h]; rfl
  unfold RepairDirectiveV1.fromDict
  simp only [bind_ok]
  exact ⟨(), hexDigest_canonical _ _, (), hexDigest_canonical _ _,
    (), hinteger, (), checkId_ok hsubject.originalWriterId,
    (), hexDigest_ok hargs.contextDigest,
    (), hexSha_ok (hsubject.shas _
      (List.mem_cons_of_mem _ List.mem_cons_self)), (), hfindings, trivial⟩

theorem validateFor_iff :
    verdict.validateFor rt subject = .ok ()
      ↔ verdict.subjectDigest = subject.digest rt := by
  unfold SemanticVerdictV1.validateFor
  rw [refuse_ok, decide_eq_false_iff_not, ne_eq, Decidable.not_not]

/-- A directive that is granted is one for its subject and verdict. -/
theorem granted_valid (hbelongs : verdict.subjectDigest = subject.digest rt) :
    (granted rt subject verdict args).validateFor rt subject verdict
      = .ok () := by
  unfold RepairDirectiveV1.validateFor
  simp only [bind_ok]
  refine ⟨(), refuse_ok.mpr ?_, (), refuse_ok.mpr ?_,
    (), validateFor_iff.mpr hbelongs, refuse_ok.mpr ?_⟩ <;>
    · simp [granted]

/-- A plan for well-formed arguments answers, and grants a directive exactly
where it can. -/
theorem planRepair_answers (hsubject : subject.Accepted rt)
    (hverdict : verdict.fromDict rt = .ok verdict)
    (hargs : args.WellFormed rt) :
    ∃ d, planRepair rt subject verdict args = .ok d
      ∧ (d.decision = .repair ↔ Grantable rt subject verdict args)
      ∧ (d.decision = .repair →
        d.directive = some (granted rt subject verdict args)) := by
  unfold planRepair
  cases hbelongs : verdict.validateFor rt subject with
  | error e =>
      have hstale : e.code = "stale_semantic_evidence" := by
        unfold SemanticVerdictV1.validateFor refuse at hbelongs
        split_ifs at hbelongs
        cases hbelongs
        rfl
      dsimp only
      rw [if_pos hstale]
      refine ⟨_, rfl, ?_, fun h => by cases h⟩
      apply iff_of_false
      · intro h
        cases h
      · intro h
        rw [validateFor_iff.mpr h.belongs] at hbelongs
        cases hbelongs
  | ok u =>
      have hbelongs' := validateFor_iff.mp hbelongs
      have hiff := refusals_none_iff hargs.budget hargs.deadline hbelongs'
      obtain ⟨answer, hanswer⟩ :
          ∃ answer, firstRefusal (refusals subject verdict args) = .ok answer :=
        refusals_ok hsubject.riskLevel hargs.baselineRiskLevel
      rw [hanswer] at hiff
      dsimp only
      unfold planFor
      rw [check_ok hargs, hanswer]
      cases answer with
      | some reason =>
          refine ⟨human reason, rfl, ?_, fun h => by cases h⟩
          apply iff_of_false
          · intro h
            cases h
          · intro h
            cases hiff.mpr h
      | none =>
          have hgrant := hiff.mp rfl
          refine ⟨⟨.repair, "repair_allowed",
            some (granted rt subject verdict args)⟩, ?_,
            iff_of_true rfl hgrant, fun _ => rfl⟩
          show (granted rt subject verdict args).fromDict rt >>= _ = _
          rw [granted_accepted hsubject hverdict hargs hgrant.cycle]
          rfl

/-- What a directive that was granted has: a context and findings that are
not among the priors, each finding once. -/
theorem planRepair_grants {d : RepairPolicyDecision}
    {directive : RepairDirectiveV1}
    (h : planRepair rt subject verdict args = .ok d)
    (hdirective : d.directive = some directive) :
    directive.contextDigest ∉ args.priorContextDigests
      ∧ (∀ identity ∈ directive.findingIdentityDigests,
        identity ∉ args.priorFindingIdentityDigests)
      ∧ directive.findingIdentityDigests.Nodup := by
  unfold planRepair at h
  cases hbelongs : verdict.validateFor rt subject with
  | error e =>
      rw [hbelongs] at h
      dsimp only at h
      split_ifs at h
      cases h
      cases hdirective
  | ok u =>
      rw [hbelongs] at h
      unfold planFor at h
      obtain ⟨_, _, h⟩ := bind_ok.mp h
      obtain ⟨answer, hanswer, h⟩ := bind_ok.mp h
      cases answer with
      | some reason =>
          cases h
          cases hdirective
      | none =>
          obtain ⟨made, hmade, h⟩ := bind_ok.mp h
          cases h
          cases hdirective
          have htests := firstRefusal_none_iff.mp hanswer
          unfold refusals at htests
          simp only [List.forall_mem_cons, Except.ok.injEq,
            Bool.or_eq_false_iff, List.any_eq_false, List.contains_eq_mem,
            decide_eq_true_eq, decide_eq_false_iff_not] at htests
          obtain ⟨_, _, hfindings, _, _, _, _, _, _, _, hcontext, _⟩ := htests
          unfold RepairDirectiveV1.fromDict at hmade
          simp only [bind_ok] at hmade
          obtain ⟨_, _, _, _, _, _, _, _, _, _, _, _, _, hlist, hmade⟩ := hmade
          cases hmade
          refine ⟨hcontext.2, hfindings, ?_⟩
          unfold sortedUnique at hlist
          simp only [bind_ok, refuse_ok] at hlist
          obtain ⟨_, _, _, _, hsorted⟩ := hlist
          rw [Bool.not_eq_false'] at hsorted
          exact (of_decide_eq_true hsorted).imp ne_of_lt

end

-- ========================================================== every history

/-- One call of `plan_repair`; its priors are what was granted before. -/
structure RepairCall where
  subject : SemanticSubjectV1
  verdict : SemanticVerdictV1
  args : RepairArguments

/-- A series of grants, over the priors it started with. -/
structure RepairHistory where
  contexts : Finset Text
  findings : Finset Text
  grants : List RepairDirectiveV1 := []

namespace RepairHistory

/-- What is added when a directive is granted. -/
def grant (h : RepairHistory) (d : RepairDirectiveV1) : RepairHistory where
  contexts := insert d.contextDigest h.contexts
  findings := h.findings ∪ d.findingIdentityDigests.toFinset
  grants := d :: h.grants

/-- The arguments of a call, with what was granted before as the priors. -/
def arguments (h : RepairHistory) (call : RepairCall) : RepairArguments :=
  { call.args with
    priorContextDigests := h.contexts.sort
    priorFindingIdentityDigests := h.findings.sort }

/-- One call; `none` is one that raises. -/
def step (rt : Runtime) (h : RepairHistory) (call : RepairCall) :
    Option RepairHistory :=
  match planRepair rt call.subject call.verdict (h.arguments call) with
  | .error _ => none
  | .ok d => some (d.directive.elim h h.grant)

/-- A call that does not raise grants nothing, or something fresh. -/
theorem step_cases {rt : Runtime} {h h' : RepairHistory} {call : RepairCall}
    (hstep : step rt h call = some h') :
    h' = h ∨ ∃ d, h' = h.grant d ∧ d.contextDigest ∉ h.contexts
      ∧ (∀ identity ∈ d.findingIdentityDigests, identity ∉ h.findings)
      ∧ d.findingIdentityDigests.Nodup := by
  unfold step at hstep
  cases hplan : planRepair rt call.subject call.verdict
      (h.arguments call) with
  | error e =>
      rw [hplan] at hstep
      cases hstep
  | ok d =>
      rw [hplan] at hstep
      dsimp only at hstep
      cases hdirective : d.directive with
      | none =>
          left
          rw [hdirective] at hstep
          exact (Option.some.inj hstep).symm
      | some directive =>
          right
          rw [hdirective] at hstep
          obtain ⟨hcontext, hfindings, hnodup⟩ :=
            planRepair_grants hplan hdirective
          refine ⟨directive, (Option.some.inj hstep).symm, ?_, ?_, hnodup⟩
          · exact mt (Finset.mem_sort _).mpr hcontext
          · intro identity hidentity
            exact mt (Finset.mem_sort _).mpr (hfindings identity hidentity)

/-- What was granted is among the priors, and nothing was granted twice. -/
structure Fresh (h : RepairHistory) : Prop where
  contexts : ∀ d ∈ h.grants, d.contextDigest ∈ h.contexts
  findings : ∀ d ∈ h.grants, ∀ identity ∈ d.findingIdentityDigests,
    identity ∈ h.findings
  contexts_nodup : (h.grants.map (·.contextDigest)).Nodup
  findings_nodup : (h.grants.flatMap (·.findingIdentityDigests)).Nodup

theorem Fresh.step {rt : Runtime} {h h' : RepairHistory} {call : RepairCall}
    (hI : Fresh h) (hstep : step rt h call = some h') : Fresh h' := by
  rcases step_cases hstep with rfl | ⟨d, rfl, hcontext, hfindings, hnodup⟩
  · exact hI
  · refine ⟨?_, ?_, ?_, ?_⟩
    · intro other hother
      rcases List.mem_cons.mp hother with rfl | hother
      · exact Finset.mem_insert_self _ _
      · exact Finset.mem_insert_of_mem (hI.contexts other hother)
    · intro other hother identity hidentity
      rcases List.mem_cons.mp hother with rfl | hother
      · exact Finset.mem_union_right _ (List.mem_toFinset.mpr hidentity)
      · exact Finset.mem_union_left _
          (hI.findings other hother identity hidentity)
    · show (d.contextDigest :: h.grants.map (·.contextDigest)).Nodup
      rw [List.nodup_cons]
      refine ⟨?_, hI.contexts_nodup⟩
      intro hmem
      obtain ⟨other, hother, hsame⟩ := List.mem_map.mp hmem
      exact hcontext (hsame ▸ hI.contexts other hother)
    · show (d.findingIdentityDigests
        ++ h.grants.flatMap (·.findingIdentityDigests)).Nodup
      rw [List.nodup_append']
      refine ⟨hnodup, hI.findings_nodup, ?_⟩
      intro identity hidentity hmem
      obtain ⟨other, hother, hagain⟩ := List.mem_flatMap.mp hmem
      exact hfindings identity hidentity
        (hI.findings other hother identity hagain)

/-- In every history no context and no finding is granted twice. -/
theorem run_fresh {rt : Runtime} {contexts findings : Finset Text}
    {calls : List RepairCall} {h : RepairHistory}
    (hrun : Run.run (step rt) { contexts, findings } calls = some h) :
    Fresh h := by
  have hstart : Fresh { contexts, findings } := by
    constructor
    · exact fun d hd => absurd hd List.not_mem_nil
    · exact fun d hd => absurd hd List.not_mem_nil
    · exact List.nodup_nil
    · exact List.nodup_nil
  exact Run.run_invariant (fun hI hstep => Fresh.step hI hstep) hstart hrun

end RepairHistory

/-- Repairs are granted exactly where everything that is asked of them
holds; what is granted is valid for its subject and verdict; and no history
grants a context or a finding twice. -/
theorem repairs_bounded (rt : Runtime) :
    (∀ subject verdict args, subject.Accepted rt →
      verdict.fromDict rt = .ok verdict → args.WellFormed rt →
      ∃ d, planRepair rt subject verdict args = .ok d
        ∧ (d.decision = .repair ↔ Grantable rt subject verdict args)
        ∧ (d.decision = .repair → ∃ directive, d.directive = some directive
          ∧ directive.validateFor rt subject verdict = .ok ()))
      ∧ ∀ contexts findings calls h,
        Run.run (RepairHistory.step rt) { contexts, findings } calls = some h →
        (h.grants.map (·.contextDigest)).Nodup
          ∧ (h.grants.flatMap (·.findingIdentityDigests)).Nodup := by
  constructor
  · intro subject verdict args hsubject hverdict hargs
    obtain ⟨d, hplan, hiff, hgranted⟩ :=
      planRepair_answers hsubject hverdict hargs
    refine ⟨d, hplan, hiff, ?_⟩
    intro hrepair
    refine ⟨_, hgranted hrepair, ?_⟩
    exact granted_valid (hiff.mp hrepair).belongs
  · intro contexts findings calls h hrun
    have hfresh := RepairHistory.run_fresh hrun
    exact ⟨hfresh.contexts_nodup, hfresh.findings_nodup⟩

-- ============================================================== a sample

/-- The verdict over one finding, which says repair. -/
def oneVerdict : SemanticVerdictV1 :=
  verdictOf oneRuntime [oneFinding] [oneReport] oneSubject

def oneArguments : RepairArguments where
  requestedCycle := 1
  writerId := ['w']
  contextDigest := List.replicate 64 '2'
  priorContextDigests := []
  priorFindingIdentityDigests := []
  expectedBaseSha := List.replicate 40 '0'
  expectedArchitectureDigest := List.replicate 64 '0'
  expectedAuthorityDigest := List.replicate 64 '0'
  baselineRiskLevel := .low
  budgetRemainingUnits := 1
  deadlineRemainingSeconds := 1

def oneCall : RepairCall := ⟨oneSubject, oneVerdict, oneArguments⟩

theorem oneArguments_wellFormed : oneArguments.WellFormed oneRuntime := by
  constructor <;> decide

theorem oneVerdict_accepted :
    oneVerdict.fromDict oneRuntime = .ok oneVerdict :=
  verdictOf_accepted (fun _ _ => rfl) oneSubject_accepted one_admissible

theorem one_grantable :
    Grantable oneRuntime oneSubject oneVerdict oneArguments where
  belongs := by simp only [oneVerdict, verdictOf]
  decided := by
    show decision oneRuntime [oneFinding] [oneReport] = .repair
    decide +kernel
  writer := rfl
  cycle := .inl rfl
  findings := fun _ _ => List.not_mem_nil
  risk := ⟨0, 0, rfl, rfl, Nat.le_refl 0⟩
  diff := Int.le_refl 1
  architecture := rfl
  authority := rfl
  base := rfl
  budget := by decide
  deadline := by decide
  context := ⟨by decide, List.not_mem_nil⟩

/-- The repair of `oneVerdict` is granted, alone and as a history. -/
theorem repairs_bounded_one :
    (∃ d, planRepair oneRuntime oneSubject oneVerdict oneArguments = .ok d
      ∧ d.decision = .repair ∧ ∃ directive, d.directive = some directive
        ∧ directive.validateFor oneRuntime oneSubject oneVerdict = .ok ())
      ∧ ∃ h, Run.run (RepairHistory.step oneRuntime) ⟨∅, ∅, []⟩ [oneCall]
          = some h
        ∧ h.grants.length = 1 ∧ (h.grants.map (·.contextDigest)).Nodup
        ∧ (h.grants.flatMap (·.findingIdentityDigests)).Nodup := by
  obtain ⟨hplans, hruns⟩ := repairs_bounded oneRuntime
  obtain ⟨d, hplan, hiff, hvalid⟩ := hplans oneSubject oneVerdict
    oneArguments oneSubject_accepted oneVerdict_accepted
    oneArguments_wellFormed
  have hrepair := hiff.mpr one_grantable
  obtain ⟨directive, hdirective, hfor⟩ := hvalid hrepair
  refine ⟨⟨d, hplan, hrepair, directive, hdirective, hfor⟩, ?_⟩
  have harguments : RepairHistory.arguments ⟨∅, ∅, []⟩ oneCall
      = oneArguments := by
    unfold RepairHistory.arguments
    rw [Finset.sort_empty]
    rfl
  have hrun : Run.run (RepairHistory.step oneRuntime) ⟨∅, ∅, []⟩ [oneCall]
      = some (RepairHistory.grant ⟨∅, ∅, []⟩ directive) := by
    rw [Run.run_cons]
    unfold RepairHistory.step
    rw [harguments]
    simp only [oneCall, hplan, hdirective, Option.elim_some,
      Option.bind_some, Run.run_nil]
  exact ⟨_, hrun, rfl, hruns ∅ ∅ [oneCall] _ hrun⟩

end Exolon.Semantic.Review
