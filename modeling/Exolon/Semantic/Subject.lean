/-
The subject of a semantic validation, and what is said about it: findings,
coverage reports, the verdict over them and a directive to repair.

A contract holds what its dataclass does, less the fields that no function
here reads (a finding's message, its evidence and its time). Its
`validateFor` says what makes it one about a given subject. A subject here
is one that the bridge has built: its kinds and its risk level are read.
-/
import Exolon.Factory.Autonomy
import Exolon.Semantic.Contracts

namespace Exolon

-- ========================================================= enumerations

/-- An enumeration is a document by the names of its values. -/
abbrev Document.named {α : Type} (name : α → Text)
    (hinj : Function.Injective name) : Document α where
  json a := .str (name a)
  plain _ := trivial
  told _ _ _ h := hinj (Json.str.inj h)

namespace Semantic.Review

open Factory (ContractError refuse refuse_ok bind_ok)

/-- `REQUIREMENT_KINDS` -/
inductive RequirementKind where
  | acceptanceCriterion
  | invariant
  | forbiddenOutcome
  | architectureRule
  | nonFunctionalRequirement
  deriving DecidableEq

def RequirementKind.name : RequirementKind → Text
  | .acceptanceCriterion => "acceptance_criterion".toList
  | .invariant => "invariant".toList
  | .forbiddenOutcome => "forbidden_outcome".toList
  | .architectureRule => "architecture_rule".toList
  | .nonFunctionalRequirement => "non_functional_requirement".toList

instance : Document RequirementKind :=
  .named RequirementKind.name fun a b h => by
    cases a <;> cases b <;> first | rfl | exact absurd h (by decide)

/-- `SemanticFindingV1.SEVERITIES` -/
inductive Severity where
  | minor
  | major
  | critical
  | blocker
  deriving DecidableEq

def Severity.name : Severity → Text
  | .minor => "minor".toList
  | .major => "major".toList
  | .critical => "critical".toList
  | .blocker => "blocker".toList

instance : Document Severity :=
  .named Severity.name fun a b h => by
    cases a <;> cases b <;> first | rfl | exact absurd h (by decide)

/-- `SemanticFindingV1.CATEGORIES` -/
inductive Category where
  | requirementUnsatisfied
  | evidenceGap
  | testGap
  | architectureViolation
  | securityBoundary
  | authorityViolation
  | contradiction
  deriving DecidableEq

def Category.name : Category → Text
  | .requirementUnsatisfied => "requirement_unsatisfied".toList
  | .evidenceGap => "evidence_gap".toList
  | .testGap => "test_gap".toList
  | .architectureViolation => "architecture_violation".toList
  | .securityBoundary => "security_boundary".toList
  | .authorityViolation => "authority_violation".toList
  | .contradiction => "contradiction".toList

instance : Document Category :=
  .named Category.name fun a b h => by
    cases a <;> cases b <;> first | rfl | exact absurd h (by decide)

/-- `RISK_LEVELS`, the lowest first. -/
inductive RiskLevel where
  | none
  | low
  | medium
  | high
  | critical
  deriving DecidableEq

def RiskLevel.name : RiskLevel → Text
  | .none => "none".toList
  | .low => "low".toList
  | .medium => "medium".toList
  | .high => "high".toList
  | .critical => "critical".toList

instance : Document RiskLevel :=
  .named RiskLevel.name fun a b h => by
    cases a <;> cases b <;> first | rfl | exact absurd h (by decide)

/-- `CoverageEntryV1.STATUSES` -/
inductive CoverageStatus where
  | proven
  | unproven
  | contradicted
  | outOfScope
  deriving DecidableEq

/-- The decisions of a `SemanticVerdictV1`. -/
inductive VerdictDecision where
  | pass
  | repair
  | needsHuman
  deriving DecidableEq

def VerdictDecision.name : VerdictDecision → Text
  | .pass => "pass".toList
  | .repair => "repair".toList
  | .needsHuman => "needs_human".toList

/-- How far a decision is from passing. -/
def VerdictDecision.rank : VerdictDecision → Nat
  | .pass => 0
  | .repair => 1
  | .needsHuman => 2

instance : Document VerdictDecision :=
  .named VerdictDecision.name fun a b h => by
    cases a <;> cases b <;> first | rfl | exact absurd h (by decide)

-- ============================================================= patterns

/-- `MAX_ITEMS` -/
def maxItems : Nat := 256

/-- `SAFE_REF` -/
def isSafeRef : Text → Bool
  | [] => false
  | c :: cs => c.isAlphanum && cs.length ≤ 255
      && cs.all fun c => c.isAlphanum || "._:/@+-".toList.contains c

/-- `_hex` of a digest. -/
def hexDigest (name : String) (t : Text) : Except ContractError Unit :=
  refuse (!isHex 64 t) "invalid_digest" name

/-- `_hex` of a commit. -/
def hexSha (name : String) (t : Text) : Except ContractError Unit :=
  refuse (!isHex 40 t) "invalid_sha" name

/-- `_integer` -/
def integer (name : String) (minimum maximum value : Int) :
    Except ContractError Unit :=
  refuse (!(minimum ≤ value && value ≤ maximum)) "invalid_integer" name

/-- `_sorted_unique`, of items that are their own sort keys. -/
def sortedUnique (name : String) (parser : Text → Except ContractError Unit)
    (values : List Text) : Except ContractError Unit := do
  refuse (maxItems < values.length) name
  values.forM parser
  refuse (!isSortedUnique values) name

section

variable (rt : Runtime)

/-- `_reference` -/
def reference (name : String) (t : Text) : Except ContractError Unit := do
  refuse (!rt.isText 256 t) "invalid_text" name
  refuse (!isSafeRef t) "invalid_reference" name

/-- `_id` -/
def checkId (name : String) (t : Text) : Except ContractError Unit := do
  refuse (!rt.isText 128 t) "invalid_text" name
  refuse (!isIdentifier t) "invalid_identifier" name

end

-- ============================================================== subject

structure RequirementRefV1 where
  kind : RequirementKind
  requirementId : Text
  deriving DecidableEq

namespace RequirementRefV1

def fields : List (Member RequirementRefV1) := [
  .of "kind" kind,
  .of "requirement_id" requirementId]

theorem nodup_fields : (fields.map Member.name).Nodup := by
  decide

instance : Document RequirementRefV1 :=
  .record fields nodup_fields fun a b h => by
    cases a
    cases b
    simpa [fields] using h

/-- `f"{kind}:{requirement_id}"` -/
def key (r : RequirementRefV1) : Text := r.kind.name ++ ':' :: r.requirementId

end RequirementRefV1

structure SemanticSubjectV1 where
  subjectId : Text
  requirements : List RequirementRefV1
  exactBaseSha : Text
  exactHeadSha : Text
  specDigest : Text
  architectureDigest : Text
  authorityDigest : Text
  diffDigest : Text
  deterministicEvidenceDigest : Text
  holdoutEvidenceDigest : Text
  reviewEvidenceDigest : Text
  originalWriterId : Text
  originalWriterContextDigest : Text
  riskLevel : RiskLevel
  diffLines : Int
  diffLimit : Int

namespace SemanticSubjectV1

def fields : List (Member SemanticSubjectV1) := [
  .of "schema_version" fun _ => (1 : Nat),
  .of "subject_id" subjectId,
  .of "requirements" requirements,
  .of "exact_base_sha" exactBaseSha,
  .of "exact_head_sha" exactHeadSha,
  .of "spec_digest" specDigest,
  .of "architecture_digest" architectureDigest,
  .of "authority_digest" authorityDigest,
  .of "diff_digest" diffDigest,
  .of "deterministic_evidence_digest" deterministicEvidenceDigest,
  .of "holdout_evidence_digest" holdoutEvidenceDigest,
  .of "review_evidence_digest" reviewEvidenceDigest,
  .of "original_writer_id" originalWriterId,
  .of "original_writer_context_digest" originalWriterContextDigest,
  .of "risk_level" riskLevel,
  .of "diff_lines" diffLines,
  .of "diff_limit" diffLimit]

def digest (rt : Runtime) (s : SemanticSubjectV1) : Text :=
  rt.canonicalDigest (Json.members fields s)

def requirementKeys (s : SemanticSubjectV1) : List Text :=
  s.requirements.map RequirementRefV1.key

/-- What `from_dict` asks of the fields. -/
structure Accepted (rt : Runtime) (s : SemanticSubjectV1) : Prop where
  subjectId : rt.identifier s.subjectId = true
  requirements_ne : s.requirements ≠ []
  requirements_le : s.requirements.length ≤ maxItems
  requirementIds : ∀ r ∈ s.requirements,
    rt.identifier r.requirementId = true
  sorted : isSortedUnique s.requirementKeys = true
  shas : ∀ sha ∈ [s.exactBaseSha, s.exactHeadSha], isHex 40 sha = true
  digests : ∀ digest ∈ [s.specDigest, s.architectureDigest,
    s.authorityDigest, s.diffDigest, s.deterministicEvidenceDigest,
    s.holdoutEvidenceDigest, s.reviewEvidenceDigest,
    s.originalWriterContextDigest], isHex 64 digest = true
  originalWriterId : rt.identifier s.originalWriterId = true
  riskLevel : s.riskLevel ≠ .none
  diffLines : 0 ≤ s.diffLines ∧ s.diffLines ≤ 1000000
  diffLimit : 1 ≤ s.diffLimit ∧ s.diffLimit ≤ 1000000

end SemanticSubjectV1

-- =========================================================== validators

structure ValidatorIdentityV1 where
  validatorId : Text
  capabilities : List Text
  contextDigest : Text

/-- `VALIDATOR_CAPABILITIES` -/
def validatorCapabilities : List Text :=
  ["repository_read".toList, "semantic_validate".toList]

/-- `FORBIDDEN_VALIDATOR_CAPABILITIES` -/
def forbiddenValidatorCapabilities : List Text := [
  "application_write".toList,
  "adjudicate".toList,
  "external_write".toList,
  "network".toList,
  "credential_read".toList]

/-- `ValidatorIdentityV1.validate_for` -/
def ValidatorIdentityV1.validateFor (v : ValidatorIdentityV1)
    (subject : SemanticSubjectV1) : Except ContractError Unit := do
  refuse (v.validatorId = subject.originalWriterId)
    "validator_is_original_writer"
  refuse (v.contextDigest = subject.originalWriterContextDigest)
    "validator_context_not_independent"
  refuse (!validatorCapabilities.all v.capabilities.contains)
    "validator_capability_missing"
  let forbidden := (v.capabilities.filter
    forbiddenValidatorCapabilities.contains).insertionSort (· ≤ ·)
  refuse (!forbidden.isEmpty) "validator_capability_forbidden"
    (String.ofList (List.intercalate [','] forbidden))

-- ============================================================= findings

structure SemanticFindingV1 where
  subjectDigest : Text
  requirement : RequirementRefV1
  severity : Severity
  category : Category
  ruleId : Text
  repairable : Bool
  validator : ValidatorIdentityV1

namespace SemanticFindingV1

/-- What makes two findings the same one. -/
def identity : List (Member SemanticFindingV1) := [
  .const "contract" "adaptive-factory.semantic-finding-identity/v1",
  .of "requirement" requirement,
  .of "severity" severity,
  .of "category" category,
  .of "rule_id" ruleId]

def identityDigest (rt : Runtime) (f : SemanticFindingV1) : Text :=
  rt.canonicalDigest (Json.members identity f)

/-- `SemanticFindingV1.validate_for` -/
def validateFor (rt : Runtime) (subject : SemanticSubjectV1)
    (f : SemanticFindingV1) : Except ContractError Unit := do
  refuse (f.subjectDigest ≠ subject.digest rt) "stale_semantic_evidence"
    "finding"
  refuse (f.requirement.key ∉ subject.requirementKeys)
    "finding_requirement_set"
  f.validator.validateFor subject

end SemanticFindingV1

-- ============================================================= coverage

structure CoverageEntryV1 where
  requirement : RequirementRefV1
  status : CoverageStatus
  evidenceRefs : List Text

structure SemanticCoverageV1 where
  subjectDigest : Text
  validator : ValidatorIdentityV1
  entries : List CoverageEntryV1

/-- The key of the requirement an entry is about. -/
def CoverageEntryV1.key (e : CoverageEntryV1) : Text := e.requirement.key

/-- `SemanticCoverageV1.validate_for` -/
def SemanticCoverageV1.validateFor (rt : Runtime)
    (subject : SemanticSubjectV1) (c : SemanticCoverageV1) :
    Except ContractError Unit := do
  refuse (c.subjectDigest ≠ subject.digest rt) "stale_semantic_evidence"
    "coverage"
  refuse (c.entries.map CoverageEntryV1.key ≠ subject.requirementKeys)
    "coverage_requirement_set"
  c.validator.validateFor subject

-- ============================================================== verdict

structure SemanticVerdictV1 where
  subjectDigest : Text
  decision : VerdictDecision
  findingIdentityDigests : List Text
  duplicateIdentityDigests : List Text
  correlatedRequirementKeys : List Text
  contradictedRequirementKeys : List Text
  unsupportedPassRequirementKeys : List Text
  residualRisk : RiskLevel
  deriving DecidableEq

namespace SemanticVerdictV1

def fields : List (Member SemanticVerdictV1) := [
  .of "schema_version" fun _ => (1 : Nat),
  .of "subject_digest" subjectDigest,
  .of "decision" decision,
  .const "decision_source" "deterministic_adjudicator",
  .of "finding_identity_digests" findingIdentityDigests,
  .of "duplicate_identity_digests" duplicateIdentityDigests,
  .of "correlated_requirement_keys" correlatedRequirementKeys,
  .of "contradicted_requirement_keys" contradictedRequirementKeys,
  .of "unsupported_pass_requirement_keys" unsupportedPassRequirementKeys,
  .of "residual_risk" residualRisk]

def digest (rt : Runtime) (v : SemanticVerdictV1) : Text :=
  rt.canonicalDigest (Json.members fields v)

/-- `SemanticVerdictV1.from_dict` -/
def fromDict (rt : Runtime) (v : SemanticVerdictV1) :
    Except ContractError SemanticVerdictV1 := do
  let digestList := fun name => sortedUnique name (hexDigest name)
  let keyList := fun name => sortedUnique name (reference rt name)
  hexDigest "subject_digest" v.subjectDigest
  digestList "finding_identity_digests" v.findingIdentityDigests
  digestList "duplicate_identity_digests" v.duplicateIdentityDigests
  keyList "correlated_requirement_keys" v.correlatedRequirementKeys
  keyList "contradicted_requirement_keys" v.contradictedRequirementKeys
  keyList "unsupported_pass_requirement_keys"
    v.unsupportedPassRequirementKeys
  .ok v

/-- `SemanticVerdictV1.validate_for` -/
def validateFor (rt : Runtime) (subject : SemanticSubjectV1)
    (v : SemanticVerdictV1) : Except ContractError Unit :=
  refuse (v.subjectDigest ≠ subject.digest rt) "stale_semantic_evidence"
    "verdict"

end SemanticVerdictV1

-- ============================================================ directive

structure RepairDirectiveV1 where
  subjectDigest : Text
  verdictDigest : Text
  cycle : Int
  writerId : Text
  contextDigest : Text
  exactHeadSha : Text
  findingIdentityDigests : List Text
  deriving DecidableEq

namespace RepairDirectiveV1

/-- `RepairDirectiveV1.from_dict` -/
def fromDict (rt : Runtime) (d : RepairDirectiveV1) :
    Except ContractError RepairDirectiveV1 := do
  hexDigest "subject_digest" d.subjectDigest
  hexDigest "verdict_digest" d.verdictDigest
  integer "repair_cycle" 1 3 d.cycle
  checkId rt "writer_id" d.writerId
  hexDigest "context_digest" d.contextDigest
  hexSha "exact_head_sha" d.exactHeadSha
  sortedUnique "finding_identity_digests"
    (hexDigest "finding_identity_digest") d.findingIdentityDigests
  .ok d

/-- `RepairDirectiveV1.validate_for`, with a verdict. -/
def validateFor (rt : Runtime) (subject : SemanticSubjectV1)
    (verdict : SemanticVerdictV1) (d : RepairDirectiveV1) :
    Except ContractError Unit := do
  refuse (d.subjectDigest ≠ subject.digest rt
      || d.exactHeadSha ≠ subject.exactHeadSha)
    "stale_semantic_evidence" "directive"
  refuse (d.writerId ≠ subject.originalWriterId) "repair_writer_mismatch"
  verdict.validateFor rt subject
  refuse (d.verdictDigest ≠ verdict.digest rt) "stale_semantic_evidence"
    "directive verdict"

end RepairDirectiveV1

end Semantic.Review

end Exolon
