/-
The bridge from a run's evidence to the subject of its semantic review.

`buildSemanticSubject` checks a bundle: each part against its own digest,
each against the packet, the artifacts against their attestations. It then
writes the binding, a record of all the digests, and the subject of the
review. The envelope's digest is of these two and of the validation inputs.

Inputs come as an object, which is taken as it is, or as a mapping, which
is parsed. A member that cannot be looked up in a set raises `TypeError`.
-/
import Exolon.Semantic.Contracts
import Exolon.Factory.Protocol

namespace Exolon.Semantic

open Factory (utf8 canonicalJson bind_ok)

-- =============================================================== errors

/-- What the bridge raises. -/
inductive Raised where
  | contract (code : String) (detail : Text)
  | typeError
  deriving DecidableEq

/-- `if not ok: raise ContractError(code, detail)` -/
def require (ok : Bool) (code : String) (detail : String := "") :
    Except Raised Unit :=
  if ok then .ok () else .error (.contract code detail.toList)

theorem require_ok {ok : Bool} {code detail : String} {u : Unit} :
    require ok code detail = .ok u ↔ ok = true := by
  unfold require
  by_cases h : ok = true
  · simp [h]
  · simp [h]

/-- `_hex` -/
def checkHex (width : Nat) (t : Text) (name : String) : Except Raised Unit :=
  require (isHex width t)
    (if width = 40 then "invalid_sha" else "invalid_digest") name

namespace Runtime

variable (rt : Runtime)

/-- `_id` -/
def checkId (t : Text) (name : String) : Except Raised Unit := do
  require (rt.isText 128 t) "invalid_text" name
  require (isIdentifier t) "invalid_identifier" name

end Runtime

/-- `_integer` -/
def checkInteger (n : Int) (name : String) (minimum maximum : Int) :
    Except Raised Unit :=
  require (minimum ≤ n && n ≤ maximum) "invalid_integer" name

-- ============================================================== mappings

/-- A text of a mapping; another value is refused as a text that fails its
check is. -/
def asText : Json → Option Text
  | .str t => some t
  | _ => none

/-- `type(value) is int` -/
def asInteger : Json → Option Int
  | .num mantissa exponent => if exponent = 0 then some mantissa else none
  | _ => none

/-- `value == 1` -/
def equalsOne : Json → Bool
  | .bool b => b
  | .num mantissa exponent =>
      decide (exponent ≤ 0 ∧ mantissa = 10 ^ (-exponent).toNat)
  | _ => false

/-- `value not in names`, which hashes the value. -/
def lookUp (names : List Text) (code : String) :
    Json → Except Raised Text
  | .str t => if names.contains t then .ok t else .error (.contract code [])
  | .arr _ | .obj _ => .error .typeError
  | _ => .error (.contract code [])

/-- `_closed` -/
def closed (members : List (Text × Json)) (expected : List Text) :
    Except Raised Unit :=
  let names := members.map Prod.fst
  let unknown := names.filter fun name => !expected.contains name
  let missing := expected.filter fun name => !names.contains name
  if !unknown.isEmpty then
    .error (.contract "unknown_fields"
      ([','].intercalate (sortedBy id unknown)))
  else if !missing.isEmpty then
    .error (.contract "missing_fields"
      ([','].intercalate (sortedBy id missing)))
  else .ok ()

/-- `_object` -/
def asObject (name : String) : Json → Except Raised (List (Text × Json))
  | .obj members => .ok members
  | _ => .error (.contract "invalid_object" name.toList)

/-- `data[name]`, after `_closed`. -/
def member (members : List (Text × Json)) (name : String) : Json :=
  (members.lookup name.toList).getD .null

/-- A member that `_hex` checks. -/
def hexMember (members : List (Text × Json)) (name : String) :
    Except Raised Text :=
  match asText (member members name) with
  | none => .error (.contract "invalid_digest" name.toList)
  | some t => do
      checkHex 64 t name
      return t

-- ========================================================== requirements

/-- `REQUIREMENT_KINDS` -/
def requirementKinds : List Text := [
  "acceptance_criterion".toList, "invariant".toList,
  "forbidden_outcome".toList, "architecture_rule".toList,
  "non_functional_requirement".toList]

/-- `RISK_LEVELS - {"none"}` -/
def riskLevels : List Text :=
  ["low".toList, "medium".toList, "high".toList, "critical".toList]

structure RequirementRefV1 where
  kind : Text
  requirementId : Text
  deriving DecidableEq

namespace RequirementRefV1

def fields : List (Member RequirementRefV1) := [
  .of "kind" kind,
  .of "requirement_id" requirementId]

theorem nodup_fields : (fields.map Member.name).Nodup := by
  decide

instance : Document RequirementRefV1 :=
  .record fields nodup_fields fun a b h => by
    cases a
    cases b
    simpa [fields] using h

/-- `key` -/
def key (r : RequirementRefV1) : Text := r.kind ++ ':' :: r.requirementId

def fromDict (rt : Runtime) (data : Json) :
    Except Raised RequirementRefV1 := do
  let members ← asObject "requirement" data
  closed members (fields.map Member.name)
  let kind ← lookUp requirementKinds "requirement_kind"
    (member members "kind")
  match asText (member members "requirement_id") with
  | none => .error (.contract "invalid_text" "requirement_id".toList)
  | some requirementId => do
      rt.checkId requirementId "requirement_id"
      return ⟨kind, requirementId⟩

end RequirementRefV1

/-- `_sorted_unique` of the requirements, which may not be empty. -/
def requirementsOf (rt : Runtime) :
    Json → Except Raised (List RequirementRefV1)
  | .arr items => do
      require (items.length ≤ 256 && !items.isEmpty) "requirements"
      let parsed ← items.mapM (RequirementRefV1.fromDict rt)
      require (isSortedUnique (parsed.map RequirementRefV1.key))
        "requirements"
      return parsed
  | _ => .error (.contract "requirements" [])

-- ===================================================== validation inputs

structure SemanticValidationInputsV1 where
  schemaVersion : Int
  workspaceResultDigest : Text
  requirements : List RequirementRefV1
  holdoutEvidenceDigest : Text
  reviewEvidenceDigest : Text
  originalWriterContextDigest : Text
  riskLevel : Text
  diffLimit : Int
  deriving DecidableEq

namespace SemanticValidationInputsV1

def fields : List (Member SemanticValidationInputsV1) := [
  .of "schema_version" schemaVersion,
  .of "workspace_result_digest" workspaceResultDigest,
  .of "requirements" requirements,
  .of "holdout_evidence_digest" holdoutEvidenceDigest,
  .of "review_evidence_digest" reviewEvidenceDigest,
  .of "original_writer_context_digest" originalWriterContextDigest,
  .of "risk_level" riskLevel,
  .of "diff_limit" diffLimit]

theorem nodup_fields : (fields.map Member.name).Nodup := by
  decide

def message (v : SemanticValidationInputsV1) : List UInt8 :=
  utf8 (canonicalJson
    (contractJson "adaptive-factory.semantic-validation-inputs/v1" fields v))

def digest (rt : Runtime) (v : SemanticValidationInputsV1) : Text :=
  (rt.sha256 v.message).text

def fromDict (rt : Runtime) (data : Json) :
    Except Raised SemanticValidationInputsV1 := do
  let members ← asObject "semantic_validation_inputs" data
  closed members (fields.map Member.name)
  if !equalsOne (member members "schema_version") then
    .error (.contract "unsupported_version"
      "semantic_validation_inputs".toList)
  let requirements ← requirementsOf rt (member members "requirements")
  let risk ← lookUp riskLevels "risk_level" (member members "risk_level")
  let result ← hexMember members "workspace_result_digest"
  let holdout ← hexMember members "holdout_evidence_digest"
  let review ← hexMember members "review_evidence_digest"
  let context ← hexMember members "original_writer_context_digest"
  match asInteger (member members "diff_limit") with
  | none => .error (.contract "invalid_integer" "diff_limit".toList)
  | some limit => do
      checkInteger limit "diff_limit" 1 1000000
      return {
        schemaVersion := 1
        workspaceResultDigest := result
        requirements := requirements
        holdoutEvidenceDigest := holdout
        reviewEvidenceDigest := review
        originalWriterContextDigest := context
        riskLevel := risk
        diffLimit := limit }

end SemanticValidationInputsV1

/-- `SemanticValidationInputsV1 | Mapping[str, Any]` -/
inductive ValidationArgument where
  | inputs (v : SemanticValidationInputsV1)
  | mapping (data : Json)

def ValidationArgument.read (rt : Runtime) :
    ValidationArgument → Except Raised SemanticValidationInputsV1
  | .inputs v => .ok v
  | .mapping data => SemanticValidationInputsV1.fromDict rt data

-- ============================================================= binding

structure SemanticExecutionBindingV1 where
  schemaVersion : Int
  taskId : Text
  runId : Text
  owner : Text
  fence : Int
  role : Text
  repositoryId : Text
  workspaceHandle : Text
  legacyIntentDigest : Text
  taskPacketDigest : Text
  runManifestDigest : Text
  workspaceResultDigest : Text
  workspaceSnapshotDigest : Text
  terminalProposalDigest : Text
  artifactManifestDigest : Text
  noteManifestDigest : Text
  usageEvidenceDigest : Text
  diagnosticsDigest : Text
  exactBaseSha : Text
  inputHeadSha : Text
  exactHeadSha : Text
  terminalStage : Text
  m4Status : Text
  failureClass : Option Text
  failureReason : Option Text
  artifactProposalDigests : List Text
  artifactAttestationDigests : List Text
  deriving DecidableEq

/-- `_digests` -/
def checkDigests (ts : List Text) (name : String) : Except Raised Unit := do
  require (ts.length ≤ 256) name
  require (ts.all (isHex 64)) "invalid_digest" name
  require (isSortedUnique ts) name

namespace SemanticExecutionBindingV1

def fields : List (Member SemanticExecutionBindingV1) := [
  .of "schema_version" schemaVersion,
  .of "task_id" taskId,
  .of "run_id" runId,
  .of "owner" owner,
  .of "fence" fence,
  .of "role" role,
  .of "repository_id" repositoryId,
  .of "workspace_handle" workspaceHandle,
  .of "legacy_intent_digest" legacyIntentDigest,
  .of "task_packet_digest" taskPacketDigest,
  .of "run_manifest_digest" runManifestDigest,
  .of "workspace_result_digest" workspaceResultDigest,
  .of "workspace_snapshot_digest" workspaceSnapshotDigest,
  .of "terminal_proposal_digest" terminalProposalDigest,
  .of "artifact_manifest_digest" artifactManifestDigest,
  .of "note_manifest_digest" noteManifestDigest,
  .of "usage_evidence_digest" usageEvidenceDigest,
  .of "diagnostics_digest" diagnosticsDigest,
  .of "exact_base_sha" exactBaseSha,
  .of "input_head_sha" inputHeadSha,
  .of "exact_head_sha" exactHeadSha,
  .of "terminal_stage" terminalStage,
  .of "m4_status" m4Status,
  .of "failure_class" failureClass,
  .of "failure_reason" failureReason,
  .of "artifact_proposal_digests" artifactProposalDigests,
  .of "artifact_attestation_digests" artifactAttestationDigests]

theorem nodup_fields : (fields.map Member.name).Nodup := by
  decide

def message (b : SemanticExecutionBindingV1) : List UInt8 :=
  utf8 (canonicalJson
    (contractJson "adaptive-factory.semantic-execution-binding/v1" fields b))

def digest (rt : Runtime) (b : SemanticExecutionBindingV1) : Text :=
  (rt.sha256 b.message).text

def check (rt : Runtime) (b : SemanticExecutionBindingV1) :
    Except Raised Unit := do
  require (b.schemaVersion == 1) "unsupported_version"
    "semantic_execution_binding"
  require (b.role == "writer".toList) "semantic_writer_required"
  require (b.terminalStage == "completed".toList
      && b.m4Status == "ready_for_human".toList)
    "semantic_result_not_ready"
  require (b.failureClass.isNone && b.failureReason.isNone)
    "semantic_result_failure_mismatch"
  checkDigests b.artifactProposalDigests "artifact_proposal_digests"
  checkDigests b.artifactAttestationDigests "artifact_attestation_digests"
  require (b.artifactProposalDigests.length
      == b.artifactAttestationDigests.length)
    "semantic_artifact_attestation_set_mismatch"
  rt.checkId b.taskId "task_id"
  rt.checkId b.runId "run_id"
  rt.checkId b.owner "owner"
  checkInteger b.fence "fence" 1 (2 ^ 63 - 1)
  rt.checkId b.repositoryId "repository_id"
  require (b.workspaceHandle.take 10 == "workspace:".toList)
    "semantic_workspace_handle"
  checkHex 64 (b.workspaceHandle.drop 10) "workspace_handle"
  checkHex 64 b.legacyIntentDigest "legacy_intent_digest"
  checkHex 64 b.taskPacketDigest "task_packet_digest"
  checkHex 64 b.runManifestDigest "run_manifest_digest"
  checkHex 64 b.workspaceResultDigest "workspace_result_digest"
  checkHex 64 b.workspaceSnapshotDigest "workspace_snapshot_digest"
  checkHex 64 b.terminalProposalDigest "terminal_proposal_digest"
  checkHex 64 b.artifactManifestDigest "artifact_manifest_digest"
  checkHex 64 b.noteManifestDigest "note_manifest_digest"
  checkHex 64 b.usageEvidenceDigest "usage_evidence_digest"
  checkHex 64 b.diagnosticsDigest "diagnostics_digest"
  checkHex 40 b.exactBaseSha "exact_base_sha"
  checkHex 40 b.inputHeadSha "input_head_sha"
  checkHex 40 b.exactHeadSha "exact_head_sha"

/-- `from_dict`, of a mapping with these values. -/
def fromDict (rt : Runtime) (b : SemanticExecutionBindingV1) :
    Except Raised SemanticExecutionBindingV1 := do
  b.check rt
  return b

end SemanticExecutionBindingV1

-- ============================================================= subject

structure SemanticSubjectV1 where
  schemaVersion : Int
  subjectId : Text
  requirements : List RequirementRefV1
  exactBaseSha : Text
  exactHeadSha : Text
  specDigest : Text
  architectureDigest : Text
  authorityDigest : Text
  diffDigest : Text
  deterministicEvidenceDigest : Text
  holdoutEvidenceDigest : Text
  reviewEvidenceDigest : Text
  originalWriterId : Text
  originalWriterContextDigest : Text
  riskLevel : Text
  diffLines : Int
  diffLimit : Int
  deriving DecidableEq

namespace SemanticSubjectV1

def fields : List (Member SemanticSubjectV1) := [
  .of "schema_version" schemaVersion,
  .of "subject_id" subjectId,
  .of "requirements" requirements,
  .of "exact_base_sha" exactBaseSha,
  .of "exact_head_sha" exactHeadSha,
  .of "spec_digest" specDigest,
  .of "architecture_digest" architectureDigest,
  .of "authority_digest" authorityDigest,
  .of "diff_digest" diffDigest,
  .of "deterministic_evidence_digest" deterministicEvidenceDigest,
  .of "holdout_evidence_digest" holdoutEvidenceDigest,
  .of "review_evidence_digest" reviewEvidenceDigest,
  .of "original_writer_id" originalWriterId,
  .of "original_writer_context_digest" originalWriterContextDigest,
  .of "risk_level" riskLevel,
  .of "diff_lines" diffLines,
  .of "diff_limit" diffLimit]

theorem nodup_fields : (fields.map Member.name).Nodup := by
  decide

def message (s : SemanticSubjectV1) : List UInt8 :=
  utf8 (canonicalJson (Json.members fields s))

/-- `JsonContract.digest` -/
def digest (rt : Runtime) (s : SemanticSubjectV1) : Text :=
  (rt.sha256 s.message).text

/-- `from_dict`, of a mapping with these values. -/
def fromDict (rt : Runtime) (s : SemanticSubjectV1) :
    Except Raised SemanticSubjectV1 := do
  require (s.schemaVersion == 1) "unsupported_version" "semantic_subject"
  let requirements ← requirementsOf rt (Document.json s.requirements)
  require (riskLevels.contains s.riskLevel) "risk_level"
  checkInteger s.diffLines "diff_lines" 0 1000000
  checkInteger s.diffLimit "diff_limit" 1 1000000
  rt.checkId s.subjectId "subject_id"
  checkHex 40 s.exactBaseSha "exact_base_sha"
  checkHex 40 s.exactHeadSha "exact_head_sha"
  checkHex 64 s.specDigest "spec_digest"
  checkHex 64 s.architectureDigest "architecture_digest"
  checkHex 64 s.authorityDigest "authority_digest"
  checkHex 64 s.diffDigest "diff_digest"
  checkHex 64 s.deterministicEvidenceDigest "deterministic_evidence_digest"
  checkHex 64 s.holdoutEvidenceDigest "holdout_evidence_digest"
  checkHex 64 s.reviewEvidenceDigest "review_evidence_digest"
  rt.checkId s.originalWriterId "original_writer_id"
  checkHex 64 s.originalWriterContextDigest "original_writer_context_digest"
  return { s with requirements := requirements }

end SemanticSubjectV1

-- ============================================================== result

structure SemanticBridgeResult where
  binding : SemanticExecutionBindingV1
  validationInputs : SemanticValidationInputsV1
  subject : SemanticSubjectV1
  deriving DecidableEq

namespace SemanticBridgeResult

/-- What the envelope is written from: the three digests. -/
structure Digests where
  bindingDigest : Text
  validationInputsDigest : Text
  subjectDigest : Text

def Digests.fields : List (Member Digests) := [
  .of "binding_digest" bindingDigest,
  .of "validation_inputs_digest" validationInputsDigest,
  .of "subject_digest" subjectDigest]

def digests (rt : Runtime) (r : SemanticBridgeResult) : Digests where
  bindingDigest := r.binding.digest rt
  validationInputsDigest := r.validationInputs.digest rt
  subjectDigest := r.subject.digest rt

def message (rt : Runtime) (r : SemanticBridgeResult) : List UInt8 :=
  utf8 (canonicalJson
    (contractJson "adaptive-factory.semantic-subject-envelope/v1"
      Digests.fields (r.digests rt)))

/-- `envelope_digest` -/
def envelopeDigest (rt : Runtime) (r : SemanticBridgeResult) : Text :=
  (rt.sha256 (r.message rt)).text

end SemanticBridgeResult

-- ============================================================ the parts

section Parts

variable (rt : Runtime)

/-- `_validated_packet` -/
def validatedPacket (packet : TaskPacketV1) :
    Except Raised TaskPacketV1 :=
  match TaskPacketV1.fromDict rt packet with
  | none => .error (.contract "semantic_packet_invalid" [])
  | some parsed => do
      require (parsed = packet) "semantic_packet_digest_mismatch"
      require (packet.role == "writer".toList) "semantic_writer_required"
      return packet

/-- `_validated_manifest` -/
def validatedManifest (packet : TaskPacketV1) (manifest : RunManifestV1) :
    Except Raised RunManifestV1 :=
  match RunManifestV1.fromPacket rt packet manifest.deadline with
  | none => .error (.contract "semantic_manifest_invalid" [])
  | some expected => do
      require (manifest = expected) "semantic_manifest_binding_mismatch"
      return manifest

/-- `_validated_snapshot` -/
def validatedSnapshot (snapshot : WorkspaceSnapshotV1) :
    Except Raised WorkspaceSnapshotV1 :=
  match WorkspaceSnapshotV1.fromDict rt snapshot with
  | none => .error (.contract "semantic_snapshot_invalid" [])
  | some parsed => do
      require (parsed = snapshot) "semantic_snapshot_digest_mismatch"
      return snapshot

/-- `_validated_result` -/
def validatedResult (result : WorkspaceResultV1) :
    Except Raised WorkspaceResultV1 :=
  match WorkspaceResultV1.fromDict rt result with
  | none => .error (.contract "semantic_result_invalid" [])
  | some parsed => do
      require (parsed = result) "semantic_result_digest_mismatch"
      require (result.terminalStage == "completed".toList
          && result.m4Status == "ready_for_human".toList)
        "semantic_result_not_ready"
      require (result.failureClass.isNone && result.failureReason.isNone)
        "semantic_result_failure_mismatch"
      return result

/-- `_validated_terminal` -/
def validatedTerminal (packet : TaskPacketV1) (terminal : TerminalProposal) :
    Except Raised TerminalProposal := do
  require (terminal.proposalIdempotencyKey rt == terminal.idempotencyKey)
    "semantic_terminal_digest_mismatch"
  require (terminal.taskId == packet.taskId
      && terminal.runId == packet.runId
      && terminal.packetDigest == packet.packetDigest
      && terminal.fence == packet.fence
      && terminal.authorRole == "writer".toList
      && terminal.terminalType == "run.completed".toList
      && terminal.failureClass.isNone && terminal.reason.isNone
      && terminal.diagnostic.isNone)
    "semantic_terminal_binding_mismatch"
  return terminal

-- ========================================================= the artifacts

/-- The loop over the proposals. -/
def checkProposal (packet : TaskPacketV1) (p : ArtifactProposal) :
    Except Raised Unit := do
  require (p.proposalIdempotencyKey rt == p.idempotencyKey)
    "semantic_artifact_digest_mismatch"
  require (p.taskId == packet.taskId && p.runId == packet.runId
      && p.packetDigest == packet.packetDigest && p.fence == packet.fence
      && p.authorRole == "writer".toList)
    "semantic_artifact_binding_mismatch"

/-- The loop over the attestations. -/
def checkAttestation (packet : TaskPacketV1) (a : ArtifactAttestationV1) :
    Except Raised Unit := do
  require (ArtifactAttestationV1.fromDict rt a = some a)
    "semantic_attestation_digest_mismatch"
  require (a.taskId == packet.taskId && a.runId == packet.runId
      && a.repositoryId == packet.repositoryId
      && a.packetDigest == packet.packetDigest
      && a.workspaceHandle == packet.workspaceHandle
      && a.fence == packet.fence && a.authorRole == "writer".toList)
    "semantic_attestation_binding_mismatch"

/-- What a proposal and its attestation have in common. -/
def Matches (p : ArtifactProposal) (a : ArtifactAttestationV1) : Prop :=
  p.sequence = a.producerSequence ∧ p.artifactClass = a.artifactClass
    ∧ p.path = a.path ∧ p.sha256 = a.sha256 ∧ p.sizeBytes = a.sizeBytes
    ∧ p.mediaType = a.mediaType

instance (p : ArtifactProposal) (a : ArtifactAttestationV1) :
    Decidable (Matches p a) := by
  unfold Matches
  infer_instance

/-- The loop that looks up each proposal's attestation. -/
def checkMatch (attestations : List ArtifactAttestationV1)
    (p : ArtifactProposal) : Except Raised Unit :=
  match attestations.find? fun a =>
      a.artifactAttestationDigest == p.artifactAttestationDigest with
  | none =>
      .error (.contract "semantic_artifact_attestation_set_mismatch" [])
  | some a =>
      require (Matches p a) "semantic_artifact_attestation_binding_mismatch"

/-- `_validated_artifacts` -/
def validatedArtifacts (packet : TaskPacketV1)
    (proposals : List ArtifactProposal)
    (attestations : List ArtifactAttestationV1) :
    Except Raised (List ArtifactProposal × List ArtifactAttestationV1) := do
  require (proposals.length ≤ 256) "semantic_artifact_proposals"
  require (attestations.length ≤ 256) "semantic_artifact_attestations"
  let proposalValues := sortedBy ArtifactProposal.idempotencyKey proposals
  let attestationValues :=
    sortedBy ArtifactAttestationV1.artifactAttestationDigest attestations
  require (decide (proposalValues.map (·.idempotencyKey)).Nodup)
    "semantic_artifact_proposals"
  require
    (decide (attestationValues.map (·.artifactAttestationDigest)).Nodup)
    "semantic_artifact_attestations"
  proposalValues.forM (checkProposal rt packet)
  attestationValues.forM (checkAttestation rt packet)
  require (proposalValues.length == attestationValues.length)
    "semantic_artifact_attestation_set_mismatch"
  proposalValues.forM (checkMatch attestationValues)
  return (proposalValues, attestationValues)

/-- `workspace_evidence_digest` of the artifacts; `_hex` and the order can
only fail for keys that no digest is. -/
def artifactEvidenceDigest (keys : List Text) : Except Raised Text := do
  require (keys.length ≤ 100000) "invalid_list" "artifacts"
  require (keys.all (isHex 64)) "invalid_digest" "artifacts"
  require (isSortedUnique keys) "invalid_list" "artifacts"
  return rt.domainDigest "adaptive-factory.workspace-artifacts/v1"
    (Document.json keys)

end Parts

-- =========================================================== the bundle

/-- The arguments of `build_semantic_subject`. -/
structure Bundle where
  packet : TaskPacketV1
  manifest : RunManifestV1
  snapshot : WorkspaceSnapshotV1
  result : WorkspaceResultV1
  terminalProposal : TerminalProposal
  artifactProposals : List ArtifactProposal
  artifactAttestations : List ArtifactAttestationV1
  validationInputs : ValidationArgument

section Build

variable (rt : Runtime)

/-- What the second half of `build_semantic_subject` works on: the parts,
the artifacts in the order of their digests, the inputs as an object. -/
@[ext] structure Evidence where
  packet : TaskPacketV1
  manifest : RunManifestV1
  snapshot : WorkspaceSnapshotV1
  result : WorkspaceResultV1
  terminal : TerminalProposal
  artifacts : List ArtifactProposal
  attestations : List ArtifactAttestationV1
  inputs : SemanticValidationInputsV1

/-- The parts of a bundle, each checked by itself and against the packet. -/
def Bundle.evidence (b : Bundle) : Except Raised Evidence := do
  let packet ← validatedPacket rt b.packet
  let manifest ← validatedManifest rt packet b.manifest
  let snapshot ← validatedSnapshot rt b.snapshot
  let result ← validatedResult rt b.result
  let terminal ← validatedTerminal rt packet b.terminalProposal
  let artifacts ← validatedArtifacts rt packet b.artifactProposals
    b.artifactAttestations
  let sequences := artifacts.1.map (·.sequence)
  require (decide sequences.Nodup
      && sequences.all fun sequence => sequence < terminal.sequence)
    "semantic_artifact_sequence_mismatch"
  let inputs ← b.validationInputs.read rt
  return {
    packet := packet
    manifest := manifest
    snapshot := snapshot
    result := result
    terminal := terminal
    artifacts := artifacts.1
    attestations := artifacts.2
    inputs := inputs }

namespace Evidence

/-- The checks of one part against another. -/
def check (e : Evidence) : Except Raised Unit := do
  require (e.result.taskId == e.packet.taskId
      && e.result.runId == e.packet.runId
      && e.result.taskPacketDigest == e.packet.packetDigest
      && e.result.runManifestDigest == e.manifest.manifestDigest
      && e.snapshot.repositoryId == e.packet.repositoryId
      && e.snapshot.workspaceHandle == e.packet.workspaceHandle
      && e.snapshot.inputHeadSha == e.packet.authority.exactHeadSha
      && e.snapshot.resultHeadSha == e.result.exactHeadSha
      && e.snapshot.workspaceSnapshotDigest
        == e.result.workspaceSnapshotDigest)
    "semantic_execution_bundle_binding_mismatch"
  require (e.result.terminalProposalDigest == e.terminal.idempotencyKey)
    "semantic_terminal_result_mismatch"
  let evidence ← artifactEvidenceDigest rt
    (e.artifacts.map (·.idempotencyKey))
  require (e.result.artifactManifestDigest == evidence)
    "semantic_artifact_manifest_mismatch"
  require (e.inputs.workspaceResultDigest == e.result.workspaceResultDigest)
    "semantic_validation_result_mismatch"
  let acceptance := (e.inputs.requirements.filter fun r =>
    r.kind == "acceptance_criterion".toList).map (·.requirementId)
  require (acceptance.toFinset = e.packet.acceptanceIds.toFinset)
    "semantic_acceptance_set_mismatch"

/-- `authority_digest` -/
def authorityDigest (e : Evidence) : Text :=
  rt.canonicalDigest (contractJson
    "adaptive-factory.semantic-authority-binding/v1"
    [.of "authority" TaskPacketV1.authority] e.packet)

/-- The values of the binding. -/
def binding (e : Evidence) : SemanticExecutionBindingV1 where
  schemaVersion := 1
  taskId := e.packet.taskId
  runId := e.packet.runId
  owner := e.packet.owner
  fence := e.packet.fence
  role := e.packet.role
  repositoryId := e.packet.repositoryId
  workspaceHandle := e.packet.workspaceHandle
  legacyIntentDigest := e.packet.legacyIntentDigest
  taskPacketDigest := e.packet.packetDigest
  runManifestDigest := e.manifest.manifestDigest
  workspaceResultDigest := e.result.workspaceResultDigest
  workspaceSnapshotDigest := e.snapshot.workspaceSnapshotDigest
  terminalProposalDigest := e.terminal.idempotencyKey
  artifactManifestDigest := e.result.artifactManifestDigest
  noteManifestDigest := e.result.noteManifestDigest
  usageEvidenceDigest := e.result.usageEvidenceDigest
  diagnosticsDigest := e.result.diagnosticsDigest
  exactBaseSha := e.packet.authority.exactBaseSha
  inputHeadSha := e.snapshot.inputHeadSha
  exactHeadSha := e.result.exactHeadSha
  terminalStage := e.result.terminalStage
  m4Status := e.result.m4Status
  failureClass := e.result.failureClass
  failureReason := e.result.failureReason
  artifactProposalDigests := e.artifacts.map (·.idempotencyKey)
  artifactAttestationDigests :=
    e.attestations.map (·.artifactAttestationDigest)

/-- The values of the subject, given the binding. -/
def subject (e : Evidence) (binding : SemanticExecutionBindingV1) :
    SemanticSubjectV1 where
  schemaVersion := 1
  subjectId := "semantic:".toList ++ e.result.workspaceResultDigest
  requirements := e.inputs.requirements
  exactBaseSha := e.packet.authority.exactBaseSha
  exactHeadSha := e.result.exactHeadSha
  specDigest := e.packet.authority.specDigest
  architectureDigest := e.packet.authority.architectureDigest
  authorityDigest := e.authorityDigest rt
  diffDigest := e.snapshot.diffDigest
  deterministicEvidenceDigest := binding.digest rt
  holdoutEvidenceDigest := e.inputs.holdoutEvidenceDigest
  reviewEvidenceDigest := e.inputs.reviewEvidenceDigest
  originalWriterId := e.packet.owner
  originalWriterContextDigest := e.inputs.originalWriterContextDigest
  riskLevel := e.inputs.riskLevel
  diffLines := e.snapshot.diffLines
  diffLimit := e.inputs.diffLimit

/-- The second half of `build_semantic_subject`. -/
def build (e : Evidence) : Except Raised SemanticBridgeResult := do
  e.check rt
  let binding ← SemanticExecutionBindingV1.fromDict rt e.binding
  let subject ← SemanticSubjectV1.fromDict rt (e.subject rt binding)
  return {
    binding := binding
    validationInputs := e.inputs
    subject := subject }

end Evidence

/-- `build_semantic_subject` -/
def buildSemanticSubject (b : Bundle) :
    Except Raised SemanticBridgeResult := do
  let evidence ← b.evidence rt
  evidence.build rt

end Build

end Exolon.Semantic
