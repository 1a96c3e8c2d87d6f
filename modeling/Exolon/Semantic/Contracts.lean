/-
The evidence of a finished run: packet, manifest, snapshot, result, the
terminal proposal, and the artifacts with their attestations.

Each contract is a structure of what its dataclass holds. Its `fields` are
what its digest is of, under the names the source hashes them by, and its
`accepts` is what `from_dict` asks of the same values, in the order it
does; every caller here folds its errors into one, so it answers a `Bool`.

# What is left open

`Runtime` has what is not decided here: SHA-256, the Unicode normal form,
`datetime.fromisoformat` (with the change to UTC), and the search for
structural secrets in a path.
-/
import Exolon.Factory.Audit
import Exolon.Lib.Record

namespace Exolon.Semantic

open Factory (Digest Timestamp utf8 canonicalJson)

-- ============================================================== runtime

structure Runtime where
  sha256 : List UInt8 → Digest
  isNfc : Text → Bool
  fromisoformat : Text → Option Timestamp
  containsStructuralSecret : Text → Bool

-- ============================================================= patterns

/-- `HEX40` and `HEX64` -/
def isHex (width : Nat) (t : Text) : Bool :=
  t.length == width
    && t.all fun c => ('0' ≤ c && c ≤ '9') || ('a' ≤ c && c ≤ 'f')

/-- `_IDENTIFIER` -/
def isIdentifier : Text → Bool
  | [] => false
  | c :: cs => c.isAlphanum && cs.length ≤ 127
      && cs.all fun c => c.isAlphanum || "._:/-".toList.contains c

/-- `_VERSION` -/
def isVersion (t : Text) : Bool :=
  let numbers := (t.takeWhile fun c => c ≠ '-' && c ≠ '+').splitOn '.'
  let suffix := t.dropWhile fun c => c ≠ '-' && c ≠ '+'
  (numbers.length == 2 || numbers.length == 3)
    && numbers.all (fun n => !n.isEmpty && n.all Char.isDigit)
    && (suffix.isEmpty || (!suffix.tail.isEmpty && suffix.tail.all fun c =>
      c.isAlphanum || c == '.' || c == '-'))

/-- `_WORKSPACE` -/
def isWorkspace (t : Text) : Bool :=
  t.take 10 == "workspace:".toList && isHex 64 (t.drop 10)

/-- `_MEDIA_TYPE` -/
def isMediaType (t : Text) : Bool :=
  let parts := t.splitOn '/'
  parts.length == 2 && parts.all fun part => !part.isEmpty
    && part.all fun c => c.isLower || c.isDigit || ".+-".toList.contains c

/-- `PurePosixPath(t).parts`, of a relative path. -/
def pathParts (t : Text) : List Text :=
  (t.splitOn '/').filter fun part => part ≠ [] ∧ part ≠ ['.']

/-- A relative path without a step up or into `.git`, as `str` prints it. -/
def isCleanPath (t : Text) : Bool :=
  let parts := pathParts t
  t.head? != some '/' && !parts.contains "..".toList
    && !parts.contains ".git".toList
    && (if parts.isEmpty then ['.'] else ['/'].intercalate parts) == t

/-- `result == tuple(sorted(set(result)))` -/
def isSortedUnique (ts : List Text) : Bool :=
  decide (ts.Pairwise (· < ·))

namespace Runtime

variable (rt : Runtime)

/-- `_text` -/
def isText (maximum : Nat) (t : Text) : Bool :=
  !t.isEmpty && rt.isNfc t && (utf8 t).length ≤ maximum
    && t.all fun c => 32 ≤ c.toNat

/-- `_identifier`, and `_id` of the older contracts -/
def identifier (t : Text) : Bool := rt.isText 128 t && isIdentifier t

/-- `_sorted_unique` -/
def identifiers (ts : List Text) : Bool :=
  ts.length ≤ 64 && ts.all rt.identifier && isSortedUnique ts

-- ============================================================== digests

/-- What `_domain_digest` hashes: the domain, a zero, the JSON. -/
def domainBytes (domain : String) (v : Json) : List UInt8 :=
  utf8 domain.toList ++ 0 :: utf8 (canonicalJson v)

def domainDigest (domain : String) (v : Json) : Text :=
  (rt.sha256 (domainBytes domain v)).text

/-- `canonical_digest` -/
def canonicalDigest (v : Json) : Text :=
  (rt.sha256 (utf8 (canonicalJson v))).text

end Runtime

/-- `{"contract": contract, **values}` -/
def contractJson {α : Type} (contract : String) (fields : List (Member α))
    (a : α) : Json :=
  Json.members (.const "contract" contract :: fields) a

-- ========================================================== authority

structure AuthorityBindingV1 where
  exactBaseSha : Text
  exactHeadSha : Text
  routeId : Text
  changeId : Text
  specDigest : Text
  architectureDigest : Text
  governanceDigest : Text
  policyDigest : Text
  promptTemplateDigest : Text
  roleDefinitionDigest : Text
  toolPolicyDigest : Text
  outputSchemaDigest : Text
  deriving DecidableEq

namespace AuthorityBindingV1

def fields : List (Member AuthorityBindingV1) := [
  .of "exact_base_sha" exactBaseSha,
  .of "exact_head_sha" exactHeadSha,
  .of "route_id" routeId,
  .of "change_id" changeId,
  .of "spec_digest" specDigest,
  .of "architecture_digest" architectureDigest,
  .of "governance_digest" governanceDigest,
  .of "policy_digest" policyDigest,
  .of "prompt_template_digest" promptTemplateDigest,
  .of "role_definition_digest" roleDefinitionDigest,
  .of "tool_policy_digest" toolPolicyDigest,
  .of "output_schema_digest" outputSchemaDigest]

theorem nodup_fields : (fields.map Member.name).Nodup := by
  decide

instance : Document AuthorityBindingV1 :=
  .record fields nodup_fields fun a b h => by
    cases a
    cases b
    simpa [fields] using h

def accepts (rt : Runtime) (a : AuthorityBindingV1) : Bool :=
  isHex 40 a.exactBaseSha && isHex 40 a.exactHeadSha
    && rt.identifier a.routeId && rt.identifier a.changeId
    && isHex 64 a.specDigest && isHex 64 a.architectureDigest
    && isHex 64 a.governanceDigest && isHex 64 a.policyDigest
    && isHex 64 a.promptTemplateDigest && isHex 64 a.roleDefinitionDigest
    && isHex 64 a.toolPolicyDigest && isHex 64 a.outputSchemaDigest

end AuthorityBindingV1

-- =========================================================== selection

structure ProviderProfileV1 where
  providerId : Text
  adapterId : Text
  adapterVersion : Text
  adapterDigest : Text
  nativeVersion : Text
  nativeDigest : Text
  modelId : Text
  capabilities : List Text
  eligible : Bool
  deriving DecidableEq

namespace ProviderProfileV1

def fields : List (Member ProviderProfileV1) := [
  .of "provider_id" providerId,
  .of "adapter_id" adapterId,
  .of "adapter_version" adapterVersion,
  .of "adapter_digest" adapterDigest,
  .of "native_version" nativeVersion,
  .of "native_digest" nativeDigest,
  .of "model_id" modelId,
  .of "capabilities" capabilities,
  .of "eligible" eligible]

theorem nodup_fields : (fields.map Member.name).Nodup := by
  decide

instance : Document ProviderProfileV1 :=
  .record fields nodup_fields fun a b h => by
    cases a
    cases b
    simpa [fields] using h

def accepts (rt : Runtime) (p : ProviderProfileV1) : Bool :=
  p.eligible && rt.isText 128 p.adapterVersion && isVersion p.adapterVersion
    && rt.isText 128 p.nativeVersion && isVersion p.nativeVersion
    && rt.identifier p.providerId && rt.identifier p.adapterId
    && isHex 64 p.adapterDigest && isHex 64 p.nativeDigest
    && rt.identifier p.modelId && rt.identifiers p.capabilities

end ProviderProfileV1

structure CapabilityPolicyV1 where
  allowedPaths : List Text
  allowedTools : List Text
  networkDestinations : List Text
  artifactClasses : List Text
  environmentNames : List Text
  deriving DecidableEq

namespace CapabilityPolicyV1

def fields : List (Member CapabilityPolicyV1) := [
  .of "allowed_paths" allowedPaths,
  .of "allowed_tools" allowedTools,
  .of "network_destinations" networkDestinations,
  .of "artifact_classes" artifactClasses,
  .of "environment_names" environmentNames]

theorem nodup_fields : (fields.map Member.name).Nodup := by
  decide

instance : Document CapabilityPolicyV1 :=
  .record fields nodup_fields fun a b h => by
    cases a
    cases b
    simpa [fields] using h

def accepts (rt : Runtime) (p : CapabilityPolicyV1) : Bool :=
  p.networkDestinations.isEmpty
    && rt.identifiers p.allowedPaths && p.allowedPaths.all isCleanPath
    && rt.identifiers p.allowedTools && rt.identifiers p.artifactClasses
    && rt.identifiers p.environmentNames

end CapabilityPolicyV1

structure ExecutionStageV1 where
  name : Text
  owner : Text
  wallSeconds : Int
  deriving DecidableEq

/-- `_STAGES` -/
def stageNames : List Text :=
  ["prepare".toList, "invoke".toList, "collect".toList, "finalize".toList]

/-- `_OWNERS` -/
def stageOwners : List Text :=
  ["broker".toList, "adapter".toList, "control_plane".toList]

namespace ExecutionStageV1

def fields : List (Member ExecutionStageV1) := [
  .of "name" name,
  .of "owner" owner,
  .of "wall_seconds" wallSeconds]

theorem nodup_fields : (fields.map Member.name).Nodup := by
  decide

instance : Document ExecutionStageV1 :=
  .record fields nodup_fields fun a b h => by
    cases a
    cases b
    simpa [fields] using h

def accepts (rt : Runtime) (s : ExecutionStageV1) : Bool :=
  rt.identifier s.name && rt.identifier s.owner
    && stageNames.contains s.name && stageOwners.contains s.owner
    && 1 ≤ s.wallSeconds && s.wallSeconds ≤ 14400

end ExecutionStageV1

structure ExecutionPlanV1 where
  stages : List ExecutionStageV1
  deriving DecidableEq

namespace ExecutionPlanV1

def fields : List (Member ExecutionPlanV1) := [
  .of "stages" stages]

theorem nodup_fields : (fields.map Member.name).Nodup := by
  decide

instance : Document ExecutionPlanV1 :=
  .record fields nodup_fields fun a b h => by
    cases a
    cases b
    simpa [fields] using h

def accepts (rt : Runtime) (p : ExecutionPlanV1) : Bool :=
  p.stages.all (·.accepts rt) && p.stages.map (·.name) == stageNames

end ExecutionPlanV1

structure TaskLimitsV1 where
  wallSeconds : Int
  maxCostUsdMicros : Int
  maxTokenUnits : Int
  maxOutputBytes : Int
  maxEvents : Int
  infrastructureRetries : Int
  semanticRepairs : Int
  deriving DecidableEq

namespace TaskLimitsV1

def fields : List (Member TaskLimitsV1) := [
  .of "wall_seconds" wallSeconds,
  .of "max_cost_usd_micros" maxCostUsdMicros,
  .of "max_token_units" maxTokenUnits,
  .of "max_output_bytes" maxOutputBytes,
  .of "max_events" maxEvents,
  .of "infrastructure_retries" infrastructureRetries,
  .of "semantic_repairs" semanticRepairs]

theorem nodup_fields : (fields.map Member.name).Nodup := by
  decide

instance : Document TaskLimitsV1 :=
  .record fields nodup_fields fun a b h => by
    cases a
    cases b
    simpa [fields] using h

/-- The defaults of the class, which are its ceilings. -/
def ceilings : TaskLimitsV1 where
  wallSeconds := 14400
  maxCostUsdMicros := 25000000
  maxTokenUnits := 2000000
  maxOutputBytes := 10000000
  maxEvents := 100000
  infrastructureRetries := 2
  semanticRepairs := 3

def accepts (l : TaskLimitsV1) : Bool :=
  [wallSeconds, maxCostUsdMicros, maxTokenUnits, maxOutputBytes, maxEvents,
      infrastructureRetries, semanticRepairs].all
    (fun get => 0 ≤ get l && get l ≤ get ceilings)
    && 1 ≤ l.semanticRepairs && l.semanticRepairs ≤ 3

end TaskLimitsV1

-- ============================================================== packet

def protocolVersion : Text := "adaptive-factory.execution/v1".toList

structure TaskPacketV1 where
  contractVersion : Int
  protocolVersion : Text
  taskId : Text
  runId : Text
  owner : Text
  fence : Int
  role : Text
  repositoryId : Text
  legacyIntentDigest : Text
  authority : AuthorityBindingV1
  provider : ProviderProfileV1
  capabilityPolicy : CapabilityPolicyV1
  plan : ExecutionPlanV1
  workspaceHandle : Text
  acceptanceIds : List Text
  limits : TaskLimitsV1
  packetDigest : Text
  deriving DecidableEq

namespace TaskPacketV1

/-- What the packet's digest is of. -/
def fields : List (Member TaskPacketV1) := [
  .of "contract_version" contractVersion,
  .of "protocol_version" protocolVersion,
  .of "task_id" taskId,
  .of "run_id" runId,
  .of "owner" owner,
  .of "fence" fence,
  .of "role" role,
  .of "repository_id" repositoryId,
  .of "legacy_intent_digest" legacyIntentDigest,
  .of "authority" authority,
  .of "provider" provider,
  .of "capability_policy" capabilityPolicy,
  .of "plan" plan,
  .of "workspace_handle" workspaceHandle,
  .of "acceptance_ids" acceptanceIds,
  .of "limits" limits]

theorem nodup_fields : (fields.map Member.name).Nodup := by
  decide

def message (p : TaskPacketV1) : List UInt8 :=
  Runtime.domainBytes "adaptive-factory.task-packet/v1"
    (Json.members fields p)

def digest (rt : Runtime) (p : TaskPacketV1) : Text :=
  (rt.sha256 p.message).text

def accepts (rt : Runtime) (p : TaskPacketV1) : Bool :=
  p.contractVersion == 1 && p.protocolVersion == Semantic.protocolVersion
    && 1 ≤ p.fence
    && (p.role == "reader".toList || p.role == "writer".toList)
    && isWorkspace p.workspaceHandle && p.limits.accepts
    && rt.identifier p.taskId && rt.identifier p.runId
    && rt.identifier p.owner && rt.identifier p.repositoryId
    && isHex 64 p.legacyIntentDigest && p.authority.accepts rt
    && p.provider.accepts rt && p.capabilityPolicy.accepts rt
    && p.plan.accepts rt && rt.identifiers p.acceptanceIds
    && (p.plan.stages.map (·.wallSeconds)).sum ≤ p.limits.wallSeconds

/-- `from_dict(packet.to_dict(include_digest=False))` -/
def fromDict (rt : Runtime) (p : TaskPacketV1) : Option TaskPacketV1 :=
  if p.accepts rt then some { p with packetDigest := p.digest rt } else none

end TaskPacketV1

-- ============================================================ manifest

structure RunManifestV1 where
  contractVersion : Int
  taskId : Text
  runId : Text
  packetDigest : Text
  providerId : Text
  adapterId : Text
  nativeVersion : Text
  modelId : Text
  workspaceHandle : Text
  deadline : Text
  stage : Text
  manifestDigest : Text
  deriving DecidableEq

namespace RunManifestV1

def fields : List (Member RunManifestV1) := [
  .of "contract_version" contractVersion,
  .of "task_id" taskId,
  .of "run_id" runId,
  .of "packet_digest" packetDigest,
  .of "provider_id" providerId,
  .of "adapter_id" adapterId,
  .of "native_version" nativeVersion,
  .of "model_id" modelId,
  .of "workspace_handle" workspaceHandle,
  .of "deadline" deadline,
  .of "stage" stage]

theorem nodup_fields : (fields.map Member.name).Nodup := by
  decide

def message (m : RunManifestV1) : List UInt8 :=
  Runtime.domainBytes "adaptive-factory.run-manifest/v1"
    (Json.members fields m)

/-- The manifest of a packet, with no digest yet. -/
def draft (packet : TaskPacketV1) (deadline : Timestamp) :
    RunManifestV1 where
  contractVersion := 1
  taskId := packet.taskId
  runId := packet.runId
  packetDigest := packet.packetDigest
  providerId := packet.provider.providerId
  adapterId := packet.provider.adapterId
  nativeVersion := packet.provider.nativeVersion
  modelId := packet.provider.modelId
  workspaceHandle := packet.workspaceHandle
  deadline := deadline.isoformat
  stage := "prepared".toList
  manifestDigest := []

def fromPacket (rt : Runtime) (packet : TaskPacketV1) (deadline : Text) :
    Option RunManifestV1 :=
  (rt.fromisoformat deadline).map fun parsed =>
    let m := draft packet parsed
    { m with manifestDigest := (rt.sha256 m.message).text }

end RunManifestV1

-- ============================================================ snapshot

structure WorkspaceSnapshotV1 where
  contractVersion : Int
  repositoryId : Text
  workspaceHandle : Text
  inputHeadSha : Text
  resultHeadSha : Text
  diffDigest : Text
  diffLines : Int
  source : Text
  workspaceSnapshotDigest : Text
  deriving DecidableEq

namespace WorkspaceSnapshotV1

def fields : List (Member WorkspaceSnapshotV1) := [
  .of "contract_version" contractVersion,
  .of "repository_id" repositoryId,
  .of "workspace_handle" workspaceHandle,
  .of "input_head_sha" inputHeadSha,
  .of "result_head_sha" resultHeadSha,
  .of "diff_digest" diffDigest,
  .of "diff_lines" diffLines,
  .of "source" source]

theorem nodup_fields : (fields.map Member.name).Nodup := by
  decide

def message (s : WorkspaceSnapshotV1) : List UInt8 :=
  utf8 (canonicalJson
    (contractJson "adaptive-factory.workspace-snapshot/v1" fields s))

def accepts (s : WorkspaceSnapshotV1) : Bool :=
  s.contractVersion == 1 && s.source == "trusted_git_broker".toList
    && isIdentifier s.repositoryId && isWorkspace s.workspaceHandle
    && isHex 40 s.inputHeadSha && isHex 40 s.resultHeadSha
    && isHex 64 s.diffDigest && 0 ≤ s.diffLines && s.diffLines ≤ 1000000

/-- `from_dict`, which refuses a digest that is not the facts' own. -/
def fromDict (rt : Runtime) (s : WorkspaceSnapshotV1) :
    Option WorkspaceSnapshotV1 :=
  if s.accepts && s.workspaceSnapshotDigest == (rt.sha256 s.message).text
  then some { s with workspaceSnapshotDigest := (rt.sha256 s.message).text }
  else none

end WorkspaceSnapshotV1

-- ============================================================== result

structure WorkspaceResultV1 where
  contractVersion : Int
  taskId : Text
  runId : Text
  taskPacketDigest : Text
  runManifestDigest : Text
  exactHeadSha : Text
  workspaceSnapshotDigest : Text
  terminalStage : Text
  terminalProposalDigest : Text
  artifactManifestDigest : Text
  noteManifestDigest : Text
  usageEvidenceDigest : Text
  diagnosticsDigest : Text
  m4Status : Text
  failureClass : Option Text
  failureReason : Option Text
  workspaceResultDigest : Text
  deriving DecidableEq

/-- `FailureClass` -/
def failureClasses : List Text := [
  "database_unavailable".toList, "worker_lost".toList,
  "provider_transport_unavailable".toList,
  "temporary_resource_exhaustion".toList, "validation".toList,
  "policy".toList, "authentication".toList, "unsupported_capability".toList,
  "budget".toList, "security".toList, "stale_input".toList,
  "protocol".toList, "provider_quality".toList]

namespace WorkspaceResultV1

def fields : List (Member WorkspaceResultV1) := [
  .of "contract_version" contractVersion,
  .of "task_id" taskId,
  .of "run_id" runId,
  .of "task_packet_digest" taskPacketDigest,
  .of "run_manifest_digest" runManifestDigest,
  .of "exact_head_sha" exactHeadSha,
  .of "workspace_snapshot_digest" workspaceSnapshotDigest,
  .of "terminal_stage" terminalStage,
  .of "terminal_proposal_digest" terminalProposalDigest,
  .of "artifact_manifest_digest" artifactManifestDigest,
  .of "note_manifest_digest" noteManifestDigest,
  .of "usage_evidence_digest" usageEvidenceDigest,
  .of "diagnostics_digest" diagnosticsDigest,
  .of "m4_status" m4Status,
  .of "failure_class" failureClass,
  .of "failure_reason" failureReason]

theorem nodup_fields : (fields.map Member.name).Nodup := by
  decide

def message (r : WorkspaceResultV1) : List UInt8 :=
  Runtime.domainBytes "adaptive-factory.workspace-result/v1"
    (Json.members fields r)

/-- What the terminal stage asks of the status and of the failure. -/
def disposed (rt : Runtime) (r : WorkspaceResultV1) : Bool :=
  let explained := match r.failureReason with
    | none => false
    | some reason => rt.isText 4096 reason
  if r.terminalStage = "completed".toList then
    r.m4Status == "ready_for_human".toList && r.failureClass.isNone
      && r.failureReason.isNone
  else if r.terminalStage = "failed".toList then
    ["retry".toList, "needs_human".toList, "dead".toList].contains r.m4Status
      && (match r.failureClass with
        | none => false
        | some failure => failureClasses.contains failure)
      && explained
  else r.m4Status == "needs_human".toList && r.failureClass.isNone
    && explained

def accepts (rt : Runtime) (r : WorkspaceResultV1) : Bool :=
  r.contractVersion == 1
    && ["completed".toList, "failed".toList, "needs_human".toList].contains
      r.terminalStage
    && isHex 64 r.terminalProposalDigest && r.disposed rt
    && rt.identifier r.taskId && rt.identifier r.runId
    && isHex 64 r.taskPacketDigest && isHex 64 r.runManifestDigest
    && isHex 40 r.exactHeadSha && isHex 64 r.workspaceSnapshotDigest
    && isHex 64 r.artifactManifestDigest && isHex 64 r.noteManifestDigest
    && isHex 64 r.usageEvidenceDigest && isHex 64 r.diagnosticsDigest

/-- `from_dict`, which refuses a digest that is not the facts' own. -/
def fromDict (rt : Runtime) (r : WorkspaceResultV1) :
    Option WorkspaceResultV1 :=
  if r.accepts rt && r.workspaceResultDigest == (rt.sha256 r.message).text
  then some { r with workspaceResultDigest := (rt.sha256 r.message).text }
  else none

end WorkspaceResultV1

-- ======================================================== attestations

structure ArtifactAttestationV1 where
  contractVersion : Int
  taskId : Text
  runId : Text
  repositoryId : Text
  packetDigest : Text
  workspaceHandle : Text
  producerSequence : Int
  fence : Int
  authorRole : Text
  artifactClass : Text
  path : Text
  sha256 : Text
  sizeBytes : Int
  mediaType : Text
  source : Text
  artifactAttestationDigest : Text
  deriving DecidableEq

namespace ArtifactAttestationV1

def fields : List (Member ArtifactAttestationV1) := [
  .of "contract_version" contractVersion,
  .of "task_id" taskId,
  .of "run_id" runId,
  .of "repository_id" repositoryId,
  .of "packet_digest" packetDigest,
  .of "workspace_handle" workspaceHandle,
  .of "producer_sequence" producerSequence,
  .of "fence" fence,
  .of "author_role" authorRole,
  .of "artifact_class" artifactClass,
  .of "path" path,
  .of "sha256" sha256,
  .of "size_bytes" sizeBytes,
  .of "media_type" mediaType,
  .of "source" source]

theorem nodup_fields : (fields.map Member.name).Nodup := by
  decide

def message (a : ArtifactAttestationV1) : List UInt8 :=
  utf8 (canonicalJson
    (contractJson "adaptive-factory.artifact-attestation/v1" fields a))

/-- `ArtifactAttestationRequest.from_facts`, and the two constants. -/
def accepts (rt : Runtime) (a : ArtifactAttestationV1) : Bool :=
  a.contractVersion == 1 && a.source == "trusted_workspace_broker".toList
    && isIdentifier a.taskId && isIdentifier a.runId
    && isIdentifier a.repositoryId && isHex 64 a.packetDigest
    && isWorkspace a.workspaceHandle
    && 1 ≤ a.producerSequence && a.producerSequence ≤ 100000
    && 1 ≤ a.fence && a.fence < 2 ^ 63
    && a.authorRole == "writer".toList && isIdentifier a.artifactClass
    && !a.path.isEmpty && !a.path.contains '\x00'
    && (utf8 a.path).length ≤ 1024 && !rt.containsStructuralSecret a.path
    && isCleanPath a.path && isHex 64 a.sha256
    && 0 ≤ a.sizeBytes && a.sizeBytes ≤ 1000000000
    && isMediaType a.mediaType

/-- `from_dict`, which refuses a digest that is not the facts' own. -/
def fromDict (rt : Runtime) (a : ArtifactAttestationV1) :
    Option ArtifactAttestationV1 :=
  if a.accepts rt && a.artifactAttestationDigest == (rt.sha256 a.message).text
  then some { a with artifactAttestationDigest := (rt.sha256 a.message).text }
  else none

end ArtifactAttestationV1

-- =========================================================== proposals

structure ArtifactProposal where
  taskId : Text
  runId : Text
  packetDigest : Text
  fence : Int
  sequence : Int
  authorRole : Text
  artifactClass : Text
  path : Text
  sha256 : Text
  sizeBytes : Int
  mediaType : Text
  artifactAttestationDigest : Text
  idempotencyKey : Text
  deriving DecidableEq

namespace ArtifactProposal

/-- The `body` of the key's object. -/
def body : List (Member ArtifactProposal) := [
  .of "artifact_class" artifactClass,
  .of "path" path,
  .of "sha256" sha256,
  .of "size_bytes" sizeBytes,
  .of "media_type" mediaType,
  .of "author_role" authorRole,
  .of "artifact_attestation_digest" artifactAttestationDigest]

theorem nodup_body : (body.map Member.name).Nodup := by
  decide

def fields : List (Member ArtifactProposal) := [
  .const "contract" "adaptive-factory.execution-proposal/v1",
  .of "task_id" taskId,
  .of "run_id" runId,
  .of "packet_digest" packetDigest,
  .of "fence" fence,
  .of "author_role" authorRole,
  .of "sequence" sequence,
  .const "event_type" "artifact.proposed",
  .nested "body" body nodup_body]

theorem nodup_fields : (fields.map Member.name).Nodup := by
  decide

def message (p : ArtifactProposal) : List UInt8 :=
  utf8 (canonicalJson (Json.members fields p))

/-- `proposal_idempotency_key` -/
def proposalIdempotencyKey (rt : Runtime) (p : ArtifactProposal) : Text :=
  (rt.sha256 p.message).text

end ArtifactProposal

structure TerminalProposal where
  taskId : Text
  runId : Text
  packetDigest : Text
  fence : Int
  sequence : Int
  authorRole : Text
  terminalType : Text
  summary : Text
  failureClass : Option Text
  reason : Option Text
  diagnostic : Option Text
  idempotencyKey : Text
  deriving DecidableEq

namespace TerminalProposal

/-- The `body` of the key's object. -/
def body : List (Member TerminalProposal) := [
  .of "terminal_type" terminalType,
  .of "author_role" authorRole,
  .of "summary" summary,
  .of "failure_class" failureClass,
  .of "reason" reason,
  .of "diagnostic" diagnostic]

theorem nodup_body : (body.map Member.name).Nodup := by
  decide

def fields : List (Member TerminalProposal) := [
  .const "contract" "adaptive-factory.execution-proposal/v1",
  .of "task_id" taskId,
  .of "run_id" runId,
  .of "packet_digest" packetDigest,
  .of "fence" fence,
  .of "author_role" authorRole,
  .of "sequence" sequence,
  .of "event_type" terminalType,
  .nested "body" body nodup_body]

theorem nodup_fields : (fields.map Member.name).Nodup := by
  decide

def message (p : TerminalProposal) : List UInt8 :=
  utf8 (canonicalJson (Json.members fields p))

/-- `proposal_idempotency_key` -/
def proposalIdempotencyKey (rt : Runtime) (p : TerminalProposal) : Text :=
  (rt.sha256 p.message).text

end TerminalProposal

end Exolon.Semantic
