/-
Task intakes, read from any JSON value.

`from_dict` and what it calls are read here with every exception they can
raise. A step that takes its value for granted raises one of Python's own:
a set of what has no hash, a subscript of what is no mapping, the encoding
of an unpaired surrogate, a point in time that has no reading in UTC.

# What is left open

`IntakeRuntime` has SHA-256, the Unicode normal form and
`datetime.fromisoformat`. The current time is its reading in UTC.
-/
import Exolon.Factory.Contracts
import Exolon.Factory.Instants
import Exolon.Semantic.Contracts

namespace Exolon.Contracts

open Factory
open Semantic (isHex isIdentifier isSortedUnique)

structure IntakeRuntime where
  sha256 : List UInt8 → Digest
  isNfc : Text → Bool
  fromisoformat : PyStr → Option DateTime

/-- What `from_dict` raises. -/
inductive Raised where
  | contract (e : ContractError)
  | typeError
  | keyError
  | unicodeEncodeError
  | overflowError
  deriving DecidableEq

/-- `raise ContractError(code, detail)` -/
def refuse {α : Type} (code : String) (detail : String := "") :
    Except Raised α :=
  .error (.contract ⟨code, py detail⟩)

/-- Refuse unless the condition holds. -/
def require (p : Prop) [Decidable p] (code : String) (detail : String := "") :
    Except Raised Unit :=
  if p then .ok () else refuse code detail

-- =================================================================== values

/-- A `list` or a `dict` has no hash. -/
def hashable : PyJson → Bool
  | .list _ => false
  | .dict _ => false
  | _ => true

/-- `set(value)`, as a list of what is in it. -/
def elements : PyJson → Except Raised (List PyJson)
  | .dict members => .ok (members.map fun member => .str member.1)
  | .list items => if items.all hashable then .ok items else .error .typeError
  | .str s => .ok (s.map fun c => .str [c])
  | _ => .error .typeError

/-- A string that is one of some names. -/
def isNamed (names : List PyStr) : PyJson → Bool
  | .str s => names.contains s
  | _ => false

/-- A list of strings. -/
def strings? : List PyJson → Option (List PyStr)
  | [] => some []
  | .str s :: items => (strings? items).map (s :: ·)
  | _ => none

/-- `_closed` -/
def closedSet (value : PyJson) (expected : List PyStr) :
    Except Raised Unit := do
  let items ← elements value
  let unknown := items.filter fun item => !isNamed expected item
  let missing := expected.filter fun name => !items.any (isNamed [name])
  if unknown.isEmpty then
    if missing = [] then .ok ()
    else .error (.contract ⟨"missing_fields", joinedNames missing⟩)
  else
    match strings? unknown with
    | some names =>
        .error (.contract ⟨"unknown_fields", joinedNames names.dedup⟩)
    | none => .error .typeError

/-- `value[name]` -/
def subscript (value : PyJson) (name : String) : Except Raised PyJson :=
  match value with
  | .dict members =>
      match members.lookup (py name) with
      | some v => .ok v
      | none => .error .keyError
  | _ => .error .typeError

/-- The nearest double of a decimal is `1.0`. -/
def isOneFloat (f : PyFloat) : Bool :=
  let scale := 2 ^ 54
  if 0 ≤ f.exponent then f.mantissa * 10 ^ f.exponent.toNat = 1
  else
    let unit : Int := 10 ^ (-f.exponent).toNat
    (scale - 1) * unit ≤ scale * f.mantissa
      && scale * f.mantissa ≤ (scale + 2) * unit

/-- `value == 1` -/
def isOne : PyJson → Bool
  | .int 1 => true
  | .bool true => true
  | .float f => isOneFloat f
  | _ => false

-- =================================================================== checks

section

variable (rt : IntakeRuntime)

/-- `_text` -/
def text (value : PyJson) (name : String) (maximum : Nat) :
    Except Raised Text :=
  match value with
  | .str s =>
      if s = [] then refuse "invalid_text" name
      else
        match PyStr.text? s with
        | none => .error .unicodeEncodeError
        | some t =>
            if maximum < (utf8 t).length ∨ rt.isNfc t = false
                ∨ t.any (fun c => c.toNat < 32) = true then
              refuse "invalid_text" name
            else .ok t
  | _ => refuse "invalid_text" name

/-- `_id` -/
def identifier (value : PyJson) (name : String) : Except Raised Text := do
  let t ← text rt value name 128
  if isIdentifier t then .ok t else refuse "invalid_identifier" name

/-- The text of a string that is one of hexadecimal digits. -/
def hexText (width : Nat) : PyJson → Option Text
  | .str s => (PyStr.text? s).filter (isHex width)
  | _ => none

/-- `_hex`, with `HEX40` -/
def sha (value : PyJson) (name : String) : Except Raised Text :=
  match hexText 40 value with
  | some t => .ok t
  | none => refuse "invalid_sha" name

/-- A text of sixty-four hexadecimal digits is a digest. -/
def digestOf (t : Text) : Option Digest :=
  if h : t.length = 64
      ∧ ∀ c ∈ t, ('0' ≤ c ∧ c ≤ '9') ∨ ('a' ≤ c ∧ c ≤ 'f') then
    some ⟨t, Digest.length_of h, Digest.hex_of h⟩
  else none

/-- `_hex`, with `HEX64` -/
def digest (value : PyJson) (name : String) : Except Raised Digest :=
  match (hexText 64 value).bind digestOf with
  | some d => .ok d
  | none => refuse "invalid_digest" name

/-- `value.replace("Z", "+00:00")` -/
def replaceZ (s : PyStr) : PyStr :=
  s.flatMap fun c => if c = codePoint 'Z' then py "+00:00" else [c]

/-- `_time` -/
def time (value : PyJson) (name : String) : Except Raised Timestamp :=
  match value with
  | .str s =>
      match (rt.fromisoformat (replaceZ s)).bind DateTime.instant? with
      | none => refuse "invalid_time" name
      | some instant =>
          match Timestamp.ofInstant instant with
          | none => .error .overflowError
          | some t => .ok t
  | _ => refuse "invalid_time" name

-- ================================================================= handoffs

namespace ArchitectureHandoffV1

def fields : List PyStr := [
  py "architecture_contract_version",
  py "architecture_digest",
  py "architecture_evidence_digest",
  py "exact_base_sha",
  py "exact_head_sha"]

/-- `ArchitectureHandoffV1.from_dict` -/
def fromDict (value : PyJson) : Except Raised ArchitectureHandoffV1 := do
  closedSet value fields
  let version ← subscript value "architecture_contract_version"
  require (isOne version = true) "unsupported_version" "architecture"
  let v ← subscript value "architecture_digest"
  let architectureDigest ← digest v "architecture_digest"
  let v ← subscript value "architecture_evidence_digest"
  let architectureEvidenceDigest ← digest v "architecture_evidence_digest"
  let v ← subscript value "exact_base_sha"
  let exactBaseSha ← sha v "architecture.exact_base_sha"
  let v ← subscript value "exact_head_sha"
  let exactHeadSha ← sha v "architecture.exact_head_sha"
  .ok {
    architectureDigest := architectureDigest
    architectureEvidenceDigest := architectureEvidenceDigest
    exactBaseSha := exactBaseSha
    exactHeadSha := exactHeadSha }

end ArchitectureHandoffV1

namespace GovernanceHandoffV1

def fields : List PyStr := [
  py "governance_contract_version",
  py "governance_digest",
  py "governance_evidence_digest",
  py "architecture_digest",
  py "exact_base_sha",
  py "exact_head_sha"]

/-- `GovernanceHandoffV1.from_dict` -/
def fromDict (value : PyJson) : Except Raised GovernanceHandoffV1 := do
  closedSet value fields
  let version ← subscript value "governance_contract_version"
  require (isOne version = true) "unsupported_version" "governance"
  let v ← subscript value "governance_digest"
  let governanceDigest ← digest v "governance_digest"
  let v ← subscript value "governance_evidence_digest"
  let governanceEvidenceDigest ← digest v "governance_evidence_digest"
  let v ← subscript value "architecture_digest"
  let architectureDigest ← digest v "governance.architecture_digest"
  let v ← subscript value "exact_base_sha"
  let exactBaseSha ← sha v "governance.exact_base_sha"
  let v ← subscript value "exact_head_sha"
  let exactHeadSha ← sha v "governance.exact_head_sha"
  .ok {
    governanceDigest := governanceDigest
    governanceEvidenceDigest := governanceEvidenceDigest
    architectureDigest := architectureDigest
    exactBaseSha := exactBaseSha
    exactHeadSha := exactHeadSha }

end GovernanceHandoffV1

namespace M0AuthorityV1

def observedFields : List PyStr :=
  [py "observed_at", py "check_name", py "exact_head_sha"]

def exceptionFields : List PyStr :=
  [py "bootstrap_exception", py "issuer", py "scope", py "expires_at"]

/-- `set(data) == names` -/
def isSet (items : List PyJson) (names : List PyStr) : Bool :=
  items.all (isNamed names) && names.all fun name => items.any (isNamed [name])

/-- `[A-Za-z0-9][A-Za-z0-9._/@:-]{0,255}` -/
def isCheckName : Text → Bool
  | [] => false
  | c :: cs => c.isAlphanum && cs.length ≤ 255
      && cs.all fun c => c.isAlphanum || "._/@:-".toList.contains c

/-- An authority that was observed, at most five minutes ago. -/
def observe (now : Timestamp) (value : PyJson) :
    Except Raised M0AuthorityV1 := do
  let v ← subscript value "observed_at"
  let observedAt ← time rt v "observed_at"
  require (observedAt.instant ≤ now.instant
    ∧ now.instant ≤ observedAt.instant + 300 * 1000000) "stale_m0"
  let v ← subscript value "check_name"
  let checkName ← text rt v "check_name" 256
  require (isCheckName checkName = true) "invalid_identifier" "check_name"
  let v ← subscript value "exact_head_sha"
  let exactHeadSha ← sha v "m0.exact_head_sha"
  .ok (.observed observedAt checkName exactHeadSha)

/-- An exception that has not expired. -/
def except (now : Timestamp) (value : PyJson) :
    Except Raised M0AuthorityV1 := do
  let v ← subscript value "expires_at"
  let expiresAt ← time rt v "expires_at"
  require (now.instant < expiresAt.instant) "stale_m0"
    "bootstrap exception expired"
  let v ← subscript value "bootstrap_exception"
  let bootstrapException ← identifier rt v "bootstrap_exception"
  let v ← subscript value "issuer"
  let issuer ← identifier rt v "issuer"
  let v ← subscript value "scope"
  let scope ← identifier rt v "scope"
  .ok (.exception bootstrapException issuer scope expiresAt)

/-- `M0AuthorityV1.from_dict` -/
def fromDict (now : Timestamp) (value : PyJson) :
    Except Raised M0AuthorityV1 := do
  let items ← elements value
  if isSet items observedFields then observe rt now value
  else if isSet items exceptionFields then except rt now value
  else refuse "m0_authority" "must be one closed authority form"

/-- `authority.check_name` -/
def checkName : M0AuthorityV1 → Option Text
  | .observed _ checkName _ => some checkName
  | .exception _ _ _ _ => none

end M0AuthorityV1

/-- `TaskLimitsV1.from_dict`, of any value -/
def TaskLimitsV1.ofValue (value : PyJson) : Except Raised TaskLimitsV1 := do
  closedSet value TaskLimitsV1.fields
  match value with
  | .dict members => (TaskLimitsV1.fromDict members).mapError .contract
  | _ => .error .typeError

-- =================================================================== intake

/-- What a set of hashable values is sorted by: two kinds have no order. -/
def kind : PyJson → Nat
  | .none => 0
  | .str _ => 1
  | _ => 2

/-- `ACCEPTANCE_ID` -/
def isAcceptanceId (t : Text) : Bool :=
  let digits := t.drop 3
  t.take 3 == "AC-".toList && 3 ≤ digits.length && digits.length ≤ 6
    && digits.all fun c => '0' ≤ c && c ≤ '9'

/-- The texts of a list of strings without surrogates. -/
def texts? (items : List PyJson) : Option (List Text) :=
  (strings? items).bind fun names => names.mapM PyStr.text?

/-- The check of `acceptance_ids`. -/
def acceptance (value : PyJson) : Except Raised (List Text) :=
  match value with
  | .list items =>
      if items.isEmpty then refuse "acceptance_ids"
      else if items.all hashable = false then .error .typeError
      else if (items.map kind).dedup.length ≠ 1 then .error .typeError
      else
        match texts? items with
        | some ids =>
            if isSortedUnique ids && ids.all isAcceptanceId then .ok ids
            else refuse "acceptance_ids"
        | none => refuse "acceptance_ids"
  | _ => refuse "acceptance_ids"

def sourceTypes : List Text :=
  ["manual".toList, "api".toList, "github_issue_projection".toList]

/-- The check of `source_type`. -/
def sourceType (value : PyJson) : Except Raised Text :=
  if hashable value = false then .error .typeError
  else
    match texts? [value] with
    | some [t] => if t ∈ sourceTypes then .ok t else refuse "source_type"
    | _ => refuse "source_type"

namespace TaskIntakeV1

def inputFields : List PyStr := [
  py "contract_version",
  py "request_id",
  py "repository_id",
  py "source_type",
  py "source_id",
  py "source_digest",
  py "route_id",
  py "change_id",
  py "exact_base_sha",
  py "spec_digest",
  py "architecture",
  py "governance",
  py "policy_digest",
  py "m0_authority",
  py "acceptance_ids",
  py "limits"]

/-- The fields are those of an intake, of the version. -/
def opened (data : PyJson) : Except Raised Unit := do
  closedSet data inputFields
  let version ← subscript data "contract_version"
  require (isOne version = true) "unsupported_version" "intake"

/-- The two handoffs agree. -/
def handoffs (data : PyJson) :
    Except Raised (ArchitectureHandoffV1 × GovernanceHandoffV1) := do
  opened data
  let v ← subscript data "architecture"
  let architecture ← ArchitectureHandoffV1.fromDict v
  let v ← subscript data "governance"
  let governance ← GovernanceHandoffV1.fromDict v
  require (architecture.architectureDigest = governance.architectureDigest
    ∧ architecture.exactBaseSha = governance.exactBaseSha
    ∧ architecture.exactHeadSha = governance.exactHeadSha) "handoff_mismatch"
  .ok (architecture, governance)

/-- The handoffs, the authority of the task and the policy it is under. -/
structure Authorized where
  architecture : ArchitectureHandoffV1
  governance : GovernanceHandoffV1
  m0Authority : M0AuthorityV1
  policyDigest : Digest

/-- The authority is for the head and the policy. -/
def authorized (now : Timestamp) (data : PyJson) :
    Except Raised Authorized := do
  let (architecture, governance) ← handoffs data
  let v ← subscript data "m0_authority"
  let authority ← M0AuthorityV1.fromDict rt now v
  require (∀ head ∈ authority.exactHeadSha, head = governance.exactHeadSha)
    "handoff_mismatch" "m0 exact head"
  let v ← subscript data "policy_digest"
  let policyDigest ← digest v "policy_digest"
  require (∀ name ∈ authority.checkName,
    '@' :: policyDigest.text.take 12 <:+ name) "m0_policy_mismatch"
  .ok ⟨architecture, governance, authority, policyDigest⟩

/-- With the acceptance ids and the kind of source. -/
structure Checked extends Authorized where
  acceptanceIds : List Text
  sourceType : Text

/-- The ids and the kind of source are ones that there are. -/
def checked (now : Timestamp) (data : PyJson) : Except Raised Checked := do
  let a ← authorized rt now data
  let v ← subscript data "acceptance_ids"
  let acceptanceIds ← acceptance v
  let v ← subscript data "source_type"
  let sourceType ← Contracts.sourceType v
  .ok { a with acceptanceIds := acceptanceIds, sourceType := sourceType }

/-- The values of `normalized`. -/
structure Normalized extends Checked where
  requestId : Text
  repositoryId : Text
  sourceId : Text
  sourceDigest : Digest
  routeId : Text
  changeId : Text
  exactBaseSha : Text
  specDigest : Digest
  limits : TaskLimitsV1

/-- `normalized` -/
def normalized (now : Timestamp) (data : PyJson) :
    Except Raised Normalized := do
  let c ← checked rt now data
  let v ← subscript data "request_id"
  let requestId ← identifier rt v "request_id"
  let v ← subscript data "repository_id"
  let repositoryId ← identifier rt v "repository_id"
  let v ← subscript data "source_id"
  let sourceId ← identifier rt v "source_id"
  let v ← subscript data "source_digest"
  let sourceDigest ← digest v "source_digest"
  let v ← subscript data "route_id"
  let routeId ← identifier rt v "route_id"
  let v ← subscript data "change_id"
  let changeId ← identifier rt v "change_id"
  let v ← subscript data "exact_base_sha"
  let exactBaseSha ← sha v "exact_base_sha"
  let v ← subscript data "spec_digest"
  let specDigest ← digest v "spec_digest"
  let v ← subscript data "limits"
  let limits ← TaskLimitsV1.ofValue v
  .ok {
    c with
    requestId := requestId
    repositoryId := repositoryId
    sourceId := sourceId
    sourceDigest := sourceDigest
    routeId := routeId
    changeId := changeId
    exactBaseSha := exactBaseSha
    specDigest := specDigest
    limits := limits }

end TaskIntakeV1

end

-- ================================================================== digests

namespace TaskIntakeV1.Normalized

def architectureFields : List (Member Normalized) := [
  .of "architecture_contract_version" fun _ => (1 : Nat),
  .of "architecture_digest" fun n => n.architecture.architectureDigest.text,
  .of "architecture_evidence_digest"
    fun n => n.architecture.architectureEvidenceDigest.text,
  .of "exact_base_sha" fun n => n.architecture.exactBaseSha,
  .of "exact_head_sha" fun n => n.architecture.exactHeadSha]

def governanceFields : List (Member Normalized) := [
  .of "governance_contract_version" fun _ => (1 : Nat),
  .of "governance_digest" fun n => n.governance.governanceDigest.text,
  .of "governance_evidence_digest"
    fun n => n.governance.governanceEvidenceDigest.text,
  .of "architecture_digest" fun n => n.governance.architectureDigest.text,
  .of "exact_base_sha" fun n => n.governance.exactBaseSha,
  .of "exact_head_sha" fun n => n.governance.exactHeadSha]

def limitsFields : List (Member Normalized) := [
  .of "wall_seconds" fun n => n.limits.wallSeconds,
  .of "max_cost_usd_micros" fun n => n.limits.maxCostUsdMicros,
  .of "max_token_units" fun n => n.limits.maxTokenUnits,
  .of "max_output_bytes" fun n => n.limits.maxOutputBytes,
  .of "max_events" fun n => n.limits.maxEvents,
  .of "infrastructure_retries" fun n => n.limits.infrastructureRetries,
  .of "semantic_repairs" fun n => n.limits.semanticRepairs]

/-- `asdict` of an authority: the fields of the other form are `None`. -/
def authorityFields : List (Member Normalized) := [
  .of "observed_at" fun n =>
    match n.m0Authority with
    | .observed observedAt _ _ => some observedAt.isoformat
    | .exception _ _ _ _ => none,
  .of "check_name" fun n => n.m0Authority.checkName,
  .of "exact_head_sha" fun n => n.m0Authority.exactHeadSha,
  .of "bootstrap_exception" fun n =>
    match n.m0Authority with
    | .observed _ _ _ => none
    | .exception bootstrapException _ _ _ => some bootstrapException,
  .of "issuer" fun n =>
    match n.m0Authority with
    | .observed _ _ _ => none
    | .exception _ issuer _ _ => some issuer,
  .of "scope" fun n =>
    match n.m0Authority with
    | .observed _ _ _ => none
    | .exception _ _ scope _ => some scope,
  .of "expires_at" fun n =>
    match n.m0Authority with
    | .observed _ _ _ => none
    | .exception _ _ _ expiresAt => some expiresAt.isoformat]

/-- What the identity of the work is made of. -/
def workFields : List (Member Normalized) := [
  .of "contract_version" fun _ => (1 : Nat),
  .of "repository_id" repositoryId,
  .of "source_type" fun n => n.sourceType,
  .of "source_id" sourceId,
  .of "source_digest" fun n => n.sourceDigest.text,
  .of "route_id" routeId,
  .of "change_id" changeId,
  .of "exact_base_sha" exactBaseSha,
  .of "spec_digest" fun n => n.specDigest.text,
  .nested "architecture" architectureFields (by decide),
  .nested "governance" governanceFields (by decide),
  .of "policy_digest" fun n => n.policyDigest.text,
  .of "acceptance_ids" fun n => n.acceptanceIds,
  .nested "limits" limitsFields (by decide)]

/-- All of it. -/
def fields : List (Member Normalized) :=
  .of "request_id" requestId
    :: .nested "m0_authority" authorityFields (by decide) :: workFields

/-- What the intent digest is of. -/
def intentMessage (n : Normalized) : List UInt8 :=
  utf8 (canonicalJson (Json.members fields n))

def workIdentityFields : List (Member Normalized) := [
  .const "contract" "adaptive-factory.work-identity/v1",
  .nested "work" workFields (by decide)]

/-- What the idempotency key is of. -/
def workMessage (n : Normalized) : List UInt8 :=
  utf8 (canonicalJson (Json.members workIdentityFields n))

/-- The intake of the values. -/
def intake (rt : IntakeRuntime) (n : Normalized) : TaskIntakeV1 where
  requestId := n.requestId
  repositoryId := n.repositoryId
  sourceType := n.sourceType
  sourceId := n.sourceId
  sourceDigest := n.sourceDigest
  routeId := n.routeId
  changeId := n.changeId
  exactBaseSha := n.exactBaseSha
  specDigest := n.specDigest
  architecture := n.architecture
  governance := n.governance
  policyDigest := n.policyDigest
  m0Authority := n.m0Authority
  acceptanceIds := n.acceptanceIds
  limits := n.limits
  intentDigest := rt.sha256 n.intentMessage
  idempotencyKey := rt.sha256 n.workMessage

end TaskIntakeV1.Normalized

/-- `TaskIntakeV1.from_dict` -/
def TaskIntakeV1.fromDict (rt : IntakeRuntime) (now : Timestamp)
    (data : PyJson) : Except Raised TaskIntakeV1 := do
  let n ← normalized rt now data
  .ok (n.intake rt)

end Exolon.Contracts
