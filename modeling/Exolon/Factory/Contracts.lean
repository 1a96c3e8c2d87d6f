/-
A task as it is handed to the factory, and the limits it is handed in with.

The structures hold what their `from_dict` accepts: `TaskLimitsV1` carries
the bounds of its fields, and every value of it is accepted
(`TaskLimitsV1.fromDict_toDict`).
-/
import Exolon.Factory.Values
import Exolon.Lib.PyJson

namespace Exolon.Contracts

open Factory

/-- `ContractError` -/
structure ContractError where
  code : String
  detail : PyStr
  deriving DecidableEq

/-- The members of a dictionary. -/
abbrev Members := List (PyStr × PyJson)

/-- `",".join(sorted(names))` -/
def joinedNames (names : List PyStr) : PyStr :=
  List.intercalate (py ",") (names.insertionSort (· ≤ ·))

/-- `_closed` -/
def closed (members : Members) (expected : List PyStr) :
    Except ContractError Unit :=
  let names := members.map Prod.fst
  let unknown := names.filter fun name => name ∉ expected
  let missing := expected.filter fun name => name ∉ names
  if unknown ≠ [] then .error ⟨"unknown_fields", joinedNames unknown⟩
  else if missing ≠ [] then .error ⟨"missing_fields", joinedNames missing⟩
  else .ok ()

-- ================================================================ limits

structure TaskLimitsV1 where
  wallSeconds : Nat
  maxCostUsdMicros : Nat
  maxTokenUnits : Nat
  maxOutputBytes : Nat
  maxEvents : Nat
  infrastructureRetries : Nat
  semanticRepairs : Nat
  bounded : wallSeconds ≤ 14400 ∧ maxCostUsdMicros ≤ 25000000
    ∧ maxTokenUnits ≤ 2000000 ∧ maxOutputBytes ≤ 10000000
    ∧ maxEvents ≤ 100000 ∧ infrastructureRetries ≤ 2
  repairs : 1 ≤ semanticRepairs ∧ semanticRepairs ≤ 3

namespace TaskLimitsV1

def fields : List PyStr := [
  py "wall_seconds",
  py "max_cost_usd_micros",
  py "max_token_units",
  py "max_output_bytes",
  py "max_events",
  py "infrastructure_retries",
  py "semantic_repairs"]

/-- A field is an integer from zero to its ceiling; a `bool` is no integer
here. -/
def limit (members : Members) (name : String) (ceiling : Nat) :
    Except ContractError { n : Nat // n ≤ ceiling } :=
  match members.lookup (py name) with
  | some (.int (.ofNat n)) =>
      if h : n ≤ ceiling then .ok ⟨n, h⟩
      else .error ⟨"limit_exceeded", py name⟩
  | _ => .error ⟨"limit_exceeded", py name⟩

/-- `TaskLimitsV1.from_dict`. The source goes through a set of the names;
where two fields fail, the first one here stands for either. -/
def fromDict (members : Members) : Except ContractError TaskLimitsV1 := do
  closed members fields
  let wallSeconds ← limit members "wall_seconds" 14400
  let maxCostUsdMicros ← limit members "max_cost_usd_micros" 25000000
  let maxTokenUnits ← limit members "max_token_units" 2000000
  let maxOutputBytes ← limit members "max_output_bytes" 10000000
  let maxEvents ← limit members "max_events" 100000
  let infrastructureRetries ← limit members "infrastructure_retries" 2
  let semanticRepairs ← limit members "semantic_repairs" 3
  if h : 1 ≤ semanticRepairs.val ∧ semanticRepairs.val ≤ 3 then
    return {
      wallSeconds := wallSeconds
      maxCostUsdMicros := maxCostUsdMicros
      maxTokenUnits := maxTokenUnits
      maxOutputBytes := maxOutputBytes
      maxEvents := maxEvents
      infrastructureRetries := infrastructureRetries
      semanticRepairs := semanticRepairs
      bounded := ⟨wallSeconds.2, maxCostUsdMicros.2, maxTokenUnits.2,
        maxOutputBytes.2, maxEvents.2, infrastructureRetries.2⟩
      repairs := h }
  else throw ⟨"limit_exceeded", py "semantic_repairs"⟩

/-- `asdict` -/
def toDict (l : TaskLimitsV1) : Members := [
  (py "wall_seconds", .int l.wallSeconds),
  (py "max_cost_usd_micros", .int l.maxCostUsdMicros),
  (py "max_token_units", .int l.maxTokenUnits),
  (py "max_output_bytes", .int l.maxOutputBytes),
  (py "max_events", .int l.maxEvents),
  (py "infrastructure_retries", .int l.infrastructureRetries),
  (py "semantic_repairs", .int l.semanticRepairs)]

theorem limit_ok {members : Members} {name : String} {ceiling n : Nat}
    (h : members.lookup (py name) = some (.int n)) (hle : n ≤ ceiling) :
    limit members name ceiling = .ok ⟨n, hle⟩ := by
  unfold limit
  rw [h]
  exact dif_pos hle

theorem closed_toDict (l : TaskLimitsV1) : closed l.toDict fields = .ok () := by
  have hnames : l.toDict.map Prod.fst = fields := rfl
  unfold closed
  rw [hnames]
  have hall : fields.filter (fun name => name ∉ fields) = [] :=
    List.filter_eq_nil_iff.mpr fun name hname => by simp [hname]
  simp only [hall, ne_eq, not_true_eq_false, if_false]

/-- Every limits are accepted. -/
theorem fromDict_toDict (l : TaskLimitsV1) : fromDict l.toDict = .ok l := by
  obtain ⟨hwall, hcost, htokens, houtput, hevents, hretries⟩ := l.bounded
  unfold fromDict
  rw [closed_toDict, limit_ok rfl hwall, limit_ok rfl hcost,
    limit_ok rfl htokens, limit_ok rfl houtput, limit_ok rfl hevents,
    limit_ok rfl hretries, limit_ok rfl l.repairs.2]
  exact dif_pos l.repairs

end TaskLimitsV1

-- ============================================================== handoffs

structure ArchitectureHandoffV1 where
  architectureDigest : Digest
  architectureEvidenceDigest : Digest
  exactBaseSha : Text
  exactHeadSha : Text

structure GovernanceHandoffV1 where
  governanceDigest : Digest
  governanceEvidenceDigest : Digest
  architectureDigest : Digest
  exactBaseSha : Text
  exactHeadSha : Text

/-- One of two forms: a check that was observed, or an exception. -/
inductive M0AuthorityV1
  | observed (observedAt : Timestamp) (checkName exactHeadSha : Text)
  | exception (bootstrapException issuer scope : Text) (expiresAt : Timestamp)

/-- `M0AuthorityV1.exact_head_sha` -/
def M0AuthorityV1.exactHeadSha : M0AuthorityV1 → Option Text
  | .observed _ _ sha => some sha
  | .exception _ _ _ _ => none

-- ================================================================ intakes

structure TaskIntakeV1 where
  requestId : Text
  repositoryId : Text
  sourceType : Text
  sourceId : Text
  sourceDigest : Digest
  routeId : Text
  changeId : Text
  exactBaseSha : Text
  specDigest : Digest
  architecture : ArchitectureHandoffV1
  governance : GovernanceHandoffV1
  policyDigest : Digest
  m0Authority : M0AuthorityV1
  acceptanceIds : List Text
  limits : TaskLimitsV1
  intentDigest : Digest
  idempotencyKey : Digest

end Exolon.Contracts
