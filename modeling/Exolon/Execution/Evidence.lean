/-
The evidence of a run: what is proposed, attested and observed of it.

A worker commits proposals, each with the next sequence number; the last one
is terminal. An artifact is attested before it is proposed, and its proposal
spends the attestation. Usage is observed: by a call of its own for a
proposal of the first version, in the transaction of its proposal for one of
the second (`commitExecutionProposal`). At the end the control plane asks
whether the three tables agree (`Evidence.isFinalizable`), and only then
finalizes the run.

# What is left open

`live` says that the lease of the grant, the packet and the manifest are
found, which is what the store is about; `fits` that usage is within the
limits of the task. `Gate` has what the database's patterns and bounds say of
the texts of a proposal or of an attestation: it may refuse any of them. The
database's canonical text of an object is taken as the one that the contracts
have. The calls are the ones of one run; the replay of a key is left out.
-/
import Exolon.Broker.Broker
import Exolon.Lib.Numbered
import Exolon.Lib.Run
import Exolon.Store.Budget

namespace Exolon.Execution

open Broker (BrokerError BrokerRuntime CanonicalEvent Proposal ProposalContext
  UsageProposalV2)
open Semantic (ArtifactAttestationV1 ArtifactProposal)
open Store (Failure UsageComponents UsageEvidence UsageReport staleFence
  usageReport)
open Transaction

deriving instance DecidableEq for Factory.PriceTable, Broker.NoteProposal,
  Broker.UsageProposal, Broker.UsageProposalV2, Broker.Proposal

-- =================================================================== rows

/-- What the rows of the task, the run, its packet and its manifest say. -/
structure Packet where
  /-- what `_proposal_context` makes of the packet -/
  context : ProposalContext
  repositoryId : Text
  workspaceHandle : Text
  /-- `limits.max_events` -/
  maxEvents : Int
  /-- `event_limit` of the task -/
  eventLimit : Int

/-- What the patterns and the bounds of the database say. -/
structure Gate where
  proposal : Packet → Proposal → Bool
  attestation : ArtifactAttestationV1 → Bool

/-- `execution_artifact_attestations`; `consumed` is
`consumed_proposal_digest`. -/
structure Attestation where
  body : ArtifactAttestationV1
  consumed : Option Text := none

/-- `usage_observations` -/
structure Usage where
  providerCallId : Text
  evidence : UsageEvidence

/-- The rows of a run. -/
structure Evidence where
  proposals : List Proposal := []
  attestations : List Attestation := []
  usage : List Usage := []

/-- `proposal_kind` -/
inductive Kind
  | note
  | artifact
  | usage
  | terminal
  deriving DecidableEq

def kind : Proposal → Kind
  | .note _ => .note
  | .artifact _ => .artifact
  | .usage _ => .usage
  | .usageV2 _ => .usage
  | .terminal _ => .terminal

/-- `producer_sequence` -/
def sequence (p : Proposal) : Int := p.header.sequence

/-- `body->>'provider_call_id'` -/
def providerCallId? : Proposal → Option Text
  | .usage p => some p.providerCallId
  | .usageV2 p => some p.providerCallId
  | _ => none

def Attestation.sequence (row : Attestation) : Int :=
  row.body.producerSequence

/-- `max(producer_sequence)` -/
def Evidence.lastSequence (e : Evidence) : Nat :=
  (e.proposals.map fun p => (sequence p).toNat).foldr max 0

-- =========================================================== attestations

/-- `FenceError` of a refused proposal -/
def staleProposal : Failure := .fence "stale execution proposal or fence"

/-- The path is one of the roots, or stands under one. -/
def isAllowedPath (roots : List Text) (path : Text) : Bool :=
  roots.any fun root => path = root || (root ++ ['/']).isPrefixOf path

section Calls

variable (rt : BrokerRuntime) (gate : Gate) (packet : Packet)

/-- What `execution_record_artifact_attestation` asks of the request, where
the run has no attestation with its number. -/
def Packet.attests (a : ArtifactAttestationV1) : Prop :=
  let context := packet.context
  a.taskId = context.taskId ∧ a.runId = context.runId
    ∧ a.packetDigest = context.packetDigest
    ∧ a.repositoryId = packet.repositoryId
    ∧ a.workspaceHandle = packet.workspaceHandle
    ∧ a.authorRole = context.role ∧ context.role = "writer".toList
    ∧ a.fence = context.fence
    ∧ "artifacts".toList ∈ context.declaredCapabilities
    ∧ a.artifactClass ∈ context.allowedArtifactClasses
    ∧ a.sizeBytes ≤ context.maxOutputBytes
    ∧ isAllowedPath context.allowedPaths a.path
    ∧ a.artifactAttestationDigest = (rt.sha256 a.message).text
    ∧ 1 ≤ packet.maxEvents ∧ packet.maxEvents ≤ 100000
    ∧ packet.maxEvents = packet.eventLimit
    ∧ a.producerSequence ≤ packet.maxEvents

instance (a : ArtifactAttestationV1) : Decidable (packet.attests rt a) := by
  unfold Packet.attests
  infer_instance

/-- What it asks of the form of the request. -/
def Gate.formed (a : ArtifactAttestationV1) : Prop :=
  a.contractVersion = 1 ∧ a.source = "trusted_workspace_broker".toList
    ∧ 1 ≤ a.producerSequence ∧ gate.attestation a = true

instance (a : ArtifactAttestationV1) : Decidable (gate.formed a) := by
  unfold Gate.formed
  infer_instance

/-- `execution_record_artifact_attestation`: the body that is stored, or
none. -/
def recordArtifactAttestation (a : ArtifactAttestationV1) (live : Bool)
    (e : Evidence) : Option ArtifactAttestationV1 × Evidence :=
  if gate.formed a then
    match e.attestations.find? fun row =>
        row.sequence = a.producerSequence with
    | some row => (if row.body = a then some row.body else none, e)
    | none =>
        if live = true ∧ packet.attests rt a
            ∧ (∀ p ∈ e.proposals, kind p ≠ .terminal)
            ∧ a.producerSequence = e.lastSequence + 1 then
          (some a,
            { e with attestations := e.attestations ++ [{ body := a }] })
        else (none, e)
  else (none, e)

/-- The attestation that an artifact proposal needs. -/
def attestationOf (p : ArtifactProposal) : ArtifactAttestationV1 where
  contractVersion := 1
  taskId := p.taskId
  runId := p.runId
  repositoryId := packet.repositoryId
  packetDigest := p.packetDigest
  workspaceHandle := packet.workspaceHandle
  producerSequence := p.sequence
  fence := p.fence
  authorRole := p.authorRole
  artifactClass := p.artifactClass
  path := p.path
  sha256 := p.sha256
  sizeBytes := p.sizeBytes
  mediaType := p.mediaType
  source := "trusted_workspace_broker".toList
  artifactAttestationDigest := p.artifactAttestationDigest

/-- The columns an attestation is looked up by. -/
def SameColumns (a b : ArtifactAttestationV1) : Prop :=
  a.artifactAttestationDigest = b.artifactAttestationDigest
    ∧ a.taskId = b.taskId ∧ a.runId = b.runId
    ∧ a.packetDigest = b.packetDigest
    ∧ a.producerSequence = b.producerSequence ∧ a.fence = b.fence
    ∧ a.authorRole = b.authorRole ∧ a.repositoryId = b.repositoryId
    ∧ a.workspaceHandle = b.workspaceHandle
    ∧ a.artifactClass = b.artifactClass ∧ a.path = b.path
    ∧ a.sha256 = b.sha256 ∧ a.sizeBytes = b.sizeBytes
    ∧ a.mediaType = b.mediaType

/-- The row that an artifact proposal spends. -/
def Attestation.IsFor (row : Attestation) (p : ArtifactProposal) : Prop :=
  SameColumns row.body (attestationOf packet p) ∧ row.consumed = none

instance (row : Attestation) (p : ArtifactProposal) :
    Decidable (row.IsFor packet p) := by
  unfold Attestation.IsFor SameColumns
  infer_instance

/-- An artifact proposal spends its attestation; no other proposal goes past
one. -/
def Evidence.spend (e : Evidence) : Proposal → Except Failure Evidence
  | .artifact p => do
      check (∃ row ∈ e.attestations, row.IsFor packet p) staleProposal
      return { e with
        attestations := Table.update (fun row => row.IsFor packet p)
          (fun row => { row with consumed := some p.idempotencyKey })
          e.attestations }
  | p => do
      check (∀ row ∈ e.attestations,
        ¬ (row.sequence = sequence p ∧ row.consumed = none)) staleProposal
      return e

-- ============================================================== proposals

/-- The row of a new proposal: its key is new, the run has no terminal
proposal, and it has the next number. -/
def Evidence.insert (e : Evidence) (p : Proposal) :
    Except Failure Evidence := do
  check (∀ q ∈ e.proposals, q.idempotencyKey ≠ p.idempotencyKey) staleProposal
  check (∀ q ∈ e.proposals, kind q ≠ .terminal) staleProposal
  check (sequence p = e.lastSequence + 1) staleProposal
  return { e with proposals := e.proposals ++ [p] }

/-- What `execution_propose` asks of a proposal before it looks at the rows:
the second version of a usage is checked against the limit of events here. -/
def Packet.admits (p : Proposal) : Prop :=
  let context := packet.context
  1 ≤ packet.maxEvents ∧ packet.maxEvents ≤ 100000
    ∧ packet.maxEvents = packet.eventLimit
    ∧ 1 ≤ sequence p ∧ sequence p ≤ 100000
    ∧ p.header = ⟨context.taskId, context.runId, context.packetDigest,
      context.fence, sequence p, context.role⟩
    ∧ (∀ needed ∈ Broker.capability p.eventType,
      needed ∈ context.declaredCapabilities)
    ∧ gate.proposal packet p = true
    ∧ p.idempotencyKey = p.proposalIdempotencyKey rt.toRuntime
    ∧ (match p with
      | .artifact p => p.artifactAttestationDigest
          = (rt.sha256 (attestationOf packet p).message).text
      | .usageV2 _ => sequence p ≤ packet.maxEvents
      | _ => True)

instance (p : Proposal) : Decidable (packet.admits rt gate p) := by
  unfold Packet.admits
  cases p
  all_goals infer_instance

/-- `execution_propose`, and the two versions of it -/
def executionPropose (p : Proposal) (live : Bool) (e : Evidence) :
    Except Failure Evidence := do
  check (live = true ∧ packet.admits rt gate p) staleProposal
  match e.proposals.find? fun q => sequence q = sequence p with
  | some q => do
      check (q = p) staleProposal
      return e
  | none =>
      match p with
      | .usageV2 _ => e.insert p
      | _ => do
          check (sequence p ≤ packet.maxEvents) staleProposal
          let e ← e.spend packet p
          e.insert p

-- ================================================================== usage

/-- `_observe_usage_locked`: whether the usage is counted. -/
def Evidence.observe (report : UsageReport) (fits : Bool) (e : Evidence) :
    Except Failure (Bool × Evidence) :=
  match report.priceTableDigest.bind Store.Digest.of? with
  | none => .ok (false, e)
  | some priceTableDigest =>
      let evidence : UsageEvidence := {
        priceTableDigest := priceTableDigest
        cost := report.cost
        tokens := report.tokens
        output := report.output
        components := report.components }
      match e.usage.find? fun u =>
          u.providerCallId = report.providerCallId with
      | some u => do
          check (u.evidence = evidence) (.store
            "provider call id reused with different usage evidence")
          return (true, e)
      | none =>
          if fits then
            .ok (true, { e with
              usage := e.usage ++ [⟨report.providerCallId, evidence⟩] })
          else .ok (false, e)

/-- `observe_usage` -/
def observeUsage (providerCallId : Text) (priceTableDigest : Option Text)
    (cost tokens output : Nat) (components : Option UsageComponents)
    (live fits : Bool) (e : Evidence) : Except Failure (Bool × Evidence) := do
  let report ← usageReport providerCallId priceTableDigest cost tokens output
    components
  check (live = true) staleFence
  e.observe report fits

/-- What a proposal of the second version observes. -/
def usageOf (p : UsageProposalV2) : UsageReport where
  providerCallId := p.providerCallId
  priceTableDigest := some p.priceTableDigest
  cost := p.costUsdMicros
  tokens := p.inputTokens + p.outputTokens + p.reasoningTokens
    + p.cachedInputTokens + p.cacheWriteTokens
  output := p.outputBytes.toNat
  components := {
    inputTokens := p.inputTokens
    outputTokens := p.outputTokens
    reasoningTokens := p.reasoningTokens
    cachedInputTokens := p.cachedInputTokens
    cacheWriteTokens := p.cacheWriteTokens }

/-- `ProposalBroker().accept(…)`, by a broker that is new -/
def accepted (event : CanonicalEvent) (attestation : Option Text) :
    Except BrokerError Proposal :=
  (Broker.accept rt ∅ {
    event := event
    context := packet.context
    owner := packet.context.owner
    fence := packet.context.fence
    attestation := attestation }).1

/-- `commit_execution_proposal`: whether the proposal is stored. Usage that
blocks the accounting is committed before the call raises. -/
def commitExecutionProposal (event : CanonicalEvent)
    (attestation : Option Text) (live fits : Bool) (e : Evidence) :
    Except Failure (Bool × Evidence) := do
  check (live = true) staleFence
  let p ← (accepted rt packet event attestation).mapError fun _ =>
    .store "execution proposal event semantics are invalid"
  match p with
  | .usageV2 u => do
      let answer ← e.observe (usageOf u) fits
      if answer.1 then
        let e ← executionPropose rt gate packet p live answer.2
        return (true, e)
      else return answer
  | _ => do
      let e ← executionPropose rt gate packet p live e
      return (true, e)

-- =================================================================== runs

/-- A call for the run, with what it reads. -/
inductive Call
  | attest (request : ArtifactAttestationV1) (live : Bool)
  | propose (event : CanonicalEvent) (attestation : Option Text)
      (live fits : Bool)
  | observe (providerCallId : Text) (priceTableDigest : Option Text)
      (cost tokens output : Nat) (components : Option UsageComponents)
      (live fits : Bool)

/-- The rows after a call: a call that raises is rolled back. -/
def Evidence.after (e : Evidence) : Call → Evidence
  | .attest request live =>
      (recordArtifactAttestation rt gate packet request live e).2
  | .propose event attestation live fits =>
      commit (commitExecutionProposal rt gate packet event attestation live
        fits) e
  | .observe providerCallId priceTableDigest cost tokens output components
      live fits =>
      commit (observeUsage providerCallId priceTableDigest cost tokens output
        components live fits) e

/-- A step of the run. -/
def step (e : Evidence) (call : Call) : Option Evidence :=
  some (e.after rt gate packet call)

end Calls

-- ============================================================== finalizing

/-- The rows of the artifact join: an attestation that was spent on the
proposal says what the proposal does. -/
def Attestation.agrees (row : Attestation) (p : ArtifactProposal) : Prop :=
  row.body.artifactAttestationDigest = p.artifactAttestationDigest
    ∧ row.body.taskId = p.taskId ∧ row.body.packetDigest = p.packetDigest
    ∧ row.body.authorRole = p.authorRole
    ∧ row.body.artifactClass = p.artifactClass ∧ row.body.path = p.path
    ∧ row.body.sha256 = p.sha256 ∧ row.body.sizeBytes = p.sizeBytes
    ∧ row.body.mediaType = p.mediaType

instance (row : Attestation) (p : ArtifactProposal) :
    Decidable (row.agrees p) := by
  unfold Attestation.agrees
  infer_instance

/-- The observation says what the proposal does. The tokens are the ones of
the first version's three buckets, in either version. -/
def Usage.agrees (u : Usage) : Proposal → Prop
  | .usage p => u.evidence.priceTableDigest.text = p.priceTableDigest
      ∧ (u.evidence.cost : Int) = p.costUsdMicros
      ∧ (u.evidence.tokens : Int)
        = p.inputTokens + p.outputTokens + p.reasoningTokens
      ∧ (u.evidence.output : Int) = p.outputBytes
  | .usageV2 p => u.evidence.priceTableDigest.text = p.priceTableDigest
      ∧ u.evidence.cost = p.costUsdMicros
      ∧ u.evidence.tokens
        = p.inputTokens + p.outputTokens + p.reasoningTokens
      ∧ (u.evidence.output : Int) = p.outputBytes
  | _ => True

instance (u : Usage) (p : Proposal) : Decidable (u.agrees p) := by
  cases p
  all_goals
    unfold Usage.agrees
    infer_instance

namespace Evidence

/-- The rows that the artifact join finds for a proposal. -/
def attests (e : Evidence) : Proposal → Prop
  | .artifact p =>
      let joined := e.attestations.filter fun row =>
        row.sequence = p.sequence ∧ row.consumed = some p.idempotencyKey
      joined ≠ [] ∧ ∀ row ∈ joined, row.agrees p
  | _ => True

instance (e : Evidence) (p : Proposal) : Decidable (e.attests p) := by
  cases p
  all_goals
    unfold attests
    infer_instance

/-- The first check of `execution_finalize_context`: the artifacts. -/
def artifactsAttested (e : Evidence) : Prop :=
  ∀ p ∈ e.proposals, e.attests p

instance (e : Evidence) : Decidable e.artifactsAttested := by
  unfold artifactsAttested
  infer_instance

/-- The calls of the usage proposals. -/
def usageCalls (e : Evidence) : List Text :=
  e.proposals.filterMap providerCallId?

/-- The second one: the usage. -/
def usageObserved (e : Evidence) : Prop :=
  (∀ p ∈ e.proposals, ∀ callId ∈ providerCallId? p,
      let joined := e.usage.filter fun u => u.providerCallId = callId
      joined ≠ [] ∧ ∀ u ∈ joined, u.agrees p)
    ∧ (∀ u ∈ e.usage, u.providerCallId ∈ e.usageCalls)
    ∧ ∀ callId ∈ e.usageCalls, e.usageCalls.count callId = 1

instance (e : Evidence) : Decidable e.usageObserved := by
  unfold usageObserved
  infer_instance

/-- `execution_finalize_context`, as far as the evidence goes. -/
def isFinalizable (e : Evidence) : Prop :=
  (∃ p ∈ e.proposals, kind p = .terminal) ∧ e.artifactsAttested
    ∧ e.usageObserved

instance (e : Evidence) : Decidable e.isFinalizable := by
  unfold isFinalizable
  infer_instance

/-- What the execution plane answers to the store about a run with these
rows. -/
def plane (e : Evidence) (plane : Store.ExecutionPlane) :
    Store.ExecutionPlane :=
  { plane with terminal := if e.isFinalizable then plane.terminal else none }

end Evidence

end Exolon.Execution
