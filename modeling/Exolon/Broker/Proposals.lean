/-
The proposals a broker returns, and the key of each.

A proposal holds what its dataclass does. Its `body` is what the key's
object has under `body`, its `message` is what the key is a digest of, and
`asdict` is what goes over the wire. A message tells its proposal
(`Proposal.message_inj`): a record is told by its document, and what differs
between two kinds of proposals is the event type, or the names in the body.
-/
import Exolon.Factory.Pricing
import Exolon.Semantic.Contracts

namespace Exolon.Broker

open Factory (PriceTable utf8 canonicalJson)
open Semantic (Runtime ArtifactProposal TerminalProposal)

-- ======================================================== the price table

def priceTableFields : List (Member PriceTable) := [
  .of "schema_version" fun _ => (1 : Nat),
  .of "input_usd_micros_per_million" PriceTable.inputUsdMicrosPerMillion,
  .of "output_usd_micros_per_million" PriceTable.outputUsdMicrosPerMillion,
  .of "reasoning_usd_micros_per_million"
    PriceTable.reasoningUsdMicrosPerMillion,
  .of "cached_input_usd_micros_per_million"
    PriceTable.cachedInputUsdMicrosPerMillion,
  .of "cache_write_usd_micros_per_million"
    PriceTable.cacheWriteUsdMicrosPerMillion]

theorem nodup_priceTableFields :
    (priceTableFields.map Member.name).Nodup := by
  decide

instance : Document PriceTable :=
  .record priceTableFields nodup_priceTableFields fun a b h => by
    cases a
    cases b
    simpa [priceTableFields] using h

/-- The document of a table is its `to_dict`. -/
theorem json_priceTable (table : PriceTable) :
    Document.json table = table.toDict := rfl

-- ============================================================== proposals

structure NoteProposal where
  taskId : Text
  runId : Text
  packetDigest : Text
  fence : Int
  sequence : Int
  authorRole : Text
  noteType : Text
  body : Text
  evidence : List Text
  idempotencyKey : Text

structure UsageProposal where
  taskId : Text
  runId : Text
  packetDigest : Text
  fence : Int
  sequence : Int
  authorRole : Text
  providerCallId : Text
  priceTableDigest : Text
  inputTokens : Int
  outputTokens : Int
  reasoningTokens : Int
  costUsdMicros : Int
  outputBytes : Int
  idempotencyKey : Text

structure UsageProposalV2 where
  taskId : Text
  runId : Text
  packetDigest : Text
  fence : Int
  sequence : Int
  authorRole : Text
  providerCallId : Text
  priceTable : PriceTable
  priceTableDigest : Text
  inputTokens : Nat
  outputTokens : Nat
  reasoningTokens : Nat
  cachedInputTokens : Nat
  cacheWriteTokens : Nat
  costUsdMicros : Nat
  outputBytes : Int
  idempotencyKey : Text

/-- What every proposal starts with. -/
structure Header where
  taskId : Text
  runId : Text
  packetDigest : Text
  fence : Int
  sequence : Int
  authorRole : Text
  deriving DecidableEq

/-- The object a key is a digest of. -/
def keyMembers (h : Header) (eventType : Text) (body : Json) :
    List (Text × Json) := [
  ("contract".toList, .str "adaptive-factory.execution-proposal/v1".toList),
  ("task_id".toList, .str h.taskId),
  ("run_id".toList, .str h.runId),
  ("packet_digest".toList, .str h.packetDigest),
  ("fence".toList, .int h.fence),
  ("author_role".toList, .str h.authorRole),
  ("sequence".toList, .int h.sequence),
  ("event_type".toList, .str eventType),
  ("body".toList, body)]

namespace NoteProposal

/-- The `body` of the key's object. -/
def facts : List (Member NoteProposal) := [
  .of "note_type" noteType,
  .of "body" body,
  .of "evidence" evidence]

theorem nodup_facts : (facts.map Member.name).Nodup := by
  decide

def header (p : NoteProposal) : Header :=
  ⟨p.taskId, p.runId, p.packetDigest, p.fence, p.sequence, p.authorRole⟩

def asdict : List (Member NoteProposal) := [
  .of "task_id" taskId,
  .of "run_id" runId,
  .of "packet_digest" packetDigest,
  .of "fence" fence,
  .of "sequence" sequence,
  .of "author_role" authorRole,
  .of "note_type" noteType,
  .of "body" body,
  .of "evidence" evidence,
  .of "idempotency_key" idempotencyKey]

end NoteProposal

namespace UsageProposal

/-- The `body` of the key's object. -/
def facts : List (Member UsageProposal) := [
  .of "provider_call_id" providerCallId,
  .of "price_table_digest" priceTableDigest,
  .of "input_tokens" inputTokens,
  .of "output_tokens" outputTokens,
  .of "reasoning_tokens" reasoningTokens,
  .of "cost_usd_micros" costUsdMicros,
  .of "output_bytes" outputBytes,
  .of "author_role" authorRole]

theorem nodup_facts : (facts.map Member.name).Nodup := by
  decide

def header (p : UsageProposal) : Header :=
  ⟨p.taskId, p.runId, p.packetDigest, p.fence, p.sequence, p.authorRole⟩

def asdict : List (Member UsageProposal) := [
  .of "task_id" taskId,
  .of "run_id" runId,
  .of "packet_digest" packetDigest,
  .of "fence" fence,
  .of "sequence" sequence,
  .of "author_role" authorRole,
  .of "provider_call_id" providerCallId,
  .of "price_table_digest" priceTableDigest,
  .of "input_tokens" inputTokens,
  .of "output_tokens" outputTokens,
  .of "reasoning_tokens" reasoningTokens,
  .of "cost_usd_micros" costUsdMicros,
  .of "output_bytes" outputBytes,
  .of "idempotency_key" idempotencyKey]

end UsageProposal

namespace UsageProposalV2

/-- The `body` of the key's object. -/
def facts : List (Member UsageProposalV2) := [
  .of "provider_call_id" providerCallId,
  .of "price_table" priceTable,
  .of "price_table_digest" priceTableDigest,
  .of "input_tokens" inputTokens,
  .of "output_tokens" outputTokens,
  .of "reasoning_tokens" reasoningTokens,
  .of "cached_input_tokens" cachedInputTokens,
  .of "cache_write_tokens" cacheWriteTokens,
  .of "cost_usd_micros" costUsdMicros,
  .of "output_bytes" outputBytes,
  .of "author_role" authorRole]

theorem nodup_facts : (facts.map Member.name).Nodup := by
  decide

def header (p : UsageProposalV2) : Header :=
  ⟨p.taskId, p.runId, p.packetDigest, p.fence, p.sequence, p.authorRole⟩

def asdict : List (Member UsageProposalV2) := [
  .of "task_id" taskId,
  .of "run_id" runId,
  .of "packet_digest" packetDigest,
  .of "fence" fence,
  .of "sequence" sequence,
  .of "author_role" authorRole,
  .of "provider_call_id" providerCallId,
  .of "price_table" priceTable,
  .of "price_table_digest" priceTableDigest,
  .of "input_tokens" inputTokens,
  .of "output_tokens" outputTokens,
  .of "reasoning_tokens" reasoningTokens,
  .of "cached_input_tokens" cachedInputTokens,
  .of "cache_write_tokens" cacheWriteTokens,
  .of "cost_usd_micros" costUsdMicros,
  .of "output_bytes" outputBytes,
  .of "idempotency_key" idempotencyKey]

end UsageProposalV2

/-- What `accept` returns. -/
inductive Proposal where
  | note (p : NoteProposal)
  | artifact (p : ArtifactProposal)
  | usage (p : UsageProposal)
  | usageV2 (p : UsageProposalV2)
  | terminal (p : TerminalProposal)

/-- The `asdict` of the two that are defined with the contracts. -/
def artifactDict : List (Member ArtifactProposal) := [
  .of "task_id" ArtifactProposal.taskId,
  .of "run_id" ArtifactProposal.runId,
  .of "packet_digest" ArtifactProposal.packetDigest,
  .of "fence" ArtifactProposal.fence,
  .of "sequence" ArtifactProposal.sequence,
  .of "author_role" ArtifactProposal.authorRole,
  .of "artifact_class" ArtifactProposal.artifactClass,
  .of "path" ArtifactProposal.path,
  .of "sha256" ArtifactProposal.sha256,
  .of "size_bytes" ArtifactProposal.sizeBytes,
  .of "media_type" ArtifactProposal.mediaType,
  .of "artifact_attestation_digest"
    ArtifactProposal.artifactAttestationDigest,
  .of "idempotency_key" ArtifactProposal.idempotencyKey]

def terminalDict : List (Member TerminalProposal) := [
  .of "task_id" TerminalProposal.taskId,
  .of "run_id" TerminalProposal.runId,
  .of "packet_digest" TerminalProposal.packetDigest,
  .of "fence" TerminalProposal.fence,
  .of "sequence" TerminalProposal.sequence,
  .of "author_role" TerminalProposal.authorRole,
  .of "terminal_type" TerminalProposal.terminalType,
  .of "summary" TerminalProposal.summary,
  .of "failure_class" TerminalProposal.failureClass,
  .of "reason" TerminalProposal.reason,
  .of "diagnostic" TerminalProposal.diagnostic,
  .of "idempotency_key" TerminalProposal.idempotencyKey]

namespace Proposal

/-- `asdict(proposal)` -/
def asdict : Proposal → Json
  | .note p => Json.members NoteProposal.asdict p
  | .artifact p => Json.members artifactDict p
  | .usage p => Json.members UsageProposal.asdict p
  | .usageV2 p => Json.members UsageProposalV2.asdict p
  | .terminal p => Json.members terminalDict p

def idempotencyKey : Proposal → Text
  | .note p => p.idempotencyKey
  | .artifact p => p.idempotencyKey
  | .usage p => p.idempotencyKey
  | .usageV2 p => p.idempotencyKey
  | .terminal p => p.idempotencyKey

def header : Proposal → Header
  | .note p => p.header
  | .artifact p => ⟨p.taskId, p.runId, p.packetDigest, p.fence, p.sequence,
      p.authorRole⟩
  | .usage p => p.header
  | .usageV2 p => p.header
  | .terminal p => ⟨p.taskId, p.runId, p.packetDigest, p.fence, p.sequence,
      p.authorRole⟩

/-- `event_type`, as the key has it. -/
def eventType : Proposal → Text
  | .note _ => "note.proposed".toList
  | .artifact _ => "artifact.proposed".toList
  | .usage _ => "usage.reported".toList
  | .usageV2 _ => "usage.reported".toList
  | .terminal p => p.terminalType

/-- `body`, as the key has it. -/
def body : Proposal → Json
  | .note p => Json.members NoteProposal.facts p
  | .artifact p => Json.members ArtifactProposal.body p
  | .usage p => Json.members UsageProposal.facts p
  | .usageV2 p => Json.members UsageProposalV2.facts p
  | .terminal p => Json.members TerminalProposal.body p

/-- What the key is a digest of. -/
def message (p : Proposal) : List UInt8 :=
  utf8 (canonicalJson (.obj (keyMembers p.header p.eventType p.body)))

/-- `proposal_idempotency_key` -/
def proposalIdempotencyKey (rt : Runtime) (p : Proposal) : Text :=
  (rt.sha256 p.message).text

/-- It is what the contracts have for the two they define. -/
theorem message_artifact (p : ArtifactProposal) :
    (Proposal.artifact p).message = p.message := rfl

theorem message_terminal (p : TerminalProposal) :
    (Proposal.terminal p).message = p.message := rfl

-- ========================================================== what is told

/-- What two objects that are one in order have under a name. -/
theorem lookup_reorder {members members' : List (Text × Json)}
    (hnodup : (members.map Prod.fst).Nodup)
    (hnodup' : (members'.map Prod.fst).Nodup)
    (h : (Json.obj members).reorder id = (Json.obj members').reorder id)
    (name : Text) :
    (members.lookup name).map (Json.reorder id)
      = (members'.lookup name).map (Json.reorder id) := by
  have hleft : ((Json.obj members).reorder id).get? name
      = ((Json.obj members).get? name).map (Json.reorder id) :=
    Json.get?_reorder hnodup name
  have hright : ((Json.obj members').reorder id).get? name
      = ((Json.obj members').get? name).map (Json.reorder id) :=
    Json.get?_reorder hnodup' name
  rw [h] at hleft
  exact hleft.symm.trans hright

theorem nodup_keyMembers (h : Header) (eventType : Text) (body : Json) :
    ((keyMembers h eventType body).map Prod.fst).Nodup := by
  show (["contract".toList, "task_id".toList, "run_id".toList,
    "packet_digest".toList, "fence".toList, "author_role".toList,
    "sequence".toList, "event_type".toList, "body".toList]
    : List Text).Nodup
  decide

theorem plain_body (p : Proposal) : p.body.Plain := by
  cases p <;> exact Json.plain_members _ _

theorem plain_keyMembers (h : Header) (eventType : Text) {body : Json}
    (hbody : body.Plain) : (Json.obj (keyMembers h eventType body)).Plain :=
  ⟨trivial, trivial, trivial, trivial, rfl, trivial, rfl, trivial, hbody,
    trivial⟩

/-- The parts of a key's object are told by its text. -/
theorem parts_of_message {p p' : Proposal} (h : p.message = p'.message) :
    p.header = p'.header ∧ p.eventType = p'.eventType
      ∧ p.body.reorder id = p'.body.reorder id := by
  have hjson := Json.reorder_inj_of_write
    (plain_keyMembers p.header p.eventType (plain_body p))
    (plain_keyMembers p'.header p'.eventType (plain_body p'))
    (Factory.utf8_inj h)
  have hlookup := lookup_reorder (nodup_keyMembers _ _ _)
    (nodup_keyMembers _ _ _) hjson
  have htext : ∀ t t' : Text, Option.map (Json.reorder id) (some (.str t))
      = Option.map (Json.reorder id) (some (.str t')) → t = t' :=
    fun t t' heq => Json.str.inj (Option.some.inj heq)
  have hint : ∀ z z' : Int, Option.map (Json.reorder id) (some (.int z))
      = Option.map (Json.reorder id) (some (.int z')) → z = z' :=
    fun z z' heq => (Json.num.inj (Option.some.inj heq)).1
  have htask := htext _ _ (hlookup "task_id".toList)
  have hrun := htext _ _ (hlookup "run_id".toList)
  have hpacket := htext _ _ (hlookup "packet_digest".toList)
  have hfence := hint _ _ (hlookup "fence".toList)
  have hrole := htext _ _ (hlookup "author_role".toList)
  have hsequence := hint _ _ (hlookup "sequence".toList)
  have hevent := htext _ _ (hlookup "event_type".toList)
  have hbody := Option.some.inj (hlookup "body".toList)
  refine ⟨?_, hevent, hbody⟩
  generalize p.header = header at *
  generalize p'.header = header' at *
  cases header
  cases header'
  cases htask
  cases hrun
  cases hpacket
  cases hfence
  cases hrole
  cases hsequence
  rfl

/-- A terminal proposal has a terminal event's type. -/
def Closed : Proposal → Prop
  | .terminal p => p.terminalType ∈ ["run.completed".toList,
      "run.failed".toList, "run.needs_human".toList]
  | _ => True

/-- The event types of two kinds differ. -/
theorem eventTypes_ne :
    "note.proposed".toList ≠ "artifact.proposed".toList
      ∧ "note.proposed".toList ≠ "usage.reported".toList
      ∧ "artifact.proposed".toList ≠ "usage.reported".toList := by
  decide

/-- The event types of two kinds differ, where one is a terminal's. -/
theorem terminalType_ne {p : TerminalProposal} (h : Closed (.terminal p)) :
    p.terminalType ≠ "note.proposed".toList
      ∧ p.terminalType ≠ "artifact.proposed".toList
      ∧ p.terminalType ≠ "usage.reported".toList := by
  refine ⟨?_, ?_, ?_⟩ <;>
    · intro heq
      rw [Closed, heq] at h
      revert h
      decide

/-- The two versions of usage have different names in their bodies. -/
theorem body_usage_ne (p : UsageProposal) (q : UsageProposalV2) :
    (Proposal.usage p).body.reorder id
      ≠ (Proposal.usageV2 q).body.reorder id := by
  intro h
  have hnames : ∀ {α : Type} (fields : List (Member α)) (a : α),
      (fields.map fun f => (f.name, f.json a)).map Prod.fst
        = fields.map Member.name := by
    intro α fields a
    rw [List.map_map]
    rfl
  have hlookup := lookup_reorder (by rw [hnames]; decide)
    (by rw [hnames]; decide) h "price_table".toList
  cases hlookup

/-- A message tells its proposal, up to the key itself. -/
theorem message_inj {p p' : Proposal} (hclosed : p.Closed)
    (hclosed' : p'.Closed) (hkey : p.idempotencyKey = p'.idempotencyKey)
    (h : p.message = p'.message) : p = p' := by
  obtain ⟨hheader, hevent, hbody⟩ := parts_of_message h
  cases p with
  | note p =>
      cases p' with
      | note p' =>
          have hfacts := members_same NoteProposal.nodup_facts hbody
          cases p
          cases p'
          simp_all [NoteProposal.facts, header, NoteProposal.header,
            idempotencyKey]
      | artifact p' => exact absurd hevent eventTypes_ne.1
      | usage p' => exact absurd hevent eventTypes_ne.2.1
      | usageV2 p' => exact absurd hevent eventTypes_ne.2.1
      | terminal p' =>
          exact absurd hevent.symm (terminalType_ne hclosed').1
  | artifact p =>
      cases p' with
      | artifact p' =>
          have hfacts := members_same ArtifactProposal.nodup_body hbody
          cases p
          cases p'
          simp_all [ArtifactProposal.body, header, idempotencyKey]
      | note p' => exact absurd hevent.symm eventTypes_ne.1
      | usage p' => exact absurd hevent eventTypes_ne.2.2
      | usageV2 p' => exact absurd hevent eventTypes_ne.2.2
      | terminal p' =>
          exact absurd hevent.symm (terminalType_ne hclosed').2.1
  | usage p =>
      cases p' with
      | usage p' =>
          have hfacts := members_same UsageProposal.nodup_facts hbody
          cases p
          cases p'
          simp_all [UsageProposal.facts, header, UsageProposal.header,
            idempotencyKey]
      | usageV2 p' => exact absurd hbody (body_usage_ne p p')
      | note p' => exact absurd hevent.symm eventTypes_ne.2.1
      | artifact p' => exact absurd hevent.symm eventTypes_ne.2.2
      | terminal p' =>
          exact absurd hevent.symm (terminalType_ne hclosed').2.2
  | usageV2 p =>
      cases p' with
      | usageV2 p' =>
          have hfacts := members_same UsageProposalV2.nodup_facts hbody
          cases p
          cases p'
          simp_all [UsageProposalV2.facts, header, UsageProposalV2.header,
            idempotencyKey]
      | usage p' => exact absurd hbody.symm (body_usage_ne p' p)
      | note p' => exact absurd hevent.symm eventTypes_ne.2.1
      | artifact p' => exact absurd hevent.symm eventTypes_ne.2.2
      | terminal p' =>
          exact absurd hevent.symm (terminalType_ne hclosed').2.2
  | terminal p =>
      cases p' with
      | terminal p' =>
          have hfacts := members_same TerminalProposal.nodup_body hbody
          cases p
          cases p'
          simp_all [TerminalProposal.body, header, idempotencyKey]
      | note p' => exact absurd hevent (terminalType_ne hclosed).1
      | artifact p' => exact absurd hevent (terminalType_ne hclosed).2.1
      | usage p' => exact absurd hevent (terminalType_ne hclosed).2.2
      | usageV2 p' => exact absurd hevent (terminalType_ne hclosed).2.2

end Proposal

end Exolon.Broker
