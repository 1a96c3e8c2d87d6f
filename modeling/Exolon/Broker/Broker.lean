/-
The proposal broker: what an adapter's event becomes.

`accept` checks an event against the context of its run and answers a
proposal, whose texts are redacted and whose key is made of the event's own
payload. The broker remembers the runs it has returned a terminal proposal
for; nothing else of it changes.

# What is left open

`BrokerRuntime` has what the compiled patterns answer: a substitution for
each of the four, and a search. The strings of events and contexts are texts
of scalars, which is what the walk over a payload has checked.
-/
import Exolon.Broker.Proposals
import Exolon.Lib.Transaction

namespace Exolon.Broker

open Factory (PriceTable UsageTokens PricingContractError utf8
  calculateCostUsdMicros)
open Semantic (Runtime ArtifactProposal TerminalProposal isHex isMediaType
  isCleanPath pathParts failureClasses)

-- ================================================================= errors

structure BrokerError where
  code : String
  detail : Text := []
  deriving DecidableEq

/-- Raise where the condition holds. -/
def reject (condition : Bool) (code : String) (detail : Text := []) :
    Except BrokerError Unit :=
  if condition then .error ⟨code, detail⟩ else .ok ()

/-- The value of an option, or an error. -/
def orRaise {α : Type} (code : String) : Option α → Except BrokerError α
  | none => .error ⟨code, []⟩
  | some a => .ok a

/-- `except BrokerError as exc` of a text that is too large. -/
def tooLarge {α : Type} (code : String) :
    Except BrokerError α → Except BrokerError α
  | .error e =>
      if e.code = "text_too_large" then .error ⟨code, []⟩ else .error e
  | .ok a => .ok a

-- =================================================================== wire

mutual

/-- `json.dumps` with `separators=(", ", ": ")`, of an object whose members
are in order. -/
def dumps : Json → Text
  | .null => "null".toList
  | .bool true => "true".toList
  | .bool false => "false".toList
  | .num mantissa _ => intText mantissa
  | .str s => Json.quote s
  | .arr items => '[' :: List.intercalate ", ".toList (dumpsItems items)
      ++ [']']
  | .obj members => '{' :: List.intercalate ", ".toList (dumpsMembers members)
      ++ ['}']

def dumpsItems : List Json → List Text
  | [] => []
  | item :: items => dumps item :: dumpsItems items

def dumpsMembers : List (Text × Json) → List Text
  | [] => []
  | (name, value) :: members =>
      (Json.quote name ++ ": ".toList ++ dumps value) :: dumpsMembers members

end

/-- `MAX_PROPOSAL_ENVELOPE_BYTES` -/
def maxProposalEnvelopeBytes : Nat := 1048576

/-- The bytes of a proposal's envelope. -/
def Proposal.wireBytes (p : Proposal) : Nat :=
  (utf8 (dumps (p.asdict.reorder id))).length

/-- `_bounded_proposal` -/
def boundedProposal (p : Proposal) : Except BrokerError Proposal := do
  reject (maxProposalEnvelopeBytes < p.wireBytes) "proposal_too_large"
  .ok p

-- ============================================================== redaction

/-- The patterns that are replaced by `[REDACTED]`. -/
inductive Redaction where
  | pemBlock
  | authorization
  | bearer
  | secret

structure BrokerRuntime extends Runtime where
  sub : Redaction → Text → Text
  hasPemMarker : Text → Bool

section

variable (rt : BrokerRuntime)

/-- `_redact` -/
def redact (value : Text) (maxBytes : Int) : Except BrokerError Text := do
  reject (maxBytes < (utf8 value).length) "text_too_large"
  let redacted := rt.sub .pemBlock value
  reject (rt.hasPemMarker redacted) "secret_content"
  let redacted := rt.sub .secret
    (rt.sub .bearer (rt.sub .authorization redacted))
  reject (maxBytes < (utf8 redacted).length) "text_too_large"
  .ok redacted

/-- `_result_text` -/
def resultText (value : Text) (maxBytes : Int) : Except BrokerError Text := do
  reject (!rt.isNfc value || value.any fun c => c.toNat < 32) "terminal_text"
  redact rt value maxBytes

/-- `_secret_free` -/
def secretFree (value : Text) (maximum : Int)
    (code : String := "secret_identity") : Except BrokerError Unit := do
  reject (rt.containsStructuralSecret value) code
  let redacted ← redact rt value maximum
  reject (redacted ≠ value) code

/-- `_safe_path`, of a string. -/
def safePath (value : Text) (code : String) : Except BrokerError Unit := do
  reject (value.isEmpty || value.contains '\x00') code
  secretFree rt value 1024
  reject (!isCleanPath value) code

end

-- ================================================================ events

structure ProposalContext where
  taskId : Text
  runId : Text
  owner : Text
  fence : Int
  packetDigest : Text
  role : Text
  allowedPaths : List Text
  allowedArtifactClasses : List Text
  maxNoteBytes : Int
  maxArtifactBytes : Int
  maxOutputBytes : Int
  maxCostUsdMicros : Int
  maxTokenUnits : Int
  declaredCapabilities : List Text

structure CanonicalEvent where
  protocolVersion : Text
  taskId : Text
  runId : Text
  packetDigest : Text
  sequence : Int
  eventType : Text
  payload : List (Text × Json)
  payload_nodup : (payload.map Prod.fst).Nodup

namespace CanonicalEvent

/-- `set(payload) == set(names)` -/
def hasFields (event : CanonicalEvent) (names : List Text) : Bool :=
  (event.payload.map Prod.fst).all names.contains
    && names.all (event.payload.map Prod.fst).contains

/-- `payload[name]`, of a payload that has the name. -/
def field (event : CanonicalEvent) (name : String) : Json :=
  (event.payload.lookup name.toList).getD .null

end CanonicalEvent

/-- The text of a `str`. -/
def text? : Json → Option Text
  | .str t => some t
  | _ => none

/-- The value of an `int`; a `bool` is none here. -/
def int? : Json → Option Int
  | .num z 0 => some z
  | _ => none

/-- The items of a list. -/
def items? : Json → Option (List Json)
  | .arr items => some items
  | _ => none

mutual

/-- A value as the pricing reads it. -/
def toPy : Json → PyJson
  | .null => .none
  | .bool b => .bool b
  | .num mantissa exponent =>
      if exponent = 0 then .int mantissa else .float ⟨mantissa, exponent⟩
  | .str s => .str (s.map codePoint)
  | .arr items => .list (toPyItems items)
  | .obj members => .dict (toPyMembers members)

def toPyItems : List Json → List PyJson
  | [] => []
  | item :: items => toPy item :: toPyItems items

def toPyMembers : List (Text × Json) → List (PyStr × PyJson)
  | [] => []
  | (name, value) :: members =>
      (name.map codePoint, toPy value) :: toPyMembers members

end

-- ============================================================ the builders

section

variable (rt : BrokerRuntime) (event : CanonicalEvent)
  (context : ProposalContext)

/-- What the key and the proposal take from the context and the event. -/
def header : Header :=
  ⟨context.taskId, context.runId, context.packetDigest, context.fence,
    event.sequence, context.role⟩

/-- `_key` -/
def key (body : List (Text × Json)) : Text :=
  rt.canonicalDigest
    (.obj (keyMembers (header event context) event.eventType (.obj body)))

/-- A payload's text that passes a test. -/
def textField (name : String) (test : Text → Bool) (code : String) :
    Except BrokerError Text :=
  orRaise code ((text? (event.field name)).filter test)

/-- A payload's integer that passes a test. -/
def intField (name : String) (test : Int → Bool) (code : String) :
    Except BrokerError Int :=
  orRaise code ((int? (event.field name)).filter test)

/-- `_allowed_path` -/
def allowedPath (value : Json) (code : String) : Except BrokerError Text := do
  let value ← orRaise code (text? value)
  safePath rt value code
  context.allowedPaths.forM (safePath rt · "invalid_allowed_path")
  reject (!context.allowedPaths.any fun root =>
    (pathParts root).isPrefixOf (pathParts value)) "path_forbidden"
  .ok value

/-- `_NOTE_TYPES_V1` -/
def noteTypes : List Text :=
  ["finding".toList, "conclusion".toList, "decision.record".toList]

/-- `_note` -/
def note : Except BrokerError NoteProposal := do
  reject (!event.hasFields
    ["note_type".toList, "body".toList, "evidence".toList]) "note_fields"
  reject (context.role ≠ "reader".toList && context.role ≠ "writer".toList)
    "note_role"
  let noteType ← textField event "note_type" (!·.isEmpty) "note_role"
  reject (!noteTypes.contains noteType) "forbidden_note_type"
  secretFree rt noteType 64
  let body ← textField event "body" (fun body =>
    !"#!".toList.isPrefixOf body && !decide ("\ngit push".toList <:+: body))
    "executable_note"
  let redacted ← tooLarge "note_too_large"
    (redact rt body context.maxNoteBytes)
  let evidence ← orRaise "evidence"
    ((items? (event.field "evidence")).filter (·.length ≤ 64))
  let safeEvidence ← evidence.mapM (allowedPath rt context · "evidence")
  .ok {
    taskId := context.taskId
    runId := context.runId
    packetDigest := context.packetDigest
    fence := context.fence
    sequence := event.sequence
    authorRole := context.role
    noteType := noteType
    body := redacted
    evidence := safeEvidence
    idempotencyKey := key rt event context [
      ("note_type".toList, .str noteType),
      ("body".toList, .str redacted),
      ("evidence".toList, .arr (safeEvidence.map .str))] }

/-- `_artifact` -/
def artifact (attestation : Option Text) :
    Except BrokerError ArtifactProposal := do
  reject (context.role ≠ "writer".toList) "artifact_role"
  reject (!event.hasFields ["artifact_class".toList, "path".toList,
    "sha256".toList, "size_bytes".toList, "media_type".toList])
    "artifact_fields"
  let artifactClass ← textField event "artifact_class"
    context.allowedArtifactClasses.contains "artifact_class"
  let path ← allowedPath rt context (event.field "path")
    "invalid_artifact_path"
  let digest ← textField event "sha256" (isHex 64) "artifact_digest"
  let size ← intField event "size_bytes"
    (fun size => 0 ≤ size && size ≤ context.maxArtifactBytes) "artifact_size"
  let mediaType ← textField event "media_type" isMediaType
    "artifact_media_type"
  let attestation ← orRaise "artifact_attestation"
    (attestation.filter (isHex 64))
  .ok {
    taskId := context.taskId
    runId := context.runId
    packetDigest := context.packetDigest
    fence := context.fence
    sequence := event.sequence
    authorRole := context.role
    artifactClass := artifactClass
    path := path
    sha256 := digest
    sizeBytes := size
    mediaType := mediaType
    artifactAttestationDigest := attestation
    idempotencyKey := key rt event context (event.payload ++ [
      ("author_role".toList, .str context.role),
      ("artifact_attestation_digest".toList, .str attestation)]) }

/-- `_usage_v1` -/
def usageV1 : Except BrokerError UsageProposal := do
  reject (!event.hasFields ["provider_call_id".toList,
    "price_table_digest".toList, "input_tokens".toList,
    "output_tokens".toList, "reasoning_tokens".toList,
    "cost_usd_micros".toList, "output_bytes".toList]) "missing_usage"
  let priceTableDigest ← textField event "price_table_digest" (isHex 64)
    "missing_usage"
  let number := fun name => intField event name (0 ≤ ·) "invalid_usage"
  let inputTokens ← number "input_tokens"
  let outputTokens ← number "output_tokens"
  let reasoningTokens ← number "reasoning_tokens"
  let costUsdMicros ← number "cost_usd_micros"
  let outputBytes ← number "output_bytes"
  reject (context.maxTokenUnits < inputTokens + outputTokens + reasoningTokens
    || context.maxCostUsdMicros < costUsdMicros
    || context.maxOutputBytes < outputBytes) "budget_exceeded"
  let providerCallId ← textField event "provider_call_id" (!·.isEmpty)
    "missing_usage"
  secretFree rt providerCallId 128
  .ok {
    taskId := context.taskId
    runId := context.runId
    packetDigest := context.packetDigest
    fence := context.fence
    sequence := event.sequence
    authorRole := context.role
    providerCallId := providerCallId
    priceTableDigest := priceTableDigest
    inputTokens := inputTokens
    outputTokens := outputTokens
    reasoningTokens := reasoningTokens
    costUsdMicros := costUsdMicros
    outputBytes := outputBytes
    idempotencyKey := key rt event context (event.payload ++ [
      ("author_role".toList, .str context.role)]) }

/-- `except PricingContractError as exc` -/
def priced {α : Type} : Except PricingContractError α → Except BrokerError α
  | .error e => .error ⟨e.code, []⟩
  | .ok a => .ok a

/-- `_usage_v2` -/
def usageV2 : Except BrokerError UsageProposalV2 := do
  reject (!event.hasFields ["provider_call_id".toList, "price_table".toList,
    "price_table_digest".toList, "input_tokens".toList,
    "output_tokens".toList, "reasoning_tokens".toList,
    "cached_input_tokens".toList, "cache_write_tokens".toList,
    "output_bytes".toList]) "missing_usage"
  let providerCallId ← textField event "provider_call_id" (!·.isEmpty)
    "missing_usage"
  secretFree rt providerCallId 128
  let outputBytes ← intField event "output_bytes" (0 ≤ ·) "invalid_usage"
  let table ← priced (PriceTable.fromDict (toPy (event.field "price_table")))
  let usage ← priced (UsageTokens.checked
    (toPy (event.field "input_tokens")) (toPy (event.field "output_tokens"))
    (toPy (event.field "reasoning_tokens"))
    (toPy (event.field "cached_input_tokens"))
    (toPy (event.field "cache_write_tokens")))
  let cost ← priced (calculateCostUsdMicros rt.sha256 usage table
    (toPy (event.field "price_table_digest")))
  let priceTableDigest ← textField event "price_table_digest" (fun _ => true)
    "price_table_digest_mismatch"
  reject (context.maxTokenUnits < usage.totalTokens
    || context.maxCostUsdMicros < cost
    || context.maxOutputBytes < outputBytes) "budget_exceeded"
  .ok {
    taskId := context.taskId
    runId := context.runId
    packetDigest := context.packetDigest
    fence := context.fence
    sequence := event.sequence
    authorRole := context.role
    providerCallId := providerCallId
    priceTable := table
    priceTableDigest := priceTableDigest
    inputTokens := usage.inputTokens
    outputTokens := usage.outputTokens
    reasoningTokens := usage.reasoningTokens
    cachedInputTokens := usage.cachedInputTokens
    cacheWriteTokens := usage.cacheWriteTokens
    costUsdMicros := cost
    outputBytes := outputBytes
    idempotencyKey := key rt event context (
      event.payload.map (fun (name, value) =>
        if name = "price_table".toList then (name, table.toDict)
        else (name, value))
      ++ [("author_role".toList, .str context.role),
        ("cost_usd_micros".toList, .int cost)]) }

/-- What a terminal event says: its failure class, its reason and its
diagnostic, before they are redacted, and its summary if it has one. -/
structure TerminalTexts where
  summary : Text
  failureClass : Option Text
  reason : Option Text
  diagnostic : Option Text

/-- The texts of a terminal event, redacted. -/
def terminalTexts : Except BrokerError TerminalTexts :=
  let small : Int := min 4096 context.maxNoteBytes
  if event.eventType = "run.completed".toList then do
    reject (!event.hasFields ["summary".toList]) "terminal_fields"
    let summary ← textField event "summary" (!·.isEmpty) "terminal_fields"
    let summary ← tooLarge "terminal_too_large"
      (redact rt summary context.maxNoteBytes)
    .ok ⟨summary, none, none, none⟩
  else if event.eventType = "run.failed".toList then do
    reject (!event.hasFields ["failure_class".toList, "diagnostic".toList])
      "terminal_fields"
    let failureClass ← textField event "failure_class" (fun _ => true)
      "terminal_fields"
    let diagnostic ← textField event "diagnostic" (!·.isEmpty)
      "terminal_fields"
    reject (!failureClasses.contains failureClass) "failure_class"
    let diagnostic ← tooLarge "terminal_too_large"
      (resultText rt diagnostic small)
    let summary ← tooLarge "terminal_too_large" (redact rt
      (failureClass ++ ": ".toList ++ diagnostic) context.maxNoteBytes)
    .ok ⟨summary, some failureClass, none, some diagnostic⟩
  else do
    reject (!event.hasFields ["reason".toList, "diagnostic".toList])
      "terminal_fields"
    let reason ← textField event "reason" (!·.isEmpty) "terminal_fields"
    let diagnostic ← textField event "diagnostic" (!·.isEmpty)
      "terminal_fields"
    let reason ← tooLarge "terminal_too_large" (resultText rt reason small)
    let diagnostic ← tooLarge "terminal_too_large"
      (redact rt diagnostic context.maxNoteBytes)
    let summary ← tooLarge "terminal_too_large" (redact rt
      (reason ++ ": ".toList ++ diagnostic) context.maxNoteBytes)
    .ok ⟨summary, none, some reason, some diagnostic⟩

/-- `_terminal_proposal`, up to the proposal. -/
def terminal : Except BrokerError TerminalProposal := do
  let texts ← terminalTexts rt event context
  .ok {
    taskId := context.taskId
    runId := context.runId
    packetDigest := context.packetDigest
    fence := context.fence
    sequence := event.sequence
    authorRole := context.role
    terminalType := event.eventType
    summary := texts.summary
    failureClass := texts.failureClass
    reason := texts.reason
    diagnostic := texts.diagnostic
    idempotencyKey := key rt event context [
      ("terminal_type".toList, .str event.eventType),
      ("author_role".toList, .str context.role),
      ("summary".toList, .str texts.summary),
      ("failure_class".toList, Document.json texts.failureClass),
      ("reason".toList, Document.json texts.reason),
      ("diagnostic".toList, Document.json texts.diagnostic)] }

end

-- ============================================================= the broker

/-- `ProposalBroker._terminal` -/
abbrev State := Finset (Text × Text × Text)

/-- The run a context is of. -/
def ProposalContext.identity (context : ProposalContext) :
    Text × Text × Text :=
  (context.taskId, context.runId, context.packetDigest)

/-- `_TERMINAL` -/
def terminalEvents : List Text :=
  ["run.completed".toList, "run.failed".toList, "run.needs_human".toList]

/-- The capability an event needs. -/
def capability (eventType : Text) : Option Text :=
  if eventType = "note.proposed".toList then some "notes".toList
  else if eventType = "artifact.proposed".toList then some "artifacts".toList
  else if eventType = "usage.reported".toList then some "usage".toList
  else if terminalEvents.contains eventType then
    some "structured_output".toList
  else none

/-- One call of `accept`. -/
structure Call where
  event : CanonicalEvent
  context : ProposalContext
  owner : Text
  fence : Int
  attestation : Option Text

section

variable (rt : BrokerRuntime)

/-- What `accept` asks of every event. -/
def Call.check (call : Call) : Except BrokerError Unit := do
  reject ((call.event.taskId, call.event.runId, call.event.packetDigest)
    ≠ call.context.identity) "identity_mismatch"
  reject (call.owner ≠ call.context.owner) "owner_mismatch"
  reject (call.fence ≠ call.context.fence) "stale_fence"
  reject ((capability call.event.eventType).any fun needed =>
      !call.context.declaredCapabilities.contains needed)
    "undeclared_capability" ((capability call.event.eventType).getD [])
  reject (call.event.eventType ≠ "artifact.proposed".toList
    && call.attestation.isSome) "unexpected_artifact_attestation"

/-- The proposal of an event that is not terminal. -/
def Call.propose (call : Call) : Except BrokerError Proposal :=
  let event := call.event
  let context := call.context
  if event.eventType = "note.proposed".toList then do
    let p ← note rt event context
    .ok (.note p)
  else if event.eventType = "artifact.proposed".toList then do
    let p ← artifact rt event context call.attestation
    .ok (.artifact p)
  else if event.eventType = "usage.reported".toList then
    if event.protocolVersion = "adaptive-factory.execution/v1".toList then do
      let p ← usageV1 rt event context
      .ok (.usage p)
    else if event.protocolVersion = "adaptive-factory.execution/v2".toList
    then do
      let p ← usageV2 rt event context
      .ok (.usageV2 p)
    else .error ⟨"unsupported_version", []⟩
  else .error ⟨"unsupported_proposal", event.eventType⟩

/-- `_terminal_proposal`: the run is remembered as soon as its proposal is
there, before its size is looked at. -/
def Call.terminate (s : State) (call : Call) :
    Except BrokerError Proposal × State :=
  if call.context.identity ∈ s then (.error ⟨"duplicate_terminal", []⟩, s)
  else
    match terminal rt call.event call.context with
    | .error e => (.error e, s)
    | .ok p => (boundedProposal (.terminal p),
        insert call.context.identity s)

/-- `ProposalBroker.accept`, with the state it leaves. -/
def accept (s : State) (call : Call) : Except BrokerError Proposal × State :=
  match call.check with
  | .error e => (.error e, s)
  | .ok () =>
      if terminalEvents.contains call.event.eventType then
        call.terminate rt s
      else (call.propose rt >>= boundedProposal, s)

end

end Exolon.Broker
