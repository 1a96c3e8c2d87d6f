/-
The event protocol of an adapter: what one event may say, and the parser
of a stream of them.

An adapter writes one JSON object a line. `EventStreamParser.parse` checks
a line against the parser's identity, the sequence of its events and the
declared capabilities, `feed` takes the lines off the chunks as they
arrive (`LineReader`), and `finish` answers the run, if it is complete.

A value of the wrong Python type makes a comparison raise something else
than `ProtocolError`; `Raised` has these cases too.
-/
import Exolon.Factory.Pricing
import Exolon.Lib.Feed

namespace Exolon.Factory

-- ================================================================ errors

/-- What a function of the protocol raises. -/
inductive Raised where
  | protocol (code : String) (detail : PyStr)
  | typeError
  | keyError (key : PyStr)
  | valueError
  | recursionError
  deriving DecidableEq

/-- `ProtocolError(code)` -/
def protocolError {α : Type} (code : String) : Except Raised α :=
  .error (.protocol code [])

/-- Nothing is answered without every part of it. -/
theorem bind_ok {ε α β : Type} {x : Except ε α} {f : α → Except ε β} {b : β} :
    (x >>= f) = .ok b ↔ ∃ a, x = .ok a ∧ f a = .ok b := by
  cases x with
  | error e =>
      constructor
      · intro h
        cases h
      · intro h
        obtain ⟨a, ha, _⟩ := h
        cases ha
  | ok a =>
      constructor
      · intro h
        exact ⟨a, rfl, h⟩
      · intro h
        obtain ⟨a', ha, hf⟩ := h
        cases ha
        exact hf

-- ============================================================= constants

def protocolVersion : PyStr := py "adaptive-factory.execution/v1"

def protocolVersionV2 : PyStr := py "adaptive-factory.execution/v2"

/-- `_TERMINAL` -/
def terminalEvents : List PyStr :=
  [py "run.completed", py "run.failed", py "run.needs_human"]

/-- `_EVENTS` -/
def knownEvents : List PyStr :=
  [py "adapter.ready", py "run.started", py "stage.reported",
    py "note.proposed", py "artifact.proposed", py "usage.reported"]
    ++ terminalEvents

/-- `_CAPABILITY` -/
def requiredCapability (eventType : PyStr) : Option PyStr :=
  if eventType = py "note.proposed" then some (py "notes")
  else if eventType = py "artifact.proposed" then some (py "artifacts")
  else if eventType = py "usage.reported" then some (py "usage")
  else if eventType ∈ terminalEvents then some (py "structured_output")
  else none

/-- `_FORBIDDEN_KEYS` -/
def forbiddenKeys : List PyStr := [
  py "reasoning", py "scratchpad", py "chain_of_thought", py "analysis",
  py "raw_prompt", py "prompt", py "stdout", py "stderr",
  py "native_stream"]

/-- `_NOTE_TYPES_V1` -/
def noteTypes : List PyStr :=
  [py "finding", py "conclusion", py "decision.record"]

def usageFieldsV1 : List PyStr := [
  py "provider_call_id", py "price_table_digest", py "input_tokens",
  py "output_tokens", py "reasoning_tokens", py "cost_usd_micros",
  py "output_bytes"]

def usageFieldsV2 : List PyStr := [
  py "provider_call_id", py "price_table", py "price_table_digest",
  py "input_tokens", py "output_tokens", py "reasoning_tokens",
  py "cached_input_tokens", py "cache_write_tokens", py "output_bytes"]

/-- `_PAYLOAD_FIELDS` -/
def payloadFields (eventType : PyStr) : Option (List PyStr) :=
  if eventType = py "adapter.ready" then
    some [py "provider_id", py "adapter_id", py "adapter_version",
      py "native_version", py "model_id", py "capabilities"]
  else if eventType = py "run.started" then some [py "stage"]
  else if eventType = py "stage.reported" then
    some [py "stage", py "status"]
  else if eventType = py "note.proposed" then
    some [py "note_type", py "body", py "evidence"]
  else if eventType = py "artifact.proposed" then
    some [py "artifact_class", py "path", py "sha256", py "size_bytes",
      py "media_type"]
  else if eventType = py "usage.reported" then some usageFieldsV1
  else if eventType = py "run.completed" then some [py "summary"]
  else if eventType = py "run.failed" then
    some [py "failure_class", py "diagnostic"]
  else if eventType = py "run.needs_human" then
    some [py "reason", py "diagnostic"]
  else none

-- ================================================================ limits

/-- `ProtocolLimits` -/
structure ProtocolLimits where
  maxLineBytes : Nat := 65536
  maxStreamBytes : Nat := 1000000
  maxEvents : Nat := 1000
  maxDepth : Nat := 12
  maxNodes : Nat := 4096
  maxStringBytes : Nat := 65536
  positive : 1 ≤ maxLineBytes ∧ 1 ≤ maxStreamBytes ∧ 1 ≤ maxEvents
    ∧ 1 ≤ maxDepth ∧ 1 ≤ maxNodes ∧ 1 ≤ maxStringBytes := by decide

-- =============================================================== decoding

/-- `_pairs` -/
def uniquePairs (seen : List (PyStr × PyJson)) :
    List (PyStr × PyJson) → Except Raised PyJson
  | [] => .ok (.dict seen)
  | (key, value) :: rest =>
      if key ∈ seen.map Prod.fst then .error (.protocol "duplicate_key" key)
      else uniquePairs (seen ++ [(key, value)]) rest

def strictHooks : PyJson.Hooks Raised where
  pairs := uniquePairs []
  constant := fun text =>
    .error (.protocol "nonfinite_number" (text.map codePoint))

/-- `strict_json_object`; `stack` is the nesting the interpreter has stack
for. -/
def strictJsonObject (stack : Nat) (raw : List UInt8) :
    Except Raised PyJson :=
  match raw.toByteArray.utf8Decode? with
  | none => protocolError "invalid_utf8"
  | some text =>
      match PyJson.loads strictHooks stack text.toList with
      | .error (.hook e) => .error e
      | .error .decode => protocolError "invalid_json"
      | .error .intDigits => .error .valueError
      | .error .recursion => .error .recursionError
      | .ok (.dict members) => .ok (.dict members)
      | .ok _ => protocolError "invalid_event"

-- =============================================================== the walk

/-- `casefold`, as far as it reaches ASCII: every other code point folds to
a text with one beyond ASCII, as it is itself. -/
def foldPoint (p : CodePoint) : PyStr :=
  if 65 ≤ p.val ∧ p.val ≤ 90 then [Fin.ofNat 0x110000 (p.val + 32)]
  else if p.val = 0x17F then py "s"
  else if p.val = 0x212A then py "k"
  else if p.val = 0xDF ∨ p.val = 0x1E9E then py "ss"
  else if p.val = 0xFB00 then py "ff"
  else if p.val = 0xFB01 then py "fi"
  else if p.val = 0xFB02 then py "fl"
  else if p.val = 0xFB03 then py "ffi"
  else if p.val = 0xFB04 then py "ffl"
  else if p.val = 0xFB05 ∨ p.val = 0xFB06 then py "st"
  else [p]

def casefold (s : PyStr) : PyStr := s.flatMap foldPoint

section Walk

variable (limits : ProtocolLimits)

/-- What `_walk` does first with any value: count it. -/
def walkNode (depth count : Nat) : Except Raised Nat :=
  if limits.maxNodes < count + 1 then protocolError "structure_too_large"
  else if limits.maxDepth < depth then protocolError "structure_too_deep"
  else .ok (count + 1)

def walkString (s : PyStr) (depth count : Nat) : Except Raised Nat := do
  let count ← walkNode limits depth count
  match s.encode? with
  | none => protocolError "invalid_utf8"
  | some encoded =>
      if limits.maxStringBytes < encoded.length then
        protocolError "string_too_large"
      else .ok count

mutual

/-- `_walk`; the answer is the count. -/
def walk (depth count : Nat) : PyJson → Except Raised Nat
  | .dict members => do
      let count ← walkNode limits depth count
      walkMembers (depth + 1) count members
  | .list items => do
      let count ← walkNode limits depth count
      walkItems (depth + 1) count items
  | .str s => walkString limits s depth count
  | .float f => do
      let count ← walkNode limits depth count
      if f.isFinite then .ok count else protocolError "nonfinite_number"
  | .none | .bool _ | .int _ => walkNode limits depth count

def walkItems (depth count : Nat) : List PyJson → Except Raised Nat
  | [] => .ok count
  | item :: items => do
      let count ← walk depth count item
      walkItems depth count items

def walkMembers (depth count : Nat) :
    List (PyStr × PyJson) → Except Raised Nat
  | [] => .ok count
  | (key, item) :: members =>
      if casefold key ∈ forbiddenKeys then
        .error (.protocol "forbidden_content" key)
      else do
        let count ← walkString limits key depth count
        let count ← walk depth count item
        walkMembers depth count members

end

end Walk

-- =============================================================== payloads

/-- `value[name]` -/
def member (value : PyJson) (name : String) : Except Raised PyJson :=
  match value.get? (py name) with
  | some v => .ok v
  | none => .error (.keyError (py name))

/-- `validate_note_type` -/
def validateNoteType (value : PyJson) : Except Raised PyStr :=
  match value with
  | .str s =>
      if s ∈ noteTypes then .ok s
      else .error (.protocol "forbidden_content" (py "note_type"))
  | _ => protocolError "payload_fields"

/-- A condition, and the `ProtocolError` of one that fails. -/
def require (condition : Bool) (code : String) : Except Raised Unit :=
  if condition then .ok () else protocolError code

theorem require_ok {condition : Bool} {code : String} {u : Unit} :
    require condition code = .ok u ↔ condition = true := by
  cases condition with
  | false =>
      constructor
      · intro h
        cases h
      · intro h
        cases h
  | true => exact iff_of_true rfl rfl

/-- The members of `names` are all of this kind. -/
def membersAre (kind : PyJson → Bool) (payload : PyJson)
    (names : List String) : Bool :=
  names.all fun name => ((payload.get? (py name)).map kind).getD false

/-- The checks of `adapter.ready`. -/
def validateReady (payload : PyJson) : Except Raised Unit := do
  let names := payload.keys
  require (!(names.all (fun name =>
      name = py "provider_id" ∨ name = py "capabilities")
    && !(py "provider_id" ∈ names ∧ py "capabilities" ∈ names)))
    "payload_fields"
  let texts := ["provider_id", "adapter_id", "adapter_version",
    "native_version", "model_id"]
  require (texts.all fun name =>
    ((payload.get? (py name)).map PyJson.isStr).getD true) "payload_fields"
  let capabilities ← member payload "capabilities"
  match capabilities.strings? with
  | none => protocolError "capability_list"
  | some listed =>
      require (listed = listed.dedup.insertionSort (· ≤ ·))
        "capability_list"

/-- The checks of priced usage. -/
def validateUsageV2 (sha256 : List UInt8 → Digest) (payload : PyJson) :
    Except Raised Unit :=
  let priced : Except PricingContractError Nat := do
    let table ← PriceTable.fromDict (PriceTable.field payload "price_table")
    let usage ← UsageTokens.checked
      (PriceTable.field payload "input_tokens")
      (PriceTable.field payload "output_tokens")
      (PriceTable.field payload "reasoning_tokens")
      (PriceTable.field payload "cached_input_tokens")
      (PriceTable.field payload "cache_write_tokens")
    calculateCostUsdMicros sha256 usage table
      (PriceTable.field payload "price_table_digest")
  match priced with
  | .error _ => protocolError "payload_fields"
  | .ok _ => require (membersAre PyJson.isStr payload ["provider_call_id"]
      && membersAre PyJson.isInt payload ["output_bytes"]) "payload_fields"

/-- `validate_event_payload` -/
def validateEventPayload (sha256 : List UInt8 → Digest)
    (limits : ProtocolLimits) (version : PyStr) (eventType : PyStr)
    (payload : PyJson) : Except Raised Unit := do
  require (version = protocolVersion ∨ version = protocolVersionV2)
    "unsupported_version"
  require (eventType ∈ knownEvents) "unknown_event"
  let _ ← walk limits 1 0 payload
  let usageV2 := eventType = py "usage.reported" ∧ version = protocolVersionV2
  match if usageV2 then some usageFieldsV2 else payloadFields eventType,
      payload with
  | some allowed, .dict members =>
      require ((members.map Prod.fst).all (· ∈ allowed)) "payload_fields"
      if eventType = py "adapter.ready" then validateReady payload
      else do
        require (allowed.all (· ∈ members.map Prod.fst)) "payload_fields"
        if eventType = py "run.started" ∨ eventType = py "stage.reported"
            ∨ eventType ∈ terminalEvents then
          require ((members.map Prod.snd).all PyJson.isStr)
            "payload_fields"
        else if eventType = py "note.proposed" then do
          let noteType ← member payload "note_type"
          let _ ← validateNoteType noteType
          let evidence ← member payload "evidence"
          require (membersAre PyJson.isStr payload ["body"]
            && evidence.strings?.isSome) "payload_fields"
        else if eventType = py "artifact.proposed" then
          require (membersAre PyJson.isStr payload
              ["artifact_class", "path", "sha256", "media_type"]
            && membersAre PyJson.isInt payload ["size_bytes"])
            "payload_fields"
        else if usageV2 then validateUsageV2 sha256 payload
        else
          require (membersAre PyJson.isStr payload
              ["provider_call_id", "price_table_digest"]
            && membersAre PyJson.isInt payload ["input_tokens",
              "output_tokens", "reasoning_tokens", "cost_usd_micros",
              "output_bytes"])
            "payload_fields"
  | _, _ => protocolError "payload_fields"

end Exolon.Factory
