/-
What an adapter's bytes can make the protocol raise.

A refusal is a `ProtocolError`, and its callers catch nothing else. Three
inputs raise another error: a number or a nesting that `json.loads` does
not take, a protocol version that has no hash, and an announcement that
names an adapter but no capabilities. `escapes_iff` says that these are all
of them, for a chunk, for a payload and for an event.

The walk over a value goes no deeper than `maxDepth`, for which there is
stack (the default is 12).
-/
import Exolon.Factory.EventStream

namespace Exolon.Factory

-- ========================================================= proper answers

/-- `isinstance(e, ProtocolError)` -/
def Raised.IsProtocol : Raised → Prop
  | .protocol _ _ => True
  | _ => False

/-- An answer, or a `ProtocolError`. -/
def Proper {α : Type} (x : Except Raised α) : Prop :=
  ∀ e, x = .error e → e.IsProtocol

section Proper

variable {α β : Type}

theorem proper_ok (a : α) : Proper (.ok a : Except Raised α) := by
  intro e h
  cases h

theorem proper_protocol (code : String) (detail : PyStr) :
    Proper (.error (.protocol code detail) : Except Raised α) := by
  intro e h
  cases h
  trivial

theorem not_proper {e : Raised} (he : ¬ e.IsProtocol) :
    ¬ Proper (.error e : Except Raised α) :=
  fun h => he (h e rfl)

/-- Both parts of a computation, the second where the first answers. -/
theorem proper_bind {x : Except Raised α} {f : α → Except Raised β} :
    Proper (x >>= f) ↔ Proper x ∧ ∀ a, x = .ok a → Proper (f a) := by
  cases x with
  | error e =>
      constructor
      · intro h
        refine ⟨fun e' he => ?_, fun a ha => ?_⟩
        · cases he
          exact h e rfl
        · cases ha
      · intro h e' he
        cases he
        exact h.1 e rfl
  | ok a =>
      constructor
      · intro h
        refine ⟨proper_ok a, fun b hb => ?_⟩
        cases hb
        exact h
      · intro h
        exact h.2 a rfl

theorem Proper.next {x : Except Raised α} {f : α → Except Raised β}
    (h : Proper (x >>= f)) {a : α} (hx : x = .ok a) : Proper (f a) :=
  (proper_bind.mp h).2 a hx

theorem proper_require (condition : Bool) (code : String) :
    Proper (require condition code) := by
  cases condition with
  | false => exact proper_protocol code []
  | true => exact proper_ok ()

/-- What is behind a check counts where the check is passed. -/
theorem proper_require_bind {condition : Bool} {code : String}
    {f : Unit → Except Raised β} :
    Proper (require condition code >>= f)
      ↔ (condition = true → Proper (f ())) := by
  rw [proper_bind, and_iff_right (proper_require condition code)]
  constructor
  · intro h hcondition
    exact h () (require_ok.mpr hcondition)
  · intro h u hu
    exact h (require_ok.mp hu)

end Proper

-- =============================================================== decoding

/-- Duplicates are refused as such. -/
theorem uniquePairs_error {members seen : List (PyStr × PyJson)}
    {e : Raised} (h : uniquePairs seen members = .error e) :
    e.IsProtocol := by
  induction members generalizing seen with
  | nil => cases h
  | cons pair members ih =>
      obtain ⟨key, value⟩ := pair
      rw [uniquePairs] at h
      by_cases hseen : key ∈ seen.map Prod.fst
      · rw [if_pos hseen] at h
        cases h
        trivial
      · rw [if_neg hseen] at h
        exact ih h

/-- A text that `json.loads` stops at without a decoding error: a number of
too many digits, or a nesting there is no stack for. -/
def Overloads (stack : Nat) (raw : List UInt8) : Prop :=
  ∃ text, raw.toByteArray.utf8Decode? = some text
    ∧ (PyJson.loads strictHooks stack text.toList = .error .intDigits
      ∨ PyJson.loads strictHooks stack text.toList = .error .recursion)

theorem strictJsonObject_proper {stack : Nat} {raw : List UInt8} :
    Proper (strictJsonObject stack raw) ↔ ¬ Overloads stack raw := by
  unfold strictJsonObject Overloads
  cases raw.toByteArray.utf8Decode? with
  | none =>
      refine iff_of_true (proper_protocol _ _) ?_
      intro h
      obtain ⟨text, htext, _⟩ := h
      cases htext
  | some text =>
      have hover : (∃ t, some text = some t
          ∧ (PyJson.loads strictHooks stack t.toList = .error .intDigits
            ∨ PyJson.loads strictHooks stack t.toList = .error .recursion))
          ↔ PyJson.loads strictHooks stack text.toList = .error .intDigits
            ∨ PyJson.loads strictHooks stack text.toList
              = .error .recursion := by
        constructor
        · intro h
          obtain ⟨t, ht, hstops⟩ := h
          cases ht
          exact hstops
        · intro h
          exact ⟨text, rfl, h⟩
      rw [hover]
      dsimp only
      cases hload : PyJson.loads strictHooks stack text.toList with
      | ok value =>
          refine iff_of_true ?_ (by simp)
          cases value with
          | dict members => exact proper_ok _
          | _ => exact proper_protocol _ _
      | error stopped =>
          cases stopped with
          | intDigits => exact iff_of_false (not_proper id) (by simp)
          | recursion => exact iff_of_false (not_proper id) (by simp)
          | decode => exact iff_of_true (proper_protocol _ _) (by simp)
          | hook e =>
              refine iff_of_true ?_ (by simp)
              intro e' he
              cases he
              refine PyJson.loads_hook (P := Raised.IsProtocol)
                uniquePairs_error ?_ hload
              intro text e he
              cases he
              trivial

-- =============================================================== the walk

section Walk

variable {limits : ProtocolLimits}

theorem walkNode_proper (depth count : Nat) :
    Proper (walkNode limits depth count) := by
  unfold walkNode
  split_ifs
  · exact proper_protocol _ _
  · exact proper_protocol _ _
  · exact proper_ok _

theorem walkString_proper (s : PyStr) (depth count : Nat) :
    Proper (walkString limits s depth count) := by
  unfold walkString
  rw [proper_bind]
  refine ⟨walkNode_proper depth count, fun n _ => ?_⟩
  cases s.encode? with
  | none => exact proper_protocol _ _
  | some encoded =>
      dsimp only
      split_ifs
      · exact proper_protocol _ _
      · exact proper_ok _

mutual

/-- The walk refuses with a `ProtocolError` only. -/
theorem walk_proper (depth count : Nat) (value : PyJson) :
    Proper (walk limits depth count value) := by
  cases value with
  | dict members =>
      rw [walk, proper_bind]
      exact ⟨walkNode_proper depth count,
        fun n _ => walkMembers_proper (depth + 1) n members⟩
  | list items =>
      rw [walk, proper_bind]
      exact ⟨walkNode_proper depth count,
        fun n _ => walkItems_proper (depth + 1) n items⟩
  | str s =>
      rw [walk]
      exact walkString_proper s depth count
  | float f =>
      rw [walk, proper_bind]
      refine ⟨walkNode_proper depth count, fun n _ => ?_⟩
      split_ifs
      · exact proper_ok _
      · exact proper_protocol _ _
  | none =>
      rw [walk]
      exact walkNode_proper depth count
  | bool b =>
      rw [walk]
      exact walkNode_proper depth count
  | int i =>
      rw [walk]
      exact walkNode_proper depth count

theorem walkItems_proper (depth count : Nat) (items : List PyJson) :
    Proper (walkItems limits depth count items) := by
  cases items with
  | nil =>
      rw [walkItems]
      exact proper_ok _
  | cons item items =>
      rw [walkItems, proper_bind]
      exact ⟨walk_proper depth count item,
        fun n _ => walkItems_proper depth n items⟩

theorem walkMembers_proper (depth count : Nat)
    (members : List (PyStr × PyJson)) :
    Proper (walkMembers limits depth count members) := by
  cases members with
  | nil =>
      rw [walkMembers]
      exact proper_ok _
  | cons pair members =>
      obtain ⟨key, item⟩ := pair
      rw [walkMembers]
      split_ifs
      · exact proper_protocol _ _
      · rw [proper_bind]
        refine ⟨walkString_proper key depth count, fun n _ => ?_⟩
        rw [proper_bind]
        exact ⟨walk_proper depth n item,
          fun m _ => walkMembers_proper depth m members⟩

end

end Walk

-- =============================================================== payloads

/-- The texts of an announcement. -/
def readyTexts : List PyStr :=
  ["provider_id", "adapter_id", "adapter_version", "native_version",
    "model_id"].map py

/-- An announcement of texts alone, one of which is more than the provider:
the check for both required members passes it, and the capabilities are not
there. -/
structure NamesNoCapabilities (payload : PyJson) : Prop where
  keys : ∀ key ∈ payload.keys, key ∈ readyTexts
  named : ∃ key ∈ payload.keys, key ≠ py "provider_id"
  texts : ∀ key ∈ readyTexts, ∀ value, payload.get? key = some value →
    value.isStr = true

/-- The payloads that a protocol version does not refuse properly. -/
structure EscapesPayload (limits : ProtocolLimits)
    (version eventType : PyStr) (payload : PyJson) : Prop where
  version : version = protocolVersion ∨ version = protocolVersionV2
  ready : eventType = py "adapter.ready"
  walked : ∃ n, walk limits 1 0 payload = .ok n
  names : NamesNoCapabilities payload

theorem get?_eq_none {value : PyJson} {key : PyStr} :
    value.get? key = none ↔ key ∉ value.keys := by
  cases value with
  | dict members =>
      show members.lookup key = none ↔ key ∉ members.map Prod.fst
      rw [List.lookup_eq_none_iff]
      simp only [List.mem_map, not_exists, not_and, bne_iff_ne,
        Prod.forall]
      constructor
      · intro h a b hmem heq
        exact h a b hmem heq.symm
      · intro h a b hmem heq
        exact h a b hmem heq.symm
  | _ => simp [PyJson.get?, PyJson.keys]

theorem member_proper {value : PyJson} {name : String} :
    Proper (member value name) ↔ py name ∈ value.keys := by
  have hkey : value.get? (py name) = none ↔ py name ∉ value.keys :=
    get?_eq_none
  unfold member
  cases hvalue : value.get? (py name) with
  | none =>
      refine iff_of_false (not_proper id) (hkey.mp hvalue)
  | some v =>
      refine iff_of_true (proper_ok v) ?_
      by_contra hnot
      rw [hkey.mpr hnot] at hvalue
      cases hvalue

theorem capabilities_proper (capabilities : PyJson) :
    Proper (match capabilities.strings? with
      | none => protocolError "capability_list"
      | some listed =>
          require (listed = listed.dedup.insertionSort (· ≤ ·))
            "capability_list" : Except Raised Unit) := by
  cases capabilities.strings? with
  | none => exact proper_protocol _ _
  | some listed => exact proper_require _ _

theorem textsAre_iff {payload : PyJson} {names : List String} :
    (names.all fun name =>
        ((payload.get? (py name)).map PyJson.isStr).getD true) = true
      ↔ ∀ key ∈ names.map py, ∀ value, payload.get? key = some value →
        value.isStr = true := by
  rw [List.all_eq_true, List.forall_mem_map]
  refine forall₂_congr fun name _ => ?_
  cases payload.get? (py name) with
  | none => simp
  | some value => simp

/-- An announcement of known members raises a `KeyError` or is checked. -/
theorem validateReady_proper {payload : PyJson}
    (hkeys : ∀ key ∈ payload.keys,
      key ∈ readyTexts ∨ key = py "capabilities") :
    Proper (validateReady payload) ↔ ¬ NamesNoCapabilities payload := by
  have hother : py "capabilities" ∉ readyTexts := by decide
  unfold validateReady
  dsimp only
  rw [proper_require_bind, proper_require_bind, textsAre_iff, proper_bind,
    member_proper, Bool.not_eq_true', Bool.and_eq_false_iff,
    Bool.not_eq_false', decide_eq_true_iff]
  constructor
  · intro h hnames
    have hcapabilities : py "capabilities" ∉ payload.keys :=
      fun hmem => hother (hnames.keys _ hmem)
    refine hcapabilities (h (.inl ?_) hnames.texts).1
    obtain ⟨key, hkey, hnamed⟩ := hnames.named
    rw [List.all_eq_false]
    refine ⟨key, hkey, ?_⟩
    rw [decide_eq_true_iff, not_or]
    refine ⟨hnamed, fun heq => hother ?_⟩
    rw [← heq]
    exact hnames.keys key hkey
  · intro hnot hboth htexts
    refine ⟨?_, fun capabilities _ => capabilities_proper capabilities⟩
    by_contra hcapabilities
    have hproper : ∀ key ∈ payload.keys, key ∈ readyTexts := by
      intro key hkey
      refine (hkeys key hkey).resolve_right fun heq => hcapabilities ?_
      rw [← heq]
      exact hkey
    refine hnot ⟨hproper, ?_, htexts⟩
    have hall := hboth.resolve_right fun hmem => hcapabilities hmem.2
    rw [List.all_eq_false] at hall
    obtain ⟨key, hkey, hnamed⟩ := hall
    rw [decide_eq_true_iff, not_or] at hnamed
    exact ⟨key, hkey, hnamed.1⟩

theorem validateNoteType_proper (value : PyJson) :
    Proper (validateNoteType value) := by
  unfold validateNoteType
  split
  · split_ifs
    · exact proper_ok _
    · exact proper_protocol _ _
  · exact proper_protocol _ _

theorem validateUsageV2_proper (sha256 : List UInt8 → Digest)
    (payload : PyJson) : Proper (validateUsageV2 sha256 payload) := by
  unfold validateUsageV2
  dsimp only
  split
  · exact proper_protocol _ _
  · exact proper_require _ _

/-- The members a note has. -/
theorem noteMembers {allowed : List PyStr} {version eventType : PyStr}
    (hnote : eventType = py "note.proposed")
    (hallowed : (if eventType = py "usage.reported"
        ∧ version = protocolVersionV2 then some usageFieldsV2
      else payloadFields eventType) = some allowed) :
    py "note_type" ∈ allowed ∧ py "evidence" ∈ allowed := by
  have husage : ¬ (eventType = py "usage.reported"
      ∧ version = protocolVersionV2) := by
    rw [hnote]
    exact fun h => absurd h.1 (by decide)
  have hfields : payloadFields eventType
      = some [py "note_type", py "body", py "evidence"] := by
    rw [hnote]
    decide
  rw [if_neg husage, hfields] at hallowed
  cases hallowed
  decide

/-- Every other payload is refused properly or passes. -/
theorem validateEventPayload_proper (sha256 : List UInt8 → Digest)
    (limits : ProtocolLimits) (version eventType : PyStr)
    (payload : PyJson) :
    Proper (validateEventPayload sha256 limits version eventType payload)
      ↔ ¬ EscapesPayload limits version eventType payload := by
  unfold validateEventPayload
  rw [proper_require_bind, proper_require_bind, proper_bind,
    decide_eq_true_iff, decide_eq_true_iff]
  dsimp only
  by_cases hready : eventType = py "adapter.ready"
  · have husage : ¬ (eventType = py "usage.reported"
        ∧ version = protocolVersionV2) := by
      rw [hready]
      exact fun h => absurd h.1 (by decide)
    have hfields : payloadFields eventType
        = some (readyTexts ++ [py "capabilities"]) := by
      rw [hready]
      decide
    have hknown : eventType ∈ knownEvents := by
      rw [hready]
      decide
    have hmember : ∀ key, key ∈ readyTexts ++ [py "capabilities"]
        ↔ key ∈ readyTexts ∨ key = py "capabilities" := by
      intro key
      rw [List.mem_append, List.mem_singleton]
    rw [if_neg husage, hfields]
    constructor
    · intro h hescapes
      obtain ⟨n, hwalk⟩ := hescapes.walked
      have hchecked := (h hescapes.version hknown).2 n hwalk
      cases payload with
      | dict members =>
          dsimp only at hchecked
          rw [proper_require_bind, if_pos hready, List.all_eq_true]
            at hchecked
          have hkeys : ∀ key ∈ (PyJson.dict members).keys,
              key ∈ readyTexts ∨ key = py "capabilities" :=
            fun key hkey => .inl (hescapes.names.keys key hkey)
          refine (validateReady_proper hkeys).mp (hchecked ?_)
            hescapes.names
          intro key hkey
          rw [decide_eq_true_iff, hmember]
          exact hkeys key hkey
      | _ =>
          obtain ⟨key, hkey, _⟩ := hescapes.names.named
          cases hkey
    · intro hnot hversion _
      refine ⟨walk_proper 1 0 payload, fun n hwalk => ?_⟩
      cases payload with
      | dict members =>
          dsimp only
          rw [proper_require_bind, if_pos hready, List.all_eq_true]
          intro hall
          refine (validateReady_proper fun key hkey => ?_).mpr
            fun hnames => hnot ⟨hversion, hready, ⟨n, hwalk⟩, hnames⟩
          have hallowed := hall key hkey
          rw [decide_eq_true_iff, hmember] at hallowed
          exact hallowed
      | _ => exact proper_protocol _ _
  · refine iff_of_true ?_ fun h => hready h.ready
    intro _ _
    refine ⟨walk_proper 1 0 payload, fun n _ => ?_⟩
    split
    case h_1 allowed members hallowed _ =>
        rw [proper_require_bind, if_neg hready, proper_require_bind,
          List.all_eq_true, List.all_eq_true]
        intro _ hall
        by_cases htexts : eventType = py "run.started"
            ∨ eventType = py "stage.reported" ∨ eventType ∈ terminalEvents
        · rw [if_pos htexts]
          exact proper_require _ _
        rw [if_neg htexts]
        by_cases hnote : eventType = py "note.proposed"
        · have hnames := noteMembers hnote hallowed
          have hkey : ∀ key ∈ allowed, key ∈ (PyJson.dict members).keys := by
            intro key hkey
            exact decide_eq_true_iff.mp (hall key hkey)
          rw [if_pos hnote, proper_bind]
          refine ⟨member_proper.mpr (hkey _ hnames.1), fun note _ => ?_⟩
          rw [proper_bind]
          refine ⟨validateNoteType_proper note, fun _ _ => ?_⟩
          rw [proper_bind]
          exact ⟨member_proper.mpr (hkey _ hnames.2),
            fun _ _ => proper_require _ _⟩
        · rw [if_neg hnote]
          split_ifs
          · exact proper_require _ _
          · exact validateUsageV2_proper _ _
          · exact proper_require _ _
    case h_2 => exact proper_protocol _ _

-- ================================================================= events

/-- `type(sequence) is int and sequence >= 1` -/
def positiveSequence : PyJson → Except Raised Nat
  | .int i =>
      if 1 ≤ i then .ok i.toNat else protocolError "invalid_sequence"
  | _ => protocolError "invalid_sequence"

/-- `CanonicalEvent.from_payload` -/
def CanonicalEvent.fromPayload (sha256 : List UInt8 → Digest)
    (limits : ProtocolLimits) (version taskId runId packetDigest : PyStr)
    (sequence : PyJson) (eventType : PyStr) (payload : PyJson) :
    Except Raised CanonicalEvent := do
  let number ← positiveSequence sequence
  validateEventPayload sha256 limits version eventType payload
  .ok {
    protocolVersion := version
    taskId := taskId
    runId := runId
    packetDigest := packetDigest
    sequence := number
    eventType := eventType
    payload := CanonicalEvent.freeze payload }

theorem positiveSequence_proper (sequence : PyJson) :
    Proper (positiveSequence sequence) := by
  unfold positiveSequence
  split
  · split_ifs
    · exact proper_ok _
    · exact proper_protocol _ _
  · exact proper_protocol _ _

/-- A sequence number is an integer from 1 on. -/
def IsSequence (sequence : PyJson) : Prop :=
  ∃ i : Int, sequence = .int i ∧ 1 ≤ i

theorem positiveSequence_ok {sequence : PyJson} :
    (∃ number, positiveSequence sequence = .ok number)
      ↔ IsSequence sequence := by
  unfold positiveSequence IsSequence
  cases sequence with
  | int i =>
      dsimp only
      by_cases hpos : 1 ≤ i
      · rw [if_pos hpos]
        exact iff_of_true ⟨_, rfl⟩ ⟨i, rfl, hpos⟩
      · rw [if_neg hpos]
        refine iff_of_false ?_ ?_
        · intro h
          obtain ⟨number, h⟩ := h
          cases h
        · intro h
          obtain ⟨j, hj, hge⟩ := h
          cases hj
          exact hpos hge
  | _ => simp [protocolError]

/-- An event raises what its payload does. -/
theorem fromPayload_proper (sha256 : List UInt8 → Digest)
    (limits : ProtocolLimits) (version taskId runId packetDigest : PyStr)
    (sequence : PyJson) (eventType : PyStr) (payload : PyJson) :
    Proper (CanonicalEvent.fromPayload sha256 limits version taskId runId
        packetDigest sequence eventType payload)
      ↔ ¬ (IsSequence sequence
        ∧ EscapesPayload limits version eventType payload) := by
  unfold CanonicalEvent.fromPayload
  rw [proper_bind, and_iff_right (positiveSequence_proper sequence),
    ← positiveSequence_ok, not_and, forall_exists_index]
  refine forall₂_congr fun number _ => ?_
  rw [proper_bind, validateEventPayload_proper]
  exact and_iff_left fun _ _ => proper_ok _

/-- The parser makes its events so. -/
theorem EventStreamParser.fromPayload_eq (env : Runtime)
    (p : EventStreamParser) (checked : CheckedLine) :
    p.fromPayload env checked
      = CanonicalEvent.fromPayload env.sha256 p.limits
        checked.protocolVersion p.taskId p.runId p.packetDigest
        (.int checked.sequence) checked.eventType checked.payload := by
  unfold EventStreamParser.fromPayload CanonicalEvent.fromPayload
    positiveSequence
  dsimp only
  by_cases hpos : 1 ≤ checked.sequence
  · rw [if_pos (by omega), Int.toNat_natCast]
    unfold require
    rw [decide_eq_true hpos]
    rfl
  · rw [if_neg (by omega)]
    unfold require
    rw [decide_eq_false hpos]
    rfl

-- ================================================================= lines

namespace EventStreamParser

/-- `value` is the line, and has the members of an event. -/
structure Reads (env : Runtime) (p : EventStreamParser) (raw : List UInt8)
    (value : PyJson) : Prop where
  loads : strictJsonObject env.stack raw = .ok value
  walked : ∃ n, walk p.limits 1 0 value = .ok n
  known : ∀ key ∈ value.keys, key ∈ eventFields
  fields : ∀ key ∈ eventFields, key ∈ value.keys

/-- A list or an object: a set asks for the hash it does not have. -/
def Unhashable : PyJson → Prop
  | .list _ | .dict _ => True
  | _ => False

/-- The lines a running parser does not refuse properly. -/
inductive EscapesLine (env : Runtime) (p : EventStreamParser)
    (s : ParserState) (raw : List UInt8) : Prop where
  | load (h : Overloads env.stack raw)
  | version {value found : PyJson} (h : Reads env p raw value)
      (hversion : value.get? (py "protocol_version") = some found)
      (hfound : Unhashable found)
  | payload {value payload : PyJson} {version eventType : PyStr}
      (h : Reads env p raw value)
      (hversion : value.get? (py "protocol_version") = some (.str version))
      (htask : value.get? (py "task_id") = some (.str p.taskId))
      (hrun : value.get? (py "run_id") = some (.str p.runId))
      (hpacket : value.get? (py "packet_digest")
        = some (.str p.packetDigest))
      (hsequence : value.get? (py "sequence")
        = some (.int (s.events.length + 1 : Nat)))
      (htype : value.get? (py "event_type") = some (.str eventType))
      (hpayload : value.get? (py "payload") = some payload)
      (hescapes : EscapesPayload p.limits version eventType payload)

variable {env : Runtime} {p : EventStreamParser}

theorem member_bind_proper {α : Type} {value : PyJson} {name : String}
    {f : PyJson → Except Raised α} :
    Proper ((member value name).bind f)
      ↔ py name ∈ value.keys
        ∧ ∀ v, value.get? (py name) = some v → Proper (f v) := by
  refine proper_bind.trans (and_congr member_proper
    (forall_congr' fun v => ?_))
  rw [member_ok]

theorem supportedVersion_proper {value : PyJson} :
    Proper (supportedVersion value) ↔ ¬ Unhashable value := by
  cases value with
  | str s =>
      refine iff_of_true ?_ id
      unfold supportedVersion
      dsimp only
      split_ifs
      · exact proper_ok _
      · exact proper_protocol _ _
  | list items => exact iff_of_false (not_proper id) (not_not_intro trivial)
  | dict members =>
      exact iff_of_false (not_proper id) (not_not_intro trivial)
  | _ => exact iff_of_true (proper_protocol _ _) id

theorem expectedSequence_proper (expected : Nat) (value : PyJson) :
    Proper (expectedSequence expected value) := by
  unfold expectedSequence
  split
  · split_ifs
    · exact proper_ok _
    · exact proper_protocol _ _
  · exact proper_protocol _ _

theorem knownEvent_proper (value : PyJson) : Proper (knownEvent value) := by
  unfold knownEvent
  split
  · split_ifs
    · exact proper_ok _
    · exact proper_protocol _ _
  · exact proper_protocol _ _

theorem declared_proper (eventType : PyStr) :
    Proper (p.declared eventType) := by
  unfold declared
  split
  · exact proper_ok _
  · split_ifs
    · exact proper_ok _
    · exact proper_protocol _ _

/-- The capabilities of an announcement that passed are texts. -/
theorem validated_capabilities {sha256 : List UInt8 → Digest}
    {limits : ProtocolLimits} {version : PyStr} {payload : PyJson}
    (h : validateEventPayload sha256 limits version (py "adapter.ready")
      payload = .ok ()) :
    ∃ listed, (payload.get? (py "capabilities")).bind PyJson.strings?
      = some listed := by
  unfold validateEventPayload at h
  obtain ⟨_, _, h⟩ := bind_ok.mp h
  obtain ⟨_, _, h⟩ := bind_ok.mp h
  obtain ⟨_, _, h⟩ := bind_ok.mp h
  dsimp only at h
  split at h
  · obtain ⟨_, _, h⟩ := bind_ok.mp h
    rw [if_pos rfl] at h
    unfold validateReady at h
    obtain ⟨_, _, h⟩ := bind_ok.mp h
    obtain ⟨_, _, h⟩ := bind_ok.mp h
    obtain ⟨capabilities, hmember, h⟩ := bind_ok.mp h
    rw [member_ok.mp hmember, Option.bind_some]
    cases hlisted : capabilities.strings? with
    | none =>
        rw [hlisted] at h
        cases h
    | some listed => exact ⟨listed, rfl⟩
  · cases h

theorem announced_proper {version eventType : PyStr} {payload : PyJson}
    (h : validateEventPayload env.sha256 p.limits version eventType payload
      = .ok ()) : Proper (p.announced eventType payload) := by
  unfold announced
  by_cases hready : eventType = py "adapter.ready"
  · rw [hready] at h
    obtain ⟨listed, hlisted⟩ := validated_capabilities h
    rw [if_pos hready, hlisted]
    exact proper_require _ _
  · rw [if_neg hready]
    exact proper_ok _

theorem fields_iff {value : PyJson} :
    (value.keys.all (· ∈ eventFields)
        && eventFields.all (· ∈ value.keys)) = true
      ↔ (∀ key ∈ value.keys, key ∈ eventFields)
        ∧ ∀ key ∈ eventFields, key ∈ value.keys := by
  simp only [Bool.and_eq_true, List.all_eq_true, decide_eq_true_iff]

/-- The checks of a line, one behind the other. -/
theorem checkLine_proper {s : ParserState} {raw : List UInt8} :
    Proper (p.checkLine env s raw)
      ↔ (s.events.length < p.limits.maxEvents → s.terminal = false →
        ¬ EscapesLine env p s raw) := by
  unfold checkLine
  rw [proper_require_bind, proper_require_bind, decide_eq_true_iff,
    Bool.not_eq_true']
  refine imp_congr_right fun _ => imp_congr_right fun _ => ?_
  rw [proper_bind, strictJsonObject_proper]
  constructor
  · intro h hescapes
    cases hescapes with
    | load hload => exact h.1 hload
    | @version value found hreads hversion hfound =>
        obtain ⟨n, hwalk⟩ := hreads.walked
        have hline := ((h.2 value hreads.loads).next hwalk).next
          (a := ()) (require_ok.mpr (fields_iff.mpr ⟨hreads.known, hreads.fields⟩))
        exact supportedVersion_proper.mp ((member_bind_proper.mp
          (proper_bind.mp hline).1).2 found hversion) hfound
    | @payload value payload version eventType hreads hversion htask hrun
        hpacket hsequence htype hpayload hescapes =>
        obtain ⟨n, hwalk⟩ := hreads.walked
        have hline := ((h.2 value hreads.loads).next hwalk).next
          (a := ()) (require_ok.mpr (fields_iff.mpr ⟨hreads.known, hreads.fields⟩))
        have hsupported : supportedVersion (.str version) = .ok version := by
          unfold supportedVersion
          exact if_pos hescapes.version
        have hline := (((hline.next (bind_ok.mpr
          ⟨_, member_ok.mpr hversion, hsupported⟩)).next
            (member_ok.mpr htask)).next (member_ok.mpr hrun)).next
              (member_ok.mpr hpacket)
        have hline := hline.next (a := ())
          (require_ok.mpr (by simp [isText]))
        have hexpected : expectedSequence (s.events.length + 1)
            (.int (s.events.length + 1 : Nat))
              = .ok (s.events.length + 1) := by
          unfold expectedSequence
          exact if_pos rfl
        have hline := hline.next (bind_ok.mpr
          ⟨_, member_ok.mpr hsequence, hexpected⟩)
        have hknown : knownEvent (.str eventType) = .ok eventType := by
          rw [hescapes.ready]
          decide
        have hdeclared : p.declared eventType = .ok () := by
          have hnone : requiredCapability eventType = none := by
            rw [hescapes.ready]
            decide
          unfold declared
          rw [hnone]
        have hline := ((hline.next (bind_ok.mpr
          ⟨_, member_ok.mpr htype, hknown⟩)).next hdeclared).next
            (member_ok.mpr hpayload)
        exact (validateEventPayload_proper _ _ _ _ _).mp
          (proper_bind.mp hline).1 hescapes
  · intro hnot
    refine ⟨fun hload => hnot (.load hload), fun value hloads => ?_⟩
    rw [proper_bind]
    refine ⟨walk_proper 1 0 value, fun n hwalk => ?_⟩
    rw [proper_require_bind, fields_iff]
    intro hfields
    have hreads : Reads env p raw value :=
      ⟨hloads, ⟨n, hwalk⟩, hfields.1, hfields.2⟩
    have hmember : ∀ {name : String}, py name ∈ eventFields →
        Proper (member value name) :=
      fun hname => member_proper.mpr (hfields.2 _ hname)
    rw [proper_bind, member_bind_proper]
    refine ⟨⟨hfields.2 _ (by decide), fun found hversion =>
      supportedVersion_proper.mpr fun hfound =>
        hnot (.version hreads hversion hfound)⟩, fun version hversion => ?_⟩
    obtain ⟨found, hfound, hversion⟩ := bind_ok.mp hversion
    rw [supportedVersion_ok hversion] at hfound
    rw [proper_bind]
    refine ⟨hmember (by decide), fun taskId htask => ?_⟩
    rw [proper_bind]
    refine ⟨hmember (by decide), fun runId hrun => ?_⟩
    rw [proper_bind]
    refine ⟨hmember (by decide), fun packetDigest hpacket => ?_⟩
    rw [proper_require_bind, Bool.and_eq_true, Bool.and_eq_true, isText_iff,
      isText_iff, isText_iff]
    intro hidentity
    obtain ⟨⟨htaskId, hrunId⟩, hdigest⟩ := hidentity
    rw [htaskId] at htask
    rw [hrunId] at hrun
    rw [hdigest] at hpacket
    rw [proper_bind, member_bind_proper]
    refine ⟨⟨hfields.2 _ (by decide), fun v _ =>
      expectedSequence_proper _ v⟩, fun sequence hsequence => ?_⟩
    obtain ⟨number, hnumber, hsequence⟩ := bind_ok.mp hsequence
    obtain ⟨hexpected, hint⟩ := expectedSequence_ok hsequence
    rw [hint, hexpected] at hnumber
    rw [proper_bind, member_bind_proper]
    refine ⟨⟨hfields.2 _ (by decide), fun v _ => knownEvent_proper v⟩,
      fun eventType htype => ?_⟩
    obtain ⟨rawType, hrawType, htype⟩ := bind_ok.mp htype
    rw [knownEvent_ok htype] at hrawType
    rw [proper_bind]
    refine ⟨declared_proper eventType, fun _ _ => ?_⟩
    rw [proper_bind]
    refine ⟨hmember (by decide), fun payload hpayload => ?_⟩
    rw [proper_bind, validateEventPayload_proper]
    refine ⟨fun hescapes => hnot (.payload hreads (member_ok.mp hfound)
      (member_ok.mp htask) (member_ok.mp hrun) (member_ok.mp hpacket)
      (member_ok.mp hnumber) (member_ok.mp hrawType)
      (member_ok.mp hpayload) hescapes), fun _ hvalid => ?_⟩
    rw [proper_bind]
    exact ⟨announced_proper hvalid, fun _ _ => proper_ok _⟩

/-- The lines that a parser does not refuse properly: within the limits,
and before the end of the run. -/
structure LineEscapes (env : Runtime) (p : EventStreamParser)
    (s : ParserState) (raw : List UInt8) : Prop where
  notEmpty : raw ≠ []
  length : raw.length ≤ p.limits.maxLineBytes
  events : s.events.length < p.limits.maxEvents
  running : s.terminal = false
  escapes : EscapesLine env p s raw

theorem parseLine_escapes {s : ParserState} {raw : List UInt8} :
    (∃ e s', p.parseLine env s raw = (.error e, s') ∧ ¬ e.IsProtocol)
      ↔ LineEscapes env p s raw := by
  unfold parseLine
  by_cases hlong : p.limits.maxLineBytes < raw.length
  · rw [if_pos hlong]
    refine iff_of_false ?_ fun h => Nat.not_lt_of_le h.length hlong
    intro h
    obtain ⟨e, s', heq, he⟩ := h
    cases heq
    exact he trivial
  rw [if_neg hlong]
  by_cases hempty : raw = []
  · rw [if_pos hempty]
    refine iff_of_false ?_ fun h => h.notEmpty hempty
    intro h
    obtain ⟨e, s', heq, he⟩ := h
    cases heq
    exact he trivial
  rw [if_neg hempty]
  unfold parseRaw
  cases hcheck : p.checkLine env s raw with
  | error e =>
      constructor
      · intro h
        obtain ⟨e', s', heq, he⟩ := h
        cases heq
        have hnot : ¬ Proper (p.checkLine env s raw) := by
          rw [hcheck]
          exact not_proper he
        rw [checkLine_proper] at hnot
        push Not at hnot
        exact ⟨hempty, Nat.le_of_not_lt hlong, hnot.1, hnot.2.1, hnot.2.2⟩
      · intro h
        refine ⟨e, s, rfl, fun he => ?_⟩
        have hproper : Proper (p.checkLine env s raw) := by
          rw [hcheck]
          intro e' he'
          cases he'
          exact he
        exact checkLine_proper.mp hproper h.events h.running h.escapes
  | ok checked =>
      obtain ⟨_, _, event, hevent, _⟩ := checkLine_ok hcheck
      have hproper : Proper (p.checkLine env s raw) := by
        rw [hcheck]
        exact proper_ok _
      refine iff_of_false ?_ fun h =>
        checkLine_proper.mp hproper h.events h.running h.escapes
      intro h
      obtain ⟨e, s', heq, _⟩ := h
      dsimp only at heq
      rw [hevent] at heq
      cases heq

/-- A chunk that completes such a line, behind lines that are accepted. -/
def FeedEscapes (env : Runtime) (p : EventStreamParser)
    (r : Fed ParserState) (chunk : List UInt8) : Prop :=
  r.received + chunk.length ≤ p.limits.maxStreamBytes
    ∧ ∃ lines t raw rest,
      r.buffer ++ chunk
        = LineReader.joinLines lines ++ (raw ++ newline :: rest)
      ∧ newline ∉ raw ∧ (p.reader env).Lines r.state lines t
      ∧ LineEscapes env p t raw

theorem feed_proper (r : Fed ParserState) (chunk : List UInt8) :
    Proper (p.feed env r chunk).1 ↔ ¬ FeedEscapes env p r chunk := by
  have hraises := LineReader.feed_raises_iff (p.reader env)
    (P := fun e => ¬ e.IsProtocol)
    (not_not_intro trivial) (not_not_intro trivial) r chunk
  have hfeed : Proper (p.feed env r chunk).1
      ↔ ¬ ∃ e r', (p.reader env).feed r chunk = (.error e, r')
        ∧ ¬ e.IsProtocol := by
    unfold feed
    cases hchunk : (p.reader env).feed r chunk with
    | mk answer r' =>
        cases answer with
        | ok u =>
            refine iff_of_true (proper_ok _) ?_
            intro h
            obtain ⟨e, r'', heq, _⟩ := h
            cases heq
        | error e =>
            constructor
            · intro h hother
              obtain ⟨e', r'', heq, he⟩ := hother
              cases heq
              exact he (h e rfl)
            · intro h e' he'
              cases he'
              by_contra he
              exact h ⟨e, r', rfl, he⟩
  rw [hfeed, hraises]
  refine not_congr (and_congr_right fun _ => ?_)
  constructor
  · intro h
    obtain ⟨lines, t, raw, rest, e, s', hlines, hline, he, hraw, hbytes⟩ := h
    exact ⟨lines, t, raw, rest, hbytes, hraw, hlines,
      parseLine_escapes.mp ⟨e, s', hline, he⟩⟩
  · intro h
    obtain ⟨lines, t, raw, rest, hbytes, hraw, hlines, hescapes⟩ := h
    obtain ⟨e, s', hline, he⟩ := parseLine_escapes.mpr hescapes
    exact ⟨lines, t, raw, rest, e, s', hlines, hline, he, hraw, hbytes⟩

/-- A chunk, a payload and an event are answered or refused properly,
unless they are of these kinds. -/
theorem escapes_iff (env : Runtime) (p : EventStreamParser)
    (r : Fed ParserState) (chunk : List UInt8) (limits : ProtocolLimits)
    (version taskId runId packetDigest : PyStr) (sequence : PyJson)
    (eventType : PyStr) (payload : PyJson) :
    (Proper (p.feed env r chunk).1 ↔ ¬ FeedEscapes env p r chunk)
      ∧ (Proper (validateEventPayload env.sha256 limits version eventType
          payload) ↔ ¬ EscapesPayload limits version eventType payload)
      ∧ (Proper (CanonicalEvent.fromPayload env.sha256 limits version taskId
          runId packetDigest sequence eventType payload)
        ↔ ¬ (IsSequence sequence
          ∧ EscapesPayload limits version eventType payload)) :=
  ⟨feed_proper r chunk, validateEventPayload_proper _ _ _ _ _,
    fromPayload_proper _ _ _ _ _ _ _ _ _⟩

/-- An event of the closing run, with a version that is a list. -/
def listedLine : List UInt8 := utf8 (
  "\x7b\"protocol_version\":[],\"task_id\":\"t\",".toList
  ++ "\"run_id\":\"r\",\"packet_digest\":\"d\",".toList
  ++ "\"sequence\":1,\"event_type\":\"run.started\",".toList
  ++ "\"payload\":\x7b\"stage\":\"s\"\x7d\x7d\n".toList)

/-- An announcement of an adapter and nothing else. -/
def namedAdapter : PyJson := .dict [(py "adapter_id", .str (py "a"))]

/-- The line raises a `TypeError`, and the announcement a `KeyError`. -/
theorem listed_escapes :
    (¬ ∀ chunk, Proper (closingParser.feed plainRuntime fresh chunk).1)
      ∧ ¬ ∀ payload, Proper (validateEventPayload plainRuntime.sha256 {}
        protocolVersion (py "adapter.ready") payload) := by
  constructor
  · intro hall
    have htype : (match (closingParser.feed plainRuntime fresh
        listedLine).1 with
      | .error e => decide (e = .typeError)
      | .ok _ => false) = true := by decide +kernel
    have hproper := hall listedLine
    cases hanswer : (closingParser.feed plainRuntime fresh listedLine).1 with
    | ok events =>
        rw [hanswer] at htype
        cases htype
    | error e =>
        rw [hanswer, decide_eq_true_iff] at htype
        have he := hproper e hanswer
        rw [htype] at he
        exact he
  · intro hall
    have hkey : validateEventPayload plainRuntime.sha256 {} protocolVersion
        (py "adapter.ready") namedAdapter
          = .error (.keyError (py "capabilities")) := by decide +kernel
    exact hall namedAdapter _ hkey

end EventStreamParser

end Exolon.Factory
