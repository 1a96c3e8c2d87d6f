/-
A proposal's key, made twice.

The broker makes a key of the payload as it came, with what it adds; a
reader makes it again of the typed proposal. Both are digests of objects
with the same members in another order, so they are one text
(`propose_key`, `terminal_key`), and two accepted proposals that share a key
are one proposal.
-/
import Exolon.Broker.Broker

namespace Exolon.Broker

open Transaction (bind_eq_ok)
open Factory (PriceTable UsageTokens canonicalJson nonnegativeBigint
  calculateCostUsdMicros)
open Semantic (Runtime ArtifactProposal TerminalProposal)

-- ================================================================ members

/-- Members that are found under the names of others are those others. -/
theorem perm_of_lookup {members members' : List (Text × Json)}
    (hnodup : (members.map Prod.fst).Nodup)
    (hnodup' : (members'.map Prod.fst).Nodup)
    (hnames : ∀ name ∈ members.map Prod.fst, name ∈ members'.map Prod.fst)
    (hlookup : ∀ member ∈ members',
      members.lookup member.1 = some member.2) :
    members.Perm members' := by
  refine (List.perm_ext_iff_of_nodup hnodup.of_map hnodup'.of_map).mpr ?_
  intro member
  constructor
  · intro hmem
    obtain ⟨member', hmem', hname⟩ := List.mem_map.mp
      (hnames member.1 (List.mem_map_of_mem hmem))
    have hvalue := Json.lookup_of_mem hnodup hmem
    rw [← hname, hlookup member' hmem', Option.some.injEq] at hvalue
    rw [← Prod.ext hname hvalue]
    exact hmem'
  · intro hmem
    exact Json.mem_of_lookup (hlookup member hmem)

/-- The object of a key has its body in order. -/
theorem canonicalJson_keyMembers (h : Header) (eventType : Text)
    {body body' : Json} (hbody : body.reorder id = body'.reorder id) :
    canonicalJson (.obj (keyMembers h eventType body))
      = canonicalJson (.obj (keyMembers h eventType body')) := by
  unfold canonicalJson
  simp only [keyMembers, Json.reorder, Json.reorderMembers, hbody]

-- ================================================================== links

theorem reject_ok {condition : Bool} {code : String} {detail : Text}
    {u : Unit} :
    reject condition code detail = .ok u ↔ condition = false := by
  unfold reject
  cases condition <;> simp

theorem orRaise_ok {α : Type} {code : String} {found : Option α} {a : α} :
    orRaise code found = .ok a ↔ found = some a := by
  cases found <;> simp [orRaise]

theorem text?_eq {v : Json} {t : Text} (h : text? v = some t) :
    v = .str t := by
  cases v with
  | str s => exact congrArg Json.str (Option.some.inj h)
  | _ => cases h

theorem int?_eq {v : Json} {z : Int} (h : int? v = some z) : v = .int z := by
  unfold int? at h
  split at h
  · exact congrArg Json.int (Option.some.inj h)
  · cases h

section

variable {rt : BrokerRuntime} {event : CanonicalEvent}
  {context : ProposalContext} {name code : String}

theorem field_of_textField {test : Text → Bool} {t : Text}
    (h : textField event name test code = .ok t) :
    event.field name = .str t := by
  unfold textField at h
  rw [orRaise_ok, Option.filter_eq_some_iff] at h
  exact text?_eq h.1

theorem field_of_intField {test : Int → Bool} {z : Int}
    (h : intField event name test code = .ok z) :
    event.field name = .int z := by
  unfold intField at h
  rw [orRaise_ok, Option.filter_eq_some_iff] at h
  exact int?_eq h.1

theorem eq_of_allowedPath {value : Json} {path : Text}
    (h : allowedPath rt context value code = .ok path) :
    value = .str path := by
  unfold allowedPath at h
  obtain ⟨t, ht, h⟩ := bind_eq_ok.mp h
  obtain ⟨_, _, h⟩ := bind_eq_ok.mp h
  obtain ⟨_, _, h⟩ := bind_eq_ok.mp h
  obtain ⟨_, _, h⟩ := bind_eq_ok.mp h
  rw [← Except.ok.inj h]
  exact text?_eq (orRaise_ok.mp ht)

/-- A name that a payload has to have is found in it. -/
theorem lookup_field {names : List Text} (h : event.hasFields names = true)
    (hname : name.toList ∈ names) :
    event.payload.lookup name.toList = some (event.field name) := by
  unfold CanonicalEvent.hasFields at h
  rw [Bool.and_eq_true, List.all_eq_true, List.all_eq_true] at h
  have hmem := h.2 name.toList hname
  rw [List.contains_iff_mem] at hmem
  obtain ⟨member, hmember, heq⟩ := List.mem_map.mp hmem
  have hlookup := Json.lookup_of_mem event.payload_nodup
    (show (member.1, member.2) ∈ event.payload from hmember)
  rw [heq] at hlookup
  unfold CanonicalEvent.field
  rw [hlookup]
  rfl

theorem found {names : List Text} (h : event.hasFields names = true)
    (hname : name.toList ∈ names) {v : Json} (hv : event.field name = v) :
    event.payload.lookup name.toList = some v := by
  rw [← hv]
  exact lookup_field h hname

/-- A payload with the names of a list has its members, if they are found. -/
theorem payload_perm {members : List (Text × Json)}
    (hfields : event.hasFields (members.map Prod.fst) = true)
    (hnodup : (members.map Prod.fst).Nodup)
    (hlookup : ∀ member ∈ members,
      event.payload.lookup member.1 = some member.2) :
    event.payload.Perm members := by
  refine perm_of_lookup event.payload_nodup hnodup ?_ hlookup
  intro name hname
  unfold CanonicalEvent.hasFields at hfields
  rw [Bool.and_eq_true, List.all_eq_true] at hfields
  exact List.contains_iff_mem.mp (hfields.1 name hname)

/-- A key is a digest of its body in any order. -/
theorem key_perm {body body' : List (Text × Json)} (h : body.Perm body')
    (hnodup : (body'.map Prod.fst).Nodup) :
    key rt event context body = key rt event context body' := by
  unfold key Runtime.canonicalDigest
  rw [canonicalJson_keyMembers _ _ (Json.reorder_perm Function.injective_id h
    ((h.map Prod.fst).nodup_iff.mpr hnodup))]

-- ============================================================== the kinds

theorem note_key {p : NoteProposal} (h : note rt event context = .ok p)
    (htype : event.eventType = "note.proposed".toList) :
    (Proposal.note p).proposalIdempotencyKey rt.toRuntime
      = p.idempotencyKey := by
  unfold note at h
  simp only [bind_eq_ok] at h
  obtain ⟨_, _, _, _, noteType, _, _, _, _, _, body, _, redacted, _,
    evidence, _, safeEvidence, _, hp⟩ := h
  cases Except.ok.inj hp
  unfold key header
  rw [htype]
  rfl

theorem artifact_key {p : ArtifactProposal} {attestation : Option Text}
    (h : artifact rt event context attestation = .ok p)
    (htype : event.eventType = "artifact.proposed".toList) :
    (Proposal.artifact p).proposalIdempotencyKey rt.toRuntime
      = p.idempotencyKey := by
  unfold artifact at h
  simp only [bind_eq_ok, reject_ok, Bool.not_eq_false'] at h
  obtain ⟨_, _, _, hfields, artifactClass, hclass, path, hpath, digest,
    hdigest, size, hsize, mediaType, hmedia, attested, _, hp⟩ := h
  cases Except.ok.inj hp
  have hpayload : event.payload.Perm [
      ("artifact_class".toList, .str artifactClass),
      ("path".toList, .str path),
      ("sha256".toList, .str digest),
      ("size_bytes".toList, .int size),
      ("media_type".toList, .str mediaType)] := by
    refine payload_perm hfields (by simp only [List.map]; decide) ?_
    simp only [List.forall_mem_cons]
    exact ⟨found hfields (by decide) (field_of_textField hclass),
      found hfields (by decide) (eq_of_allowedPath hpath),
      found hfields (by decide) (field_of_textField hdigest),
      found hfields (by decide) (field_of_intField hsize),
      found hfields (by decide) (field_of_textField hmedia),
      List.forall_mem_nil _⟩
  have hbody := hpayload.append_right [
    ("author_role".toList, Json.str context.role),
    ("artifact_attestation_digest".toList, Json.str attested)]
  dsimp only
  rw [key_perm hbody ArtifactProposal.nodup_body]
  unfold key header
  rw [htype]
  rfl

theorem usageV1_key {p : UsageProposal}
    (h : usageV1 rt event context = .ok p)
    (htype : event.eventType = "usage.reported".toList) :
    (Proposal.usage p).proposalIdempotencyKey rt.toRuntime
      = p.idempotencyKey := by
  unfold usageV1 at h
  simp only [bind_eq_ok, reject_ok, Bool.not_eq_false'] at h
  obtain ⟨_, hfields, table, htable, input, hinput, output, houtput,
    reasoning, hreasoning, cost, hcost, bytes, hbytes, _, _, call, hcall, _,
    _, hp⟩ := h
  cases Except.ok.inj hp
  have hpayload : event.payload.Perm [
      ("provider_call_id".toList, .str call),
      ("price_table_digest".toList, .str table),
      ("input_tokens".toList, .int input),
      ("output_tokens".toList, .int output),
      ("reasoning_tokens".toList, .int reasoning),
      ("cost_usd_micros".toList, .int cost),
      ("output_bytes".toList, .int bytes)] := by
    refine payload_perm hfields (by simp only [List.map]; decide) ?_
    simp only [List.forall_mem_cons]
    exact ⟨found hfields (by decide) (field_of_textField hcall),
      found hfields (by decide) (field_of_textField htable),
      found hfields (by decide) (field_of_intField hinput),
      found hfields (by decide) (field_of_intField houtput),
      found hfields (by decide) (field_of_intField hreasoning),
      found hfields (by decide) (field_of_intField hcost),
      found hfields (by decide) (field_of_intField hbytes),
      List.forall_mem_nil _⟩
  have hbody := hpayload.append_right [
    ("author_role".toList, Json.str context.role)]
  dsimp only
  rw [key_perm hbody UsageProposal.nodup_facts]
  unfold key header
  rw [htype]
  rfl

-- ====================================================== usage, version two

theorem priced_ok {α : Type} {x : Except Factory.PricingContractError α}
    {a : α} : priced x = .ok a ↔ x = .ok a := by
  cases x <;> simp [priced]

/-- A value that is priced as a count is that count. -/
theorem eq_of_nonnegativeBigint {v : Json} {name : String}
    {n : { n : Nat // n ≤ Factory.maxSignedBigint }}
    (h : nonnegativeBigint (toPy v) name = .ok n) : v = .int n.val := by
  cases v with
  | num mantissa exponent =>
      by_cases hexp : exponent = 0
      · subst hexp
        cases mantissa with
        | ofNat m =>
            simp only [toPy, if_pos, nonnegativeBigint] at h
            split at h
            · rw [← Except.ok.inj h]
              rfl
            · cases h
        | negSucc m => cases h
      · simp only [toPy, if_neg hexp, nonnegativeBigint] at h
        cases h
  | null => cases h
  | bool b => cases h
  | str s => cases h
  | arr items => cases h
  | obj members => cases h

/-- Usage is read of five counts. -/
theorem tokens_of_checked {input output reasoning cachedInput cacheWrite : Json}
    {usage : UsageTokens}
    (h : UsageTokens.checked (toPy input) (toPy output) (toPy reasoning)
      (toPy cachedInput) (toPy cacheWrite) = .ok usage) :
    input = .int usage.inputTokens ∧ output = .int usage.outputTokens
      ∧ reasoning = .int usage.reasoningTokens
      ∧ cachedInput = .int usage.cachedInputTokens
      ∧ cacheWrite = .int usage.cacheWriteTokens := by
  unfold UsageTokens.checked at h
  simp only [bind_eq_ok] at h
  obtain ⟨a, ha, b, hb, c, hc, d, hd, e, he, h⟩ := h
  split at h
  · cases Except.ok.inj h
    exact ⟨eq_of_nonnegativeBigint ha, eq_of_nonnegativeBigint hb,
      eq_of_nonnegativeBigint hc, eq_of_nonnegativeBigint hd,
      eq_of_nonnegativeBigint he⟩
  · cases h

theorem usageV2_key {p : UsageProposalV2}
    (h : usageV2 rt event context = .ok p)
    (htype : event.eventType = "usage.reported".toList) :
    (Proposal.usageV2 p).proposalIdempotencyKey rt.toRuntime
      = p.idempotencyKey := by
  unfold usageV2 at h
  simp only [bind_eq_ok, reject_ok, priced_ok, Bool.not_eq_false'] at h
  obtain ⟨_, hfields, call, hcall, _, _, bytes, hbytes, table, _, usage,
    husage, cost, _, digest, hdigest, _, _, hp⟩ := h
  cases Except.ok.inj hp
  obtain ⟨hinput, houtput, hreasoning, hcached, hwrite⟩ :=
    tokens_of_checked husage
  have hpayload : event.payload.Perm [
      ("provider_call_id".toList, .str call),
      ("price_table".toList, event.field "price_table"),
      ("price_table_digest".toList, .str digest),
      ("input_tokens".toList, .int usage.inputTokens),
      ("output_tokens".toList, .int usage.outputTokens),
      ("reasoning_tokens".toList, .int usage.reasoningTokens),
      ("cached_input_tokens".toList, .int usage.cachedInputTokens),
      ("cache_write_tokens".toList, .int usage.cacheWriteTokens),
      ("output_bytes".toList, .int bytes)] := by
    refine payload_perm hfields (by simp only [List.map]; decide) ?_
    simp only [List.forall_mem_cons]
    exact ⟨found hfields (by decide) (field_of_textField hcall),
      found hfields (by decide) rfl,
      found hfields (by decide) (field_of_textField hdigest),
      found hfields (by decide) hinput,
      found hfields (by decide) houtput,
      found hfields (by decide) hreasoning,
      found hfields (by decide) hcached,
      found hfields (by decide) hwrite,
      found hfields (by decide) (field_of_intField hbytes),
      List.forall_mem_nil _⟩
  -- the table is put in its place, and the cost comes last
  have hbody := ((hpayload.map fun member =>
    if member.1 = "price_table".toList then (member.1, table.toDict)
    else (member.1, member.2)).append_right [
      ("author_role".toList, Json.str context.role),
      ("cost_usd_micros".toList, Json.int cost)]).trans
    (List.Perm.append_left [_, _, _, _, _, _, _, _]
      (List.perm_append_comm : ([_, _] ++ [_]).Perm ([_] ++ [_, _])))
  dsimp only
  rw [key_perm hbody UsageProposalV2.nodup_facts]
  unfold key header
  rw [htype]
  rfl

-- =============================================================== accepted

theorem terminal_key {p : TerminalProposal}
    (h : terminal rt event context = .ok p) :
    (Proposal.terminal p).proposalIdempotencyKey rt.toRuntime
        = p.idempotencyKey
      ∧ p.terminalType = event.eventType := by
  unfold terminal at h
  obtain ⟨texts, _, hp⟩ := bind_eq_ok.mp h
  cases Except.ok.inj hp
  exact ⟨rfl, rfl⟩

/-- A proposal carries its own key, and a terminal one a terminal type. -/
def Proposal.Keyed (rt : BrokerRuntime) (p : Proposal) : Prop :=
  p.proposalIdempotencyKey rt.toRuntime = p.idempotencyKey ∧ p.Closed

theorem propose_keyed {call : Call} {p : Proposal}
    (h : call.propose rt = .ok p) : p.Keyed rt := by
  unfold Call.propose at h
  dsimp only at h
  split at h
  · next htype =>
      obtain ⟨q, hq, hp⟩ := bind_eq_ok.mp h
      cases Except.ok.inj hp
      exact ⟨note_key hq htype, trivial⟩
  split at h
  · next htype =>
      obtain ⟨q, hq, hp⟩ := bind_eq_ok.mp h
      cases Except.ok.inj hp
      exact ⟨artifact_key hq htype, trivial⟩
  split at h
  · next htype =>
      split at h
      · obtain ⟨q, hq, hp⟩ := bind_eq_ok.mp h
        cases Except.ok.inj hp
        exact ⟨usageV1_key hq htype, trivial⟩
      split at h
      · obtain ⟨q, hq, hp⟩ := bind_eq_ok.mp h
        cases Except.ok.inj hp
        exact ⟨usageV2_key hq htype, trivial⟩
      · cases h
  · cases h

theorem boundedProposal_ok {p q : Proposal}
    (h : boundedProposal p = .ok q) : p = q := by
  unfold boundedProposal at h
  obtain ⟨_, _, h⟩ := bind_eq_ok.mp h
  exact Except.ok.inj h

theorem terminate_keyed {s : State} {call : Call} {p : Proposal}
    (hevent : terminalEvents.contains call.event.eventType = true)
    (h : (call.terminate rt s).1 = .ok p) : p.Keyed rt := by
  unfold Call.terminate at h
  split at h
  · cases h
  split at h
  · cases h
  · next q hq =>
      obtain ⟨hkey, htype⟩ := terminal_key hq
      rw [← boundedProposal_ok h]
      refine ⟨hkey, ?_⟩
      rw [Proposal.Closed, htype]
      exact List.contains_iff_mem.mp hevent

/-- Whatever the broker answers has its key. -/
theorem accept_keyed {s : State} {call : Call} {p : Proposal}
    (h : (accept rt s call).1 = .ok p) : p.Keyed rt := by
  unfold accept at h
  split at h
  · cases h
  split at h
  · next hevent => exact terminate_keyed hevent h
  · obtain ⟨q, hq, hp⟩ := bind_eq_ok.mp h
    rw [← boundedProposal_ok hp]
    exact propose_keyed hq

/-- A returned proposal's key is made again of its fields; where SHA-256
tells the two messages apart, two returned proposals have one key exactly
when they are one proposal. -/
theorem accepted_keys {s s' : State} {call call' : Call} {p p' : Proposal}
    (h : (accept rt s call).1 = .ok p)
    (h' : (accept rt s' call').1 = .ok p') :
    p.proposalIdempotencyKey rt.toRuntime = p.idempotencyKey
      ∧ ((rt.sha256 p.message = rt.sha256 p'.message →
          p.message = p'.message) →
        (p.idempotencyKey = p'.idempotencyKey ↔ p = p')) := by
  obtain ⟨hkey, hclosed⟩ := accept_keyed h
  obtain ⟨hkey', hclosed'⟩ := accept_keyed h'
  refine ⟨hkey, fun hcollision => ?_⟩
  constructor
  · intro heq
    refine Proposal.message_inj hclosed hclosed' heq (hcollision ?_)
    rw [← hkey, ← hkey'] at heq
    exact Factory.Digest.ext_text heq
  · intro heq
    rw [heq]

end

-- ============================================================== a sample

/-- SHA-256 of the keys of `smallArtifact` and `smallTerminal`, by the
lengths of their messages. -/
def smallSha (m : List UInt8) : Factory.Digest :=
  if m.length = 520 then
    ⟨"7c231b059b7104c13963d09f913a4b7a20617e97987a77cdb28e287c198691b1".toList,
      by decide, by decide⟩
  else
    ⟨"25dbdfad99bde914075d6abd492c4cc614d6db1468e32cf6e8d4f046992338b0".toList,
      by decide, by decide⟩

/-- A runtime for texts without secrets. -/
def smallRuntime : BrokerRuntime where
  sha256 := smallSha
  isNfc _ := true
  fromisoformat _ := none
  containsStructuralSecret _ := false
  sub _ t := t
  hasPemMarker _ := false

def smallContext : ProposalContext where
  taskId := ['t']
  runId := ['r']
  owner := ['o']
  fence := 1
  packetDigest := List.replicate 64 '0'
  role := "writer".toList
  allowedPaths := [['a']]
  allowedArtifactClasses := [['c']]
  maxNoteBytes := 64
  maxArtifactBytes := 1
  maxOutputBytes := 1
  maxCostUsdMicros := 1
  maxTokenUnits := 1
  declaredCapabilities := ["artifacts".toList, "structured_output".toList]

def smallEvent (eventType : Text) (payload : List (Text × Json))
    (hnodup : (payload.map Prod.fst).Nodup) : CanonicalEvent where
  protocolVersion := "adaptive-factory.execution/v1".toList
  taskId := ['t']
  runId := ['r']
  packetDigest := List.replicate 64 '0'
  sequence := 2
  eventType := eventType
  payload := payload
  payload_nodup := hnodup

/-- An artifact, its fields in another order than the proposal's. -/
def smallArtifact : Call where
  event := smallEvent "artifact.proposed".toList [
    ("sha256".toList, .str (List.replicate 64 '1')),
    ("size_bytes".toList, .int 1),
    ("artifact_class".toList, .str ['c']),
    ("path".toList, .str ['a']),
    ("media_type".toList, .str "text/plain".toList)] (by decide)
  context := smallContext
  owner := ['o']
  fence := 1
  attestation := some (List.replicate 64 '2')

def smallTerminal : Call where
  event := smallEvent "run.completed".toList [
    ("summary".toList, .str ['s'])] (by decide)
  context := smallContext
  owner := ['o']
  fence := 1
  attestation := none

theorem exists_of_isOk {ε α : Type} {x : Except ε α} (h : x.isOk = true) :
    ∃ a, x = .ok a := by
  cases x with
  | error e => cases h
  | ok a => exact ⟨a, rfl⟩

/-- An artifact and a terminal proposal. -/
theorem accepted_keys_pair : ∃ p p',
    (accept smallRuntime ∅ smallArtifact).1 = .ok p
      ∧ (accept smallRuntime ∅ smallTerminal).1 = .ok p'
      ∧ p.proposalIdempotencyKey smallRuntime.toRuntime = p.idempotencyKey
      ∧ ((smallRuntime.sha256 p.message = smallRuntime.sha256 p'.message →
          p.message = p'.message) →
        (p.idempotencyKey = p'.idempotencyKey ↔ p = p')) := by
  obtain ⟨p, hp⟩ := exists_of_isOk (show
    (accept smallRuntime ∅ smallArtifact).1.isOk = true by decide +kernel)
  obtain ⟨p', hp'⟩ := exists_of_isOk (show
    (accept smallRuntime ∅ smallTerminal).1.isOk = true by decide +kernel)
  exact ⟨p, p', hp, hp', accepted_keys hp hp'⟩

end Exolon.Broker
