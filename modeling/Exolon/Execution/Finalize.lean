/-
What the evidence of a run agrees to at its end.

The artifacts always agree (`artifacts_attested`). The usage does not: the
finalization adds up three buckets of tokens where the second version of a
usage has five, and wants one proposal for a call where the runs let in any
number of them. `usage_check_iff` says exactly when it agrees, and
`never_finalized` that a run with such a usage is not finalized by any call:
its lease has to expire. `attestation_left_behind` is about the other thing
the second version does not look at, the attestation that waits for its
number.

A proposal and an attestation that were taken once are taken again, with no
row written (`proposed_again`, `attested_again`).
-/
import Exolon.Execution.Sound
import Exolon.Store.Fencing

namespace Exolon.Execution

open Broker (BrokerRuntime CanonicalEvent Proposal UsageProposalV2)
open Semantic (ArtifactAttestationV1 ArtifactProposal)
open Store (UsageReport)
open Transaction Relation

variable {rt : BrokerRuntime} {gate : Gate} {packet : Packet}
  {e e' : Evidence}

-- =============================================================== samples

/-- A hash of no content, and a gate that is open. -/
def sampleRuntime : BrokerRuntime :=
  { Broker.smallRuntime with sha256 := fun _ => .genesis }

def sampleGate : Gate := ⟨fun _ _ => true, fun _ => true⟩

def samplePacket : Packet where
  context := { Broker.smallContext with declaredCapabilities :=
    ["artifacts".toList, "usage".toList, "structured_output".toList] }
  repositoryId := "repository".toList
  workspaceHandle := "workspace".toList
  maxEvents := 10
  eventLimit := 10

def sampleAttestation : ArtifactAttestationV1 where
  contractVersion := 1
  taskId := ['t']
  runId := ['r']
  repositoryId := "repository".toList
  packetDigest := List.replicate 64 '0'
  workspaceHandle := "workspace".toList
  producerSequence := 1
  fence := 1
  authorRole := "writer".toList
  artifactClass := ['c']
  path := ['a']
  sha256 := List.replicate 64 '1'
  sizeBytes := 1
  mediaType := "text/plain".toList
  source := "trusted_workspace_broker".toList
  artifactAttestationDigest := List.replicate 64 '0'

/-- The artifact of the attestation. -/
def sampleArtifact : CanonicalEvent :=
  { Broker.smallArtifact.event with sequence := 1 }

/-- A usage of the second version, with a cached token. -/
def sampleUsage : CanonicalEvent where
  protocolVersion := "adaptive-factory.execution/v2".toList
  taskId := ['t']
  runId := ['r']
  packetDigest := List.replicate 64 '0'
  sequence := 1
  eventType := "usage.reported".toList
  payload := [
    ("provider_call_id".toList, .str ['p']),
    ("price_table".toList, .obj [
      ("schema_version".toList, .int 1),
      ("input_usd_micros_per_million".toList, .int 1),
      ("output_usd_micros_per_million".toList, .int 1),
      ("reasoning_usd_micros_per_million".toList, .int 1),
      ("cached_input_usd_micros_per_million".toList, .int 1),
      ("cache_write_usd_micros_per_million".toList, .int 1)]),
    ("price_table_digest".toList, .str (List.replicate 64 '0')),
    ("input_tokens".toList, .int 0),
    ("output_tokens".toList, .int 0),
    ("reasoning_tokens".toList, .int 0),
    ("cached_input_tokens".toList, .int 1),
    ("cache_write_tokens".toList, .int 0),
    ("output_bytes".toList, .int 0)]
  payload_nodup := by decide

/-- The rows after some calls. -/
def afterAll (calls : List Call) : Evidence :=
  calls.foldl (Evidence.after sampleRuntime sampleGate samplePacket) {}

theorem reachable_afterAll (calls : List Call) : Run.Reachable
    (step sampleRuntime sampleGate samplePacket) {} (afterAll calls) := by
  refine ⟨calls, ?_⟩
  unfold afterAll
  generalize ({} : Evidence) = e
  induction calls generalizing e with
  | nil => rfl
  | cons call calls ih => exact ih _

/-- An artifact that is attested and proposed. -/
def artifactRun : Evidence := afterAll [
  .attest sampleAttestation true,
  .propose sampleArtifact (some (List.replicate 64 '0')) true true]

/-- A usage in the place of the artifact. -/
def cachedRun : Evidence := afterAll [
  .attest sampleAttestation true,
  .propose sampleUsage none true true]

-- ====================================================== what always agrees

/-- The proposals of a run are numbered from one, within the limit of the
packet; their keys are different, and a terminal one is the last. -/
theorem proposals_in_order
    (hreach : Run.Reachable (step rt gate packet) {} e) {n : Nat}
    {p : Proposal} (hp : e.proposals[n]? = some p) :
    sequence p = n + 1 ∧ sequence p ≤ packet.maxEvents
      ∧ (kind p = .terminal → e.proposals.length = n + 1)
      ∧ ∀ (m : Nat) (q : Proposal), e.proposals[m]? = some q →
        q.idempotencyKey = p.idempotencyKey → m = n := by
  have h := (sound_of_reachable hreach).ordered
  obtain ⟨hn, hget⟩ := List.getElem?_eq_some_iff.mp hp
  have hmem : p ∈ e.proposals := List.mem_of_getElem? hp
  refine ⟨?_, h.within p hmem, ?_, ?_⟩
  · have hnumber : (e.proposals.map fun p => (sequence p).toNat)[n]?
        = some (sequence p).toNat := by
      rw [List.getElem?_map, hp]
      rfl
    rw [h.numbered, List.getElem?_range' (by rw [List.length_map]; exact hn)]
      at hnumber
    have := Option.some.inj hnumber
    have := h.positive p hmem
    omega
  · intro hterminal
    by_contra hlast
    have hnext : n + 1 < e.proposals.length := by omega
    have := List.pairwise_iff_getElem.mp h.ended n (n + 1) hn hnext
      (Nat.lt_succ_self n)
    rw [hget] at this
    exact this hterminal
  · intro m q hq hkey
    obtain ⟨hm, hgetq⟩ := List.getElem?_eq_some_iff.mp hq
    have hsame : (e.proposals.map Proposal.idempotencyKey)[m]?
        = (e.proposals.map Proposal.idempotencyKey)[n]? := by
      rw [List.getElem?_map, List.getElem?_map, hp, hq]
      exact congrArg some hkey
    exact (List.getElem?_inj (by rw [List.length_map]; exact hm) h.keys).mp
      hsame

theorem proposals_in_order_sample : ∃ p, artifactRun.proposals[0]? = some p
    ∧ sequence p = (0 : Nat) + 1 ∧ sequence p ≤ samplePacket.maxEvents := by
  obtain ⟨p, hp⟩ := Option.isSome_iff_exists.mp
    (show artifactRun.proposals[0]?.isSome = true by decide +kernel)
  obtain ⟨hnumber, hwithin, _⟩ :=
    proposals_in_order (reachable_afterAll _) hp
  exact ⟨p, hp, hnumber, hwithin⟩

/-- What the proposal of a spent row says is what the row does. -/
theorem Attestation.agrees_of_sameColumns {row : Attestation}
    {p : ArtifactProposal}
    (h : SameColumns row.body (attestationOf packet p)) : row.agrees p := by
  obtain ⟨hdigest, htask, _, hpacket, _, _, hrole, _, _, hclass, hpath, hsha,
    hsize, hmedia⟩ := h
  exact ⟨hdigest, htask, hpacket, hrole, hclass, hpath, hsha, hsize, hmedia⟩

/-- The key of an artifact proposal. -/
def artifactKey? : Proposal → Option Text
  | .artifact p => some p.idempotencyKey
  | _ => none

theorem artifactKey?_eq_some {p : Proposal} {key : Text} :
    artifactKey? p = some key
      ↔ ∃ q, p = .artifact q ∧ q.idempotencyKey = key := by
  cases p with
  | artifact q =>
      constructor
      · intro h
        exact ⟨q, rfl, Option.some.inj h⟩
      · intro h
        obtain ⟨_, hq, hkey⟩ := h
        cases hq
        exact congrArg some hkey
  | note _ | usage _ | usageV2 _ | terminal _ =>
      apply iff_of_false
      · intro h
        cases h
      · intro h
        obtain ⟨_, hq, _⟩ := h
        cases hq

/-- The first check of the finalization never fails: the artifact proposals
and the attestations that were spent are one for one, and say the same. -/
theorem artifacts_attested
    (hreach : Run.Reachable (step rt gate packet) {} e) :
    e.artifactsAttested
      ∧ (e.attestations.filterMap Attestation.consumed).Perm
        (e.proposals.filterMap artifactKey?) := by
  obtain ⟨hordered, h, _⟩ := sound_of_reachable hreach
  have hsame : ∀ {p q : ArtifactProposal}, .artifact p ∈ e.proposals →
      .artifact q ∈ e.proposals → p.idempotencyKey = q.idempotencyKey →
      p = q := by
    intro p q hp hq hkey
    have := List.inj_on_of_nodup_map hordered.keys hp hq hkey
    cases this
    rfl
  refine ⟨?_, ?_⟩
  · intro p hp
    cases p with
    | artifact p =>
        refine ⟨?_, ?_⟩
        · obtain ⟨row, hrow, hconsumed, hsame⟩ := h.backed p hp
          apply List.ne_nil_of_mem (a := row)
          rw [List.mem_filter]
          exact ⟨hrow, decide_eq_true ⟨hsame.2.2.2.2.1, hconsumed⟩⟩
        · intro row hrow
          rw [List.mem_filter, decide_eq_true_eq] at hrow
          obtain ⟨hrow, _, hconsumed⟩ := hrow
          obtain ⟨q, hq, hkey, hcolumns⟩ := h.spent row hrow _ hconsumed
          rw [← hsame hq hp hkey]
          exact Attestation.agrees_of_sameColumns hcolumns
    | note _ | usage _ | usageV2 _ | terminal _ => trivial
  · rw [List.perm_ext_iff_of_nodup]
    · intro key
      simp only [List.mem_filterMap, artifactKey?_eq_some]
      constructor
      · intro hkey
        obtain ⟨row, hrow, hconsumed⟩ := hkey
        obtain ⟨p, hp, hkey, _⟩ := h.spent row hrow key hconsumed
        exact ⟨_, hp, p, rfl, hkey⟩
      · intro hkey
        obtain ⟨_, hp, p, rfl, hkey⟩ := hkey
        obtain ⟨row, hrow, hconsumed, _⟩ := h.backed p hp
        exact ⟨row, hrow, hconsumed.trans (congrArg some hkey)⟩
    · rw [List.Nodup, List.pairwise_filterMap]
      refine (List.pairwise_map.mp h.rows).imp_of_mem ?_
      intro row row' hrow hrow' hne key hkey key' hkey' heq
      obtain ⟨p, hp, hpkey, hcolumns⟩ := h.spent row hrow key hkey
      obtain ⟨q, hq, hqkey, hcolumns'⟩ := h.spent row' hrow' key' hkey'
      have hpq := hsame hp hq (hpkey.trans (heq.trans hqkey.symm))
      apply hne
      rw [hpq] at hcolumns
      exact hcolumns.2.2.2.2.1.trans hcolumns'.2.2.2.2.1.symm
    · rw [List.Nodup, List.pairwise_filterMap]
      refine (List.pairwise_map.mp hordered.keys).imp ?_
      intro p p' hne key hkey key' hkey' heq
      obtain ⟨q, rfl, rfl⟩ := artifactKey?_eq_some.mp hkey
      obtain ⟨q', rfl, rfl⟩ := artifactKey?_eq_some.mp hkey'
      exact hne heq

theorem artifacts_attested_sample : artifactRun.artifactsAttested
    ∧ (artifactRun.attestations.filterMap Attestation.consumed).Perm
      (artifactRun.proposals.filterMap artifactKey?) :=
  artifacts_attested (reachable_afterAll _)

-- ============================================== when the usage agrees

theorem mem_usageCalls {callId : Text} :
    callId ∈ e.usageCalls
      ↔ ∃ p ∈ e.proposals, providerCallId? p = some callId :=
  List.mem_filterMap

/-- A proposal of the second version agrees with its observation where it
has no tokens in the two buckets that are not added up. -/
theorem Usage.agrees_usageV2_iff {u : Usage} {p : UsageProposalV2}
    (htells : u.Tells (usageOf p)) (hbytes : 0 ≤ p.outputBytes) :
    u.agrees (.usageV2 p)
      ↔ p.cachedInputTokens = 0 ∧ p.cacheWriteTokens = 0 := by
  have htext : u.evidence.priceTableDigest.text = p.priceTableDigest :=
    text_of_of? htells.digest
  have htokens : u.evidence.tokens = p.inputTokens + p.outputTokens
    + p.reasoningTokens + p.cachedInputTokens + p.cacheWriteTokens :=
    htells.tokens
  have houtput : u.evidence.output = p.outputBytes.toNat := htells.output
  constructor
  · intro h
    have := h.2.2.1
    omega
  · intro h
    refine ⟨htext, htells.cost, ?_, ?_⟩
    · omega
    · rw [houtput]
      exact Int.toNat_of_nonneg hbytes

/-- The second check of the finalization, in the runs. -/
theorem usage_check_iff
    (hreach : Run.Reachable (step rt gate packet) {} e) :
    e.usageObserved
      ↔ e.usageCalls.Nodup
        ∧ (∀ u ∈ e.usage, u.providerCallId ∈ e.usageCalls)
        ∧ (∀ p, .usage p ∈ e.proposals → ∃ u ∈ e.usage,
          u.providerCallId = p.providerCallId ∧ u.agrees (.usage p))
        ∧ ∀ p, .usageV2 p ∈ e.proposals →
          p.cachedInputTokens = 0 ∧ p.cacheWriteTokens = 0 := by
  obtain ⟨_, _, h⟩ := sound_of_reachable hreach
  -- a call has one row, so that the join has one row or none
  have hjoin : ∀ {callId : Text} {u : Usage}, u ∈ e.usage →
      u.providerCallId = callId → ∀ {p : Proposal},
      ((e.usage.filter fun v => v.providerCallId = callId) ≠ []
        ∧ ∀ v ∈ e.usage.filter fun v => v.providerCallId = callId,
          v.agrees p) ↔ u.agrees p := by
    intro callId u hu hcall p
    constructor
    · intro hall
      apply hall.2
      rw [List.mem_filter]
      exact ⟨hu, decide_eq_true hcall⟩
    · intro hagrees
      refine ⟨?_, ?_⟩
      · apply List.ne_nil_of_mem (a := u)
        rw [List.mem_filter]
        exact ⟨hu, decide_eq_true hcall⟩
      · intro v hv
        rw [List.mem_filter, decide_eq_true_eq] at hv
        rw [List.inj_on_of_nodup_map h.calls hv.1 hu (hv.2.trans hcall.symm)]
        exact hagrees
  unfold Evidence.usageObserved
  rw [← List.nodup_iff_count_eq_one]
  constructor
  · intro hobserved
    obtain ⟨hrows, hcalled, honce⟩ := hobserved
    refine ⟨honce, hcalled, ?_, ?_⟩
    · intro p hp
      obtain ⟨hne, hall⟩ := hrows _ hp _ rfl
      obtain ⟨u, hu⟩ := List.exists_mem_of_ne_nil _ hne
      have hagrees := hall u hu
      rw [List.mem_filter, decide_eq_true_eq] at hu
      exact ⟨u, hu.1, hu.2, hagrees⟩
    · intro p hp
      obtain ⟨hbytes, u, hu, htells⟩ := h.told p hp
      rw [← Usage.agrees_usageV2_iff htells hbytes]
      exact (hjoin hu htells.call).mp (hrows _ hp _ rfl)
  · intro hobserved
    obtain ⟨honce, hcalled, hv1, hv2⟩ := hobserved
    refine ⟨?_, hcalled, honce⟩
    intro p hp callId hcall
    cases p with
    | usage p =>
        cases hcall
        obtain ⟨u, hu, hsame, hagrees⟩ := hv1 p hp
        exact (hjoin hu hsame).mpr hagrees
    | usageV2 p =>
        cases hcall
        obtain ⟨hbytes, u, hu, htells⟩ := h.told p hp
        refine (hjoin hu htells.call).mpr ?_
        exact (Usage.agrees_usageV2_iff htells hbytes).mpr (hv2 p hp)
    | note _ | artifact _ | terminal _ => cases hcall

theorem usage_check_iff_sample : cachedRun.usageObserved
    ↔ cachedRun.usageCalls.Nodup
      ∧ (∀ u ∈ cachedRun.usage, u.providerCallId ∈ cachedRun.usageCalls)
      ∧ (∀ p, .usage p ∈ cachedRun.proposals → ∃ u ∈ cachedRun.usage,
        u.providerCallId = p.providerCallId ∧ u.agrees (.usage p))
      ∧ ∀ p, .usageV2 p ∈ cachedRun.proposals →
        p.cachedInputTokens = 0 ∧ p.cacheWriteTokens = 0 :=
  usage_check_iff (reachable_afterAll _)

-- ============================================================== the store

/-- The result that the store has of the run of a grant. -/
def resultOf (db : Store.Db) (grant : Store.LeaseGrant) :
    Option Store.WorkspaceResult :=
  (db.task? grant.taskId).bind fun t =>
    (t.runs.find? fun r => r.runId = grant.runId).bind Store.Run.result

/-- A run without a terminal proposal that the plane answers for is not
finalized, whatever was recorded of the call. -/
theorem finalizeExecution_unanswered {digests : Store.Digests}
    {grant : Store.LeaseGrant} {packetDigest : Factory.Digest}
    {plane : Store.ExecutionPlane} {actor : Store.Actor}
    {key : Option Factory.Digest} {clock : Store.Clock} {db db' : Store.Db}
    {answer : Store.WorkspaceResult} (hplane : plane.terminal = none)
    (hnone : resultOf db grant = none) :
    Store.finalizeExecution digests grant packetDigest plane actor key clock
      db ≠ .ok (answer, db') := by
  intro hok
  unfold Store.finalizeExecution Store.Db.keyed at hok
  rw [bind_eq_ok] at hok
  obtain ⟨prior, _, hok⟩ := hok
  cases prior with
  | some prior =>
      rw [bind_eq_ok] at hok
      obtain ⟨result, hreplay, _⟩ := hok
      unfold Store.finalizeReplay at hreplay
      split at hreplay
      · simp only [bind_eq_ok, check_eq_ok] at hreplay
        obtain ⟨_, hresult, _⟩ := hreplay
        have hsome : resultOf db grant = some _ := hresult
        rw [hnone] at hsome
        cases hsome
      · cases hreplay
  | none =>
      rw [bind_eq_ok] at hok
      obtain ⟨_, hbody, _⟩ := hok
      unfold Store.Db.onTask at hbody
      simp only [bind_eq_ok, fetch_eq_ok] at hbody
      obtain ⟨t, ht, ⟨result, h⟩, hanswer, _⟩ := hbody
      have hresult : (t.runs.find? fun r => r.runId = grant.runId).bind
          Store.Run.result = none := by
        unfold resultOf at hnone
        rw [ht] at hnone
        exact hnone
      rw [show ((db.held t).task.runs.find? fun r =>
        r.runId = grant.runId).bind Store.Run.result = none from hresult]
        at hanswer
      unfold Store.finalizeLocked at hanswer
      simp only [bind_eq_ok, fetch_eq_ok] at hanswer
      obtain ⟨_, _, _, _, _, hterminal, _⟩ := hanswer
      rw [hplane] at hterminal
      cases hterminal

-- ========================================================= what never ends

/-- Rows are only added to the proposals and the usage. -/
theorem Changes.grows (hchanges : Changes packet e e') :
    e.proposals <+: e'.proposals ∧ e.usage <+: e'.usage := by
  induction hchanges with
  | refl => exact ⟨List.prefix_rfl, List.prefix_rfl⟩
  | tail _ hchange ih =>
      obtain ⟨hproposals, husage⟩ := ih
      cases hchange with
      | attested _ _ => exact ⟨hproposals, husage⟩
      | observed _ =>
          exact ⟨hproposals, husage.trans (List.prefix_append _ _)⟩
      | artifact _ _ | usageV2 _ _ _ | plain _ _ _ _ =>
          exact ⟨hproposals.trans (List.prefix_append _ _), husage⟩

theorem reachable_trans {start : Evidence}
    (hreach : Run.Reachable (step rt gate packet) start e)
    (hlater : Run.Reachable (step rt gate packet) e e') :
    Run.Reachable (step rt gate packet) start e' := by
  obtain ⟨calls, hrun⟩ := hreach
  obtain ⟨calls', hrun'⟩ := hlater
  refine ⟨calls ++ calls', ?_⟩
  rw [Run.run_append, hrun]
  exact hrun'

/-- A run that has a usage with cached tokens, or two usages of one call, can
not be finalized any more, whatever is called for it: the store refuses every
finalization but one of before. -/
theorem never_finalized
    (hreach : Run.Reachable (step rt gate packet) {} e)
    (hbad : (∃ p, .usageV2 p ∈ e.proposals
        ∧ (p.cachedInputTokens ≠ 0 ∨ p.cacheWriteTokens ≠ 0))
      ∨ ¬ e.usageCalls.Nodup)
    (hlater : Run.Reachable (step rt gate packet) e e') :
    ¬ e'.isFinalizable
      ∧ ∀ (digests : Store.Digests) (db : Store.Db) (grant : Store.LeaseGrant)
        (packetDigest : Factory.Digest) (plane : Store.ExecutionPlane)
        (actor : Store.Actor) (key : Option Factory.Digest)
        (clock : Store.Clock), resultOf db grant = none →
        ∀ answer, Store.finalizeExecution digests grant packetDigest
          (e'.plane plane) actor key clock db ≠ .ok answer := by
  have hreach' := reachable_trans hreach hlater
  obtain ⟨hgrows, _⟩ := (changes_of_reachable hlater).grows
  have hnot : ¬ e'.isFinalizable := by
    intro hfinal
    obtain ⟨honce, _, _, hv2⟩ := (usage_check_iff hreach').mp hfinal.2.2
    rcases hbad with ⟨p, hp, hcached⟩ | htwice
    · have := hv2 p (hgrows.subset hp)
      omega
    · apply htwice
      exact honce.sublist (hgrows.sublist.filterMap _)
  refine ⟨hnot, ?_⟩
  intro digests db grant packetDigest plane actor key clock hnone answer
  apply finalizeExecution_unanswered ?_ hnone
  show (if e'.isFinalizable then plane.terminal else none) = none
  exact if_neg hnot

/-- The usage has a cached token. -/
theorem cachedRun_cached : ∃ p, .usageV2 p ∈ cachedRun.proposals
    ∧ (p.cachedInputTokens ≠ 0 ∨ p.cacheWriteTokens ≠ 0) := by
  have hany : (cachedRun.proposals.any fun p => p.casesOn (fun _ => false)
      (fun _ => false) (fun _ => false)
      (fun p => decide (p.cachedInputTokens ≠ 0)) fun _ => false) = true := by
    decide +kernel
  obtain ⟨p, hp, hcached⟩ := List.any_eq_true.mp hany
  cases p with
  | usageV2 p => exact ⟨p, hp, .inl (of_decide_eq_true hcached)⟩
  | note _ | artifact _ | usage _ | terminal _ => cases hcached

theorem never_finalized_sample : ¬ cachedRun.isFinalizable :=
  (never_finalized (reachable_afterAll _) (.inl cachedRun_cached)
    ⟨[], rfl⟩).1

/-- An attestation that the proposals have gone past stays as it is. -/
theorem Changes.keeps_behind (hchanges : Changes packet e e')
    {row : Attestation} (hrow : row ∈ e.attestations)
    (hpast : row.sequence ≤ e.lastSequence) :
    row ∈ e'.attestations ∧ row.sequence ≤ e'.lastSequence := by
  induction hchanges with
  | refl => exact ⟨hrow, hpast⟩
  | @tail e₁ e₂ _ hchange ih =>
      obtain ⟨hrow, hpast⟩ := ih
      -- the number of a new proposal is beyond the row's
      have hproposed : ∀ {p : Proposal}, e₁.IsNew packet p →
          row.sequence ≤ (((e₁.proposals ++ [p]).map fun q =>
            (sequence q).toNat).foldr max 0 : Nat) := by
        intro p hnew
        rw [lastSequence_propose hnew]
        omega
      cases hchange with
      | attested _ _ => exact ⟨List.mem_append_left _ hrow, hpast⟩
      | observed _ => exact ⟨hrow, hpast⟩
      | @artifact p hnew _ =>
          refine ⟨Table.mem_update.mpr ⟨row, hrow, ?_⟩, hproposed hnew⟩
          rw [if_neg]
          rw [decide_eq_true_eq]
          intro hfor
          have hnext : p.sequence = e₁.lastSequence + 1 := hnew.next
          rw [hfor.sequence, hnext] at hpast
          omega
      | usageV2 hnew _ _ => exact ⟨hrow, hproposed hnew⟩
      | plain hnew _ _ _ => exact ⟨hrow, hproposed hnew⟩

/-- An attestation that is not spent when the proposals go past its number
was gone past by a usage of the second version, and is never spent. -/
theorem attestation_left_behind
    (hreach : Run.Reachable (step rt gate packet) {} e) {row : Attestation}
    (hrow : row ∈ e.attestations) (hwaiting : row.consumed = none)
    (hpast : row.sequence ≤ e.lastSequence) :
    (∃ p, .usageV2 p ∈ e.proposals ∧ p.sequence = row.sequence)
      ∧ ∀ {e'}, Run.Reachable (step rt gate packet) e e' →
        row ∈ e'.attestations := by
  have h := (sound_of_reachable hreach).attested
  refine ⟨?_, ?_⟩
  · rcases h.waiting row hrow hwaiting with hnext | hgone
    · omega
    · exact hgone
  · intro e' hlater
    exact ((changes_of_reachable hlater).keeps_behind hrow hpast).1

theorem attestation_left_behind_sample : ∃ row ∈ cachedRun.attestations,
    row.consumed = none ∧ ∃ p, .usageV2 p ∈ cachedRun.proposals
      ∧ p.sequence = row.sequence := by
  have hany : (cachedRun.attestations.any fun row =>
      row.consumed = none ∧ row.sequence ≤ cachedRun.lastSequence)
      = true := by
    decide +kernel
  obtain ⟨row, hrow, hbehind⟩ := List.any_eq_true.mp hany
  obtain ⟨hwaiting, hpast⟩ := of_decide_eq_true hbehind
  exact ⟨row, hrow, hwaiting,
    (attestation_left_behind (reachable_afterAll _) hrow hwaiting hpast).1⟩

-- ================================================================ replays

/-- A proposal that was stored is stored again, whatever came in between, as
long as the lease is alive; nothing is written. -/
theorem proposed_again
    (hreach : Run.Reachable (step rt gate packet) {} e)
    {event : CanonicalEvent} {attestation : Option Text} {live fits : Bool}
    (hok : commitExecutionProposal rt gate packet event attestation live fits
      e = .ok (true, e'))
    {e'' : Evidence} (hlater : Run.Reachable (step rt gate packet) e' e'')
    (fits' : Bool) :
    commitExecutionProposal rt gate packet event attestation true fits' e''
      = .ok (true, e'') := by
  obtain ⟨hchanges, hstored⟩ := commitExecutionProposal_ok hok
  obtain ⟨p, hp, haccepted, hadmits, htold⟩ := hstored rfl
  have hsound := ((sound_of_reachable hreach).changes hchanges).changes
    (changes_of_reachable hlater)
  obtain ⟨hproposals, husage⟩ := (changes_of_reachable hlater).grows
  have hmem := hproposals.subset hp
  have hpropose : executionPropose rt gate packet p true e''
      = .ok e'' := by
    unfold executionPropose
    rw [bind_eq_ok]
    refine ⟨.unit, check_eq_ok.mpr ⟨rfl, hadmits⟩, ?_⟩
    rw [Table.find?_key hsound.ordered.sequences hmem, bind_eq_ok]
    exact ⟨.unit, check_eq_ok.mpr rfl, rfl⟩
  unfold commitExecutionProposal
  simp only [bind_eq_ok, check_eq_ok, mapError_eq_ok]
  refine ⟨.unit, trivial, p, haccepted, ?_⟩
  cases p with
  | usageV2 u =>
      obtain ⟨row, hrow, htells⟩ := htold u rfl
      rw [bind_eq_ok]
      refine ⟨_, observe_again hsound.told.calls (husage.subset hrow) htells,
        ?_⟩
      rw [if_pos rfl, hpropose]
      rfl
  | note _ | artifact _ | usage _ | terminal _ =>
      rw [hpropose]
      rfl

theorem proposed_again_sample : ∃ e,
    commitExecutionProposal sampleRuntime sampleGate samplePacket
        sampleArtifact (some (List.replicate 64 '0')) true true
        (afterAll [.attest sampleAttestation true]) = .ok (true, e)
      ∧ commitExecutionProposal sampleRuntime sampleGate samplePacket
        sampleArtifact (some (List.replicate 64 '0')) true false e
        = .ok (true, e) := by
  obtain ⟨e, he⟩ : ∃ e, commitExecutionProposal sampleRuntime sampleGate
      samplePacket sampleArtifact (some (List.replicate 64 '0')) true true
      (afterAll [.attest sampleAttestation true]) = .ok (true, e) := by
    have hok : ((commitExecutionProposal sampleRuntime sampleGate samplePacket
        sampleArtifact (some (List.replicate 64 '0')) true true
        (afterAll [.attest sampleAttestation true])).toOption.map
          Prod.fst) = some true := by
      decide +kernel
    cases hcall : commitExecutionProposal sampleRuntime sampleGate
        samplePacket sampleArtifact (some (List.replicate 64 '0')) true true
        (afterAll [.attest sampleAttestation true]) with
    | error _ =>
        rw [hcall] at hok
        cases hok
    | ok answer =>
        rw [hcall] at hok
        obtain ⟨stored, e⟩ := answer
        cases hok
        exact ⟨e, rfl⟩
  exact ⟨e, he, proposed_again (reachable_afterAll _) he ⟨[], rfl⟩ false⟩

/-- The bodies of the attestations stay as they are. -/
theorem Changes.bodies (hchanges : Changes packet e e') :
    e.attestations.map Attestation.body
      <+: e'.attestations.map Attestation.body := by
  induction hchanges with
  | refl => exact List.prefix_rfl
  | tail _ hchange ih =>
      cases hchange with
      | attested _ _ =>
          rw [List.map_append]
          exact ih.trans (List.prefix_append _ _)
      | observed _ | usageV2 _ _ _ | plain _ _ _ _ => exact ih
      | artifact _ _ =>
          rw [map_spent fun _ _ => rfl]
          exact ih

/-- A request for the number of a row is answered by the row. -/
theorem recordArtifactAttestation_of_row
    (hrows : (e.attestations.map Attestation.sequence).Nodup)
    {row : Attestation} (hrow : row ∈ e.attestations)
    {a : ArtifactAttestationV1} (hnumber : row.sequence = a.producerSequence)
    (live : Bool) : recordArtifactAttestation rt gate packet a live e
      = (if gate.formed a ∧ row.body = a then some a else none, e) := by
  unfold recordArtifactAttestation
  by_cases hformed : gate.formed a
  · rw [if_pos hformed]
    have hfound := Table.find?_key hrows hrow
    rw [hnumber] at hfound
    rw [hfound]
    dsimp only
    by_cases hbody : row.body = a
    · rw [if_pos hbody, if_pos ⟨hformed, hbody⟩, hbody]
    · rw [if_neg hbody, if_neg fun h => hbody h.2]
  · rw [if_neg hformed, if_neg fun h => hformed h.1]

/-- What is answered is in the rows. -/
theorem recordArtifactAttestation_some {a body : ArtifactAttestationV1}
    {live : Bool}
    (hanswer : (recordArtifactAttestation rt gate packet a live e).1
      = some body) : body = a ∧ gate.formed a
        ∧ a ∈ (recordArtifactAttestation rt gate packet a live
          e).2.attestations.map Attestation.body := by
  unfold recordArtifactAttestation at hanswer ⊢
  by_cases hformed : gate.formed a
  · rw [if_pos hformed] at hanswer ⊢
    cases hfound : e.attestations.find? _ with
    | some row =>
        rw [hfound] at hanswer
        dsimp only at hanswer ⊢
        by_cases hbody : row.body = a
        · rw [if_pos hbody] at hanswer
          have hmem := List.mem_map_of_mem (f := Attestation.body)
            (List.mem_of_find?_eq_some hfound)
          rw [hbody] at hmem
          exact ⟨(Option.some.inj hanswer).symm.trans hbody, hformed, hmem⟩
        · rw [if_neg hbody] at hanswer
          cases hanswer
    | none =>
        rw [hfound] at hanswer
        dsimp only at hanswer ⊢
        split at hanswer
        case isFalse => cases hanswer
        case isTrue hadmitted =>
          rw [if_pos hadmitted]
          refine ⟨(Option.some.inj hanswer).symm, hformed, ?_⟩
          rw [List.map_append]
          exact List.mem_append_right _ (List.mem_singleton_self _)
  · rw [if_neg hformed] at hanswer
    cases hanswer

/-- An attestation that was recorded is answered to the same request, also
when the lease is over and the run has ended; another request of its number
is answered none. Nothing is written. -/
theorem attested_again
    (hreach : Run.Reachable (step rt gate packet) {} e)
    {a body : ArtifactAttestationV1} {live : Bool}
    (hanswer : (recordArtifactAttestation rt gate packet a live e).1
      = some body)
    {e' : Evidence} (hlater : Run.Reachable (step rt gate packet)
      (recordArtifactAttestation rt gate packet a live e).2 e')
    (live' : Bool) :
    recordArtifactAttestation rt gate packet a live' e' = (some a, e')
      ∧ ∀ b : ArtifactAttestationV1, b ≠ a →
        b.producerSequence = a.producerSequence →
        recordArtifactAttestation rt gate packet b live' e' = (none, e') := by
  obtain ⟨rfl, hformed, hmem⟩ := recordArtifactAttestation_some hanswer
  have hchanges := changes_of_reachable hlater
  obtain ⟨row, hrow, hbody⟩ :=
    List.mem_map.mp (hchanges.bodies.subset hmem)
  have hrows := (((sound_of_reachable hreach).changes
    recordArtifactAttestation_changes).changes hchanges).attested.rows
  have hnumber : row.sequence = body.producerSequence := by
    rw [← hbody]
    rfl
  refine ⟨?_, ?_⟩
  · rw [recordArtifactAttestation_of_row hrows hrow hnumber,
      if_pos ⟨hformed, hbody⟩]
  · intro b hb hsame
    rw [recordArtifactAttestation_of_row hrows hrow
      (hnumber.trans hsame.symm), if_neg]
    intro h
    exact hb (h.2.symm.trans hbody)

/-- The second time, the lease is over. -/
theorem attested_again_sample :
    recordArtifactAttestation sampleRuntime sampleGate samplePacket
        sampleAttestation false (recordArtifactAttestation sampleRuntime
          sampleGate samplePacket sampleAttestation true {}).2
      = (some sampleAttestation, (recordArtifactAttestation sampleRuntime
          sampleGate samplePacket sampleAttestation true {}).2) := by
  have hanswer : (recordArtifactAttestation sampleRuntime sampleGate
      samplePacket sampleAttestation true {}).1
        = some sampleAttestation := by
    decide +kernel
  exact (attested_again (reachable_afterAll []) hanswer ⟨[], rfl⟩ false).1

end Exolon.Execution
