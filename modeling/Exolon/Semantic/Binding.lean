/-
What the envelope of a semantic subject binds.

`Checked` is what an accepted bundle satisfies: every part carries its own
digest, and the artifacts stand in the order of their keys. The envelope's
digest then goes down in three steps, each with one use of `CollisionFree`:
to the binding and the inputs, from the binding to the digests of the
parts, from a part's digest to the part.

`subject_binds_bundle` has the other direction too, from the order of the
artifacts, which does not matter, and the pairs of artifacts and
attestations, which the code finds by lookups, counts and distinct keys.
-/
import Exolon.Semantic.Bridge

namespace Exolon.Semantic

open Factory (Digest utf8 canonicalJson bind_ok utf8_inj)

-- ============================================================= messages

section Messages

variable {α : Type} {fields : List (Member α)} {a b : α}

/-- Records with one message agree in every member. -/
theorem same_of_members (hnodup : (fields.map Member.name).Nodup)
    (h : utf8 (canonicalJson (Json.members fields a))
      = utf8 (canonicalJson (Json.members fields b))) :
    ∀ f ∈ fields, f.same a b :=
  members_same hnodup (Json.reorder_inj_of_write
    (Json.plain_members fields a) (Json.plain_members fields b)
    (utf8_inj h))

theorem same_of_domain {domain : String}
    (hnodup : (fields.map Member.name).Nodup)
    (h : Runtime.domainBytes domain (Json.members fields a)
      = Runtime.domainBytes domain (Json.members fields b)) :
    ∀ f ∈ fields, f.same a b := by
  have hjson := List.append_cancel_left h
  rw [List.cons.injEq] at hjson
  exact same_of_members hnodup hjson.2

theorem same_of_contract {contract : String}
    (hnodup : (fields.map Member.name).Nodup)
    (hfresh : "contract".toList ∉ fields.map Member.name)
    (h : utf8 (canonicalJson (contractJson contract fields a))
      = utf8 (canonicalJson (contractJson contract fields b))) :
    ∀ f ∈ fields, f.same a b := by
  have hall : ((Member.const "contract" contract :: fields).map
      (Member.name (α := α))).Nodup := by
    rw [List.map_cons, List.nodup_cons]
    exact ⟨hfresh, hnodup⟩
  intro f hf
  exact same_of_members hall h f (List.mem_cons_of_mem _ hf)

end Messages

theorem TaskPacketV1.eq_of_message {p q : TaskPacketV1}
    (h : p.message = q.message) (hdigest : p.packetDigest = q.packetDigest) :
    p = q := by
  have hsame := same_of_domain nodup_fields h
  cases p
  cases q
  simp only [fields, List.forall_mem_cons, Member.same_of] at hsame
  simp only [mk.injEq]
  tauto

theorem RunManifestV1.eq_of_message {m n : RunManifestV1}
    (h : m.message = n.message)
    (hdigest : m.manifestDigest = n.manifestDigest) : m = n := by
  have hsame := same_of_domain nodup_fields h
  cases m
  cases n
  simp only [fields, List.forall_mem_cons, Member.same_of] at hsame
  simp only [mk.injEq]
  tauto

theorem WorkspaceResultV1.eq_of_message {r s : WorkspaceResultV1}
    (h : r.message = s.message)
    (hdigest : r.workspaceResultDigest = s.workspaceResultDigest) :
    r = s := by
  have hsame := same_of_domain nodup_fields h
  cases r
  cases s
  simp only [fields, List.forall_mem_cons, Member.same_of] at hsame
  simp only [mk.injEq]
  tauto

theorem WorkspaceSnapshotV1.eq_of_message {s t : WorkspaceSnapshotV1}
    (h : s.message = t.message)
    (hdigest : s.workspaceSnapshotDigest = t.workspaceSnapshotDigest) :
    s = t := by
  have hsame := same_of_contract nodup_fields (by decide) h
  cases s
  cases t
  simp only [fields, List.forall_mem_cons, Member.same_of] at hsame
  simp only [mk.injEq]
  tauto

theorem ArtifactAttestationV1.eq_of_message {a c : ArtifactAttestationV1}
    (h : a.message = c.message)
    (hdigest : a.artifactAttestationDigest = c.artifactAttestationDigest) :
    a = c := by
  have hsame := same_of_contract nodup_fields (by decide) h
  cases a
  cases c
  simp only [fields, List.forall_mem_cons, Member.same_of] at hsame
  simp only [mk.injEq]
  tauto

theorem ArtifactProposal.eq_of_message {p q : ArtifactProposal}
    (h : p.message = q.message)
    (hkey : p.idempotencyKey = q.idempotencyKey) : p = q := by
  have hsame := same_of_members nodup_fields h
  cases p
  cases q
  simp only [fields, body, List.forall_mem_cons, Member.same_of,
    Member.same_nested] at hsame
  simp only [mk.injEq]
  tauto

theorem TerminalProposal.eq_of_message {p q : TerminalProposal}
    (h : p.message = q.message)
    (hkey : p.idempotencyKey = q.idempotencyKey) : p = q := by
  have hsame := same_of_members nodup_fields h
  cases p
  cases q
  simp only [fields, body, List.forall_mem_cons, Member.same_of,
    Member.same_nested] at hsame
  simp only [mk.injEq]
  tauto

theorem SemanticValidationInputsV1.eq_of_message
    {v w : SemanticValidationInputsV1} (h : v.message = w.message) :
    v = w := by
  have hsame := same_of_contract nodup_fields (by decide) h
  cases v
  cases w
  simp only [fields, List.forall_mem_cons, Member.same_of] at hsame
  simp only [mk.injEq]
  tauto

theorem SemanticExecutionBindingV1.eq_of_message
    {b c : SemanticExecutionBindingV1} (h : b.message = c.message) :
    b = c := by
  have hsame := same_of_contract nodup_fields (by decide) h
  cases b
  cases c
  simp only [fields, List.forall_mem_cons, Member.same_of] at hsame
  simp only [mk.injEq]
  tauto

theorem SemanticBridgeResult.digests_of_message {rt : Runtime}
    {r s : SemanticBridgeResult} (h : r.message rt = s.message rt) :
    r.binding.digest rt = s.binding.digest rt
      ∧ r.validationInputs.digest rt = s.validationInputs.digest rt := by
  have hsame := same_of_contract (by decide) (by decide) h
  simp only [Digests.fields, List.forall_mem_cons, Member.same_of] at hsame
  exact ⟨hsame.1, hsame.2.1⟩

-- ====================================================== what was checked

/-- A loop that only checks passes when each of its checks does. -/
theorem forM_ok {α : Type} {f : α → Except Raised Unit} {as : List α}
    {u : Unit} : as.forM f = .ok u ↔ ∀ a ∈ as, f a = .ok () := by
  induction as with
  | nil =>
      simp only [List.not_mem_nil, false_implies, implies_true, iff_true]
      rfl
  | cons a as ih =>
      show (f a >>= fun _ => as.forM f) = .ok u ↔ _
      rw [bind_ok, List.forall_mem_cons, ← ih]
      constructor
      · rintro ⟨⟨⟩, ha, has⟩
        exact ⟨ha, has⟩
      · rintro ⟨ha, has⟩
        exact ⟨(), ha, has⟩

section Checks

variable {rt : Runtime}

theorem validatedPacket_ok {p q : TaskPacketV1}
    (h : validatedPacket rt p = .ok q) :
    q = p ∧ p.packetDigest = (rt.sha256 p.message).text := by
  unfold validatedPacket TaskPacketV1.fromDict at h
  by_cases haccepts : p.accepts rt = true
  · rw [if_pos haccepts] at h
    simp only [bind_ok, require_ok, decide_eq_true_eq] at h
    obtain ⟨_, hparsed, _, _, hq⟩ := h
    refine ⟨(Except.ok.inj hq).symm, ?_⟩
    exact (congrArg TaskPacketV1.packetDigest hparsed).symm
  · rw [if_neg haccepts] at h
    cases h

theorem validatedManifest_ok {p : TaskPacketV1} {m n : RunManifestV1}
    (h : validatedManifest rt p m = .ok n) :
    n = m ∧ m.manifestDigest = (rt.sha256 m.message).text := by
  unfold validatedManifest RunManifestV1.fromPacket at h
  cases hparse : rt.fromisoformat m.deadline with
  | none =>
      rw [hparse] at h
      cases h
  | some deadline =>
      rw [hparse] at h
      simp only [Option.map_some, bind_ok, require_ok, decide_eq_true_eq]
        at h
      obtain ⟨_, hexpected, hn⟩ := h
      refine ⟨(Except.ok.inj hn).symm, ?_⟩
      rw [hexpected]
      rfl

theorem validatedSnapshot_ok {s t : WorkspaceSnapshotV1}
    (h : validatedSnapshot rt s = .ok t) :
    t = s ∧ s.workspaceSnapshotDigest = (rt.sha256 s.message).text := by
  unfold validatedSnapshot WorkspaceSnapshotV1.fromDict at h
  by_cases haccepts : (s.accepts
      && s.workspaceSnapshotDigest == (rt.sha256 s.message).text) = true
  · rw [if_pos haccepts] at h
    simp only [bind_ok] at h
    obtain ⟨_, _, ht⟩ := h
    rw [Bool.and_eq_true, beq_iff_eq] at haccepts
    exact ⟨(Except.ok.inj ht).symm, haccepts.2⟩
  · rw [if_neg haccepts] at h
    cases h

theorem validatedResult_ok {r s : WorkspaceResultV1}
    (h : validatedResult rt r = .ok s) :
    s = r ∧ r.workspaceResultDigest = (rt.sha256 r.message).text := by
  unfold validatedResult WorkspaceResultV1.fromDict at h
  by_cases haccepts : (r.accepts rt
      && r.workspaceResultDigest == (rt.sha256 r.message).text) = true
  · rw [if_pos haccepts] at h
    simp only [bind_ok] at h
    obtain ⟨_, _, _, _, _, _, hs⟩ := h
    rw [Bool.and_eq_true, beq_iff_eq] at haccepts
    exact ⟨(Except.ok.inj hs).symm, haccepts.2⟩
  · rw [if_neg haccepts] at h
    cases h

theorem validatedTerminal_ok {packet : TaskPacketV1}
    {p q : TerminalProposal} (h : validatedTerminal rt packet p = .ok q) :
    q = p ∧ p.idempotencyKey = (rt.sha256 p.message).text := by
  simp only [validatedTerminal, bind_ok, require_ok, beq_iff_eq] at h
  obtain ⟨_, hkey, _, _, hq⟩ := h
  exact ⟨(Except.ok.inj hq).symm, hkey.symm⟩

theorem checkProposal_ok {packet : TaskPacketV1} {p : ArtifactProposal}
    (h : checkProposal rt packet p = .ok ()) :
    p.idempotencyKey = (rt.sha256 p.message).text := by
  simp only [checkProposal, bind_ok, require_ok, beq_iff_eq] at h
  obtain ⟨_, hkey, _⟩ := h
  exact hkey.symm

theorem checkAttestation_ok {packet : TaskPacketV1}
    {a : ArtifactAttestationV1}
    (h : checkAttestation rt packet a = .ok ()) :
    a.artifactAttestationDigest = (rt.sha256 a.message).text := by
  simp only [checkAttestation, bind_ok, require_ok, decide_eq_true_eq] at h
  obtain ⟨_, hparsed, _⟩ := h
  unfold ArtifactAttestationV1.fromDict at hparsed
  by_cases haccepts : (a.accepts rt && a.artifactAttestationDigest
      == (rt.sha256 a.message).text) = true
  · rw [Bool.and_eq_true, beq_iff_eq] at haccepts
    exact haccepts.2
  · rw [if_neg haccepts] at hparsed
    cases hparsed

/-- A proposal that passed has its attestation among those given. -/
theorem checkMatch_ok {attestations : List ArtifactAttestationV1}
    {p : ArtifactProposal} (h : checkMatch attestations p = .ok ()) :
    ∃ a ∈ attestations,
      a.artifactAttestationDigest = p.artifactAttestationDigest
        ∧ Matches p a := by
  unfold checkMatch at h
  cases hfind : attestations.find? fun a =>
      a.artifactAttestationDigest == p.artifactAttestationDigest with
  | none =>
      rw [hfind] at h
      cases h
  | some a =>
      rw [hfind] at h
      have hmatch := of_decide_eq_true (require_ok.mp h)
      have hdigest := List.find?_some hfind
      exact ⟨a, List.mem_of_find?_eq_some hfind, eq_of_beq hdigest, hmatch⟩

/-- What `_validated_artifacts` has checked of the lists it was given. -/
structure Artifacts (rt : Runtime) (proposals : List ArtifactProposal)
    (attestations : List ArtifactAttestationV1) : Prop where
  keys : (proposals.map (·.idempotencyKey)).Nodup
  digests : (attestations.map (·.artifactAttestationDigest)).Nodup
  keyed : ∀ p ∈ proposals, p.idempotencyKey = (rt.sha256 p.message).text
  sealed : ∀ a ∈ attestations,
    a.artifactAttestationDigest = (rt.sha256 a.message).text
  count : proposals.length = attestations.length
  found : ∀ p ∈ proposals, ∃ a ∈ attestations,
    a.artifactAttestationDigest = p.artifactAttestationDigest ∧ Matches p a

theorem validatedArtifacts_ok {packet : TaskPacketV1}
    {proposals : List ArtifactProposal}
    {attestations : List ArtifactAttestationV1}
    {sorted : List ArtifactProposal × List ArtifactAttestationV1}
    (h : validatedArtifacts rt packet proposals attestations = .ok sorted) :
    sorted = (sortedBy ArtifactProposal.idempotencyKey proposals,
        sortedBy ArtifactAttestationV1.artifactAttestationDigest
          attestations)
      ∧ Artifacts rt proposals attestations := by
  have hproposals := sortedBy_perm_self ArtifactProposal.idempotencyKey
    proposals
  have hattestations := sortedBy_perm_self
    ArtifactAttestationV1.artifactAttestationDigest attestations
  simp only [validatedArtifacts, bind_ok, require_ok, decide_eq_true_eq,
    beq_iff_eq] at h
  obtain ⟨_, _, _, _, _, hkeys, _, hdigests, _, hkeyed, _, hsealed, _,
    hcount, _, hfound, hsorted⟩ := h
  rw [forM_ok] at hkeyed hsealed hfound
  refine ⟨(Except.ok.inj hsorted).symm, ?_⟩
  refine ⟨(hproposals.map _).nodup_iff.mp hkeys,
    (hattestations.map _).nodup_iff.mp hdigests, ?_, ?_, ?_, ?_⟩
  · intro p hp
    exact checkProposal_ok (hkeyed p (hproposals.mem_iff.mpr hp))
  · intro a ha
    exact checkAttestation_ok (hsealed a (hattestations.mem_iff.mpr ha))
  · rw [← hproposals.length_eq, hcount, hattestations.length_eq]
  · intro p hp
    obtain ⟨a, ha, hdigest, hmatch⟩ :=
      checkMatch_ok (hfound p (hproposals.mem_iff.mpr hp))
    exact ⟨a, hattestations.mem_iff.mp ha, hdigest, hmatch⟩

/-- What an accepted bundle satisfies, and the evidence it is read as. -/
structure Checked (rt : Runtime) (b : Bundle) (e : Evidence) : Prop where
  packet : e.packet = b.packet
    ∧ b.packet.packetDigest = (rt.sha256 b.packet.message).text
  manifest : e.manifest = b.manifest
    ∧ b.manifest.manifestDigest = (rt.sha256 b.manifest.message).text
  snapshot : e.snapshot = b.snapshot ∧ b.snapshot.workspaceSnapshotDigest
    = (rt.sha256 b.snapshot.message).text
  result : e.result = b.result
    ∧ b.result.workspaceResultDigest = (rt.sha256 b.result.message).text
  terminal : e.terminal = b.terminalProposal
    ∧ b.terminalProposal.idempotencyKey
      = (rt.sha256 b.terminalProposal.message).text
  proposals : e.artifacts
    = sortedBy ArtifactProposal.idempotencyKey b.artifactProposals
  attestations : e.attestations
    = sortedBy ArtifactAttestationV1.artifactAttestationDigest
      b.artifactAttestations
  artifacts : Artifacts rt b.artifactProposals b.artifactAttestations
  sequences : (b.artifactProposals.map (·.sequence)).Nodup
  before : ∀ p ∈ b.artifactProposals,
    p.sequence < b.terminalProposal.sequence

theorem evidence_checked {b : Bundle} {e : Evidence}
    (h : b.evidence rt = .ok e) : Checked rt b e := by
  simp only [Bundle.evidence, bind_ok, require_ok, Bool.and_eq_true,
    decide_eq_true_eq, List.all_eq_true] at h
  obtain ⟨packet, hpacket, manifest, hmanifest, snapshot, hsnapshot, result,
    hresult, terminal, hterminal, sorted, hsorted, _,
    ⟨hsequences, hbefore⟩, inputs, _, he⟩ := h
  obtain rfl := Except.ok.inj he
  obtain ⟨rfl, hpacketDigest⟩ := validatedPacket_ok hpacket
  obtain ⟨rfl, hmanifestDigest⟩ := validatedManifest_ok hmanifest
  obtain ⟨rfl, hsnapshotDigest⟩ := validatedSnapshot_ok hsnapshot
  obtain ⟨rfl, hresultDigest⟩ := validatedResult_ok hresult
  obtain ⟨rfl, hterminalDigest⟩ := validatedTerminal_ok hterminal
  obtain ⟨rfl, hartifacts⟩ := validatedArtifacts_ok hsorted
  have hperm := sortedBy_perm_self ArtifactProposal.idempotencyKey
    b.artifactProposals
  refine ⟨⟨rfl, hpacketDigest⟩, ⟨rfl, hmanifestDigest⟩,
    ⟨rfl, hsnapshotDigest⟩, ⟨rfl, hresultDigest⟩, ⟨rfl, hterminalDigest⟩,
    rfl, rfl, hartifacts, (hperm.map _).nodup_iff.mp hsequences, ?_⟩
  intro p hp
  exact hbefore p.sequence
    (List.mem_map_of_mem (hperm.mem_iff.mpr hp))

/-- The two halves of an accepted call. -/
theorem build_checked {b : Bundle} {r : SemanticBridgeResult}
    (h : buildSemanticSubject rt b = .ok r) :
    ∃ e, Checked rt b e ∧ e.build rt = .ok r := by
  unfold buildSemanticSubject at h
  rw [bind_ok] at h
  obtain ⟨e, hevidence, hbuild⟩ := h
  exact ⟨e, evidence_checked hevidence, hbuild⟩

theorem fromDict_binding {b c : SemanticExecutionBindingV1}
    (h : SemanticExecutionBindingV1.fromDict rt b = .ok c) : c = b := by
  simp only [SemanticExecutionBindingV1.fromDict, bind_ok] at h
  obtain ⟨_, _, hc⟩ := h
  exact (Except.ok.inj hc).symm

/-- What is built of the evidence. -/
theorem build_result {e : Evidence} {r : SemanticBridgeResult}
    (h : e.build rt = .ok r) :
    r.binding = e.binding ∧ r.validationInputs = e.inputs := by
  simp only [Evidence.build, bind_ok] at h
  obtain ⟨_, _, binding, hbinding, subject, _, hr⟩ := h
  obtain rfl := Except.ok.inj hr
  exact ⟨fromDict_binding hbinding, rfl⟩

end Checks

-- ============================================================ the pairs

/-- Choices for each of a list, made one after another. -/
theorem exists_forall₂ {α β : Type} {R : α → β → Prop} {as : List α}
    {bs : List β} (h : ∀ a ∈ as, ∃ b ∈ bs, R a b) :
    ∃ order, List.Forall₂ R as order ∧ ∀ b ∈ order, b ∈ bs := by
  induction as with
  | nil => exact ⟨[], .nil, by simp⟩
  | cons a as ih =>
      rw [List.forall_mem_cons] at h
      obtain ⟨⟨b, hb, hab⟩, hrest⟩ := h
      obtain ⟨order, horder, hmem⟩ := ih hrest
      refine ⟨b :: order, .cons hab horder, ?_⟩
      rw [List.forall_mem_cons]
      exact ⟨hb, hmem⟩

/-- The artifacts of a bundle and their attestations, one to one. -/
structure Paired (b : Bundle) : Prop where
  matched : ∃ order, order.Perm b.artifactAttestations
    ∧ List.Forall₂ Matches b.artifactProposals order
  sequences : (b.artifactProposals.map (·.sequence)).Nodup
  before : ∀ p ∈ b.artifactProposals,
    p.sequence < b.terminalProposal.sequence

theorem sequences_of_matches {proposals : List ArtifactProposal}
    {order : List ArtifactAttestationV1}
    (h : List.Forall₂ Matches proposals order) :
    proposals.map (·.sequence) = order.map (·.producerSequence) := by
  induction h with
  | nil => rfl
  | cons hmatch _ ih => rw [List.map_cons, List.map_cons, hmatch.1, ih]

theorem Checked.paired {rt : Runtime} {b : Bundle} {e : Evidence}
    (h : Checked rt b e) : Paired b := by
  have hmatches : ∀ p ∈ b.artifactProposals,
      ∃ a ∈ b.artifactAttestations, Matches p a := by
    intro p hp
    obtain ⟨a, ha, _, hmatch⟩ := h.artifacts.found p hp
    exact ⟨a, ha, hmatch⟩
  obtain ⟨order, horder, hmem⟩ := exists_forall₂ hmatches
  -- no attestation is found twice, for the sequences are distinct
  have hnodup : order.Nodup := by
    have hsequences := h.sequences
    rw [sequences_of_matches horder] at hsequences
    exact hsequences.of_map
  have hcount : b.artifactAttestations.length ≤ order.length := by
    have hlength := horder.length_eq
    have hgiven := h.artifacts.count
    omega
  have hperm : order.Perm b.artifactAttestations :=
    (List.subperm_of_subset hnodup hmem).perm_of_length_le hcount
  exact ⟨⟨order, hperm, horder⟩, h.sequences, h.before⟩

-- ============================================================ the order

section Order

variable (rt : Runtime) (packet : TaskPacketV1)

theorem require_false_bind {α : Type} (code : String)
    (f : Unit → Except Raised α) :
    (require false code >>= f) = .error (.contract code []) := rfl

/-- The order the artifacts are supplied in does not matter. -/
theorem validatedArtifacts_perm {ps qs : List ArtifactProposal}
    {as bs : List ArtifactAttestationV1} (hp : ps.Perm qs)
    (ha : as.Perm bs) :
    validatedArtifacts rt packet ps as
      = validatedArtifacts rt packet qs bs := by
  have hkeys (l : List ArtifactProposal) :
      ((sortedBy ArtifactProposal.idempotencyKey l).map
        (·.idempotencyKey)).Nodup ↔ (l.map (·.idempotencyKey)).Nodup :=
    ((sortedBy_perm_self _ l).map _).nodup_iff
  have hdigests (l : List ArtifactAttestationV1) :
      ((sortedBy ArtifactAttestationV1.artifactAttestationDigest l).map
        (·.artifactAttestationDigest)).Nodup
        ↔ (l.map (·.artifactAttestationDigest)).Nodup :=
    ((sortedBy_perm_self _ l).map _).nodup_iff
  unfold validatedArtifacts
  rw [hp.length_eq, ha.length_eq]
  by_cases hpnodup : (ps.map (·.idempotencyKey)).Nodup
  · rw [sortedBy_perm hp hpnodup]
    by_cases hanodup : (as.map (·.artifactAttestationDigest)).Nodup
    · rw [sortedBy_perm ha hanodup]
    · have hbnodup := hanodup
      rw [(ha.map _).nodup_iff] at hbnodup
      rw [← hdigests] at hanodup hbnodup
      simp only [hanodup, hbnodup, decide_false, require_false_bind]
  · have hqnodup := hpnodup
    rw [(hp.map _).nodup_iff] at hqnodup
    rw [← hkeys] at hpnodup hqnodup
    simp only [hpnodup, hqnodup, decide_false, require_false_bind]

theorem buildSemanticSubject_perm (b : Bundle)
    {ps : List ArtifactProposal} {as : List ArtifactAttestationV1}
    (hp : ps.Perm b.artifactProposals)
    (ha : as.Perm b.artifactAttestations) :
    buildSemanticSubject rt
        { b with artifactProposals := ps, artifactAttestations := as }
      = buildSemanticSubject rt b := by
  unfold buildSemanticSubject Bundle.evidence
  simp only [validatedArtifacts_perm rt _ hp ha]

end Order

-- ========================================================== the envelope

section Envelope

variable (rt : Runtime)

/-- What is hashed of a bundle and of what is built of it. -/
def messages (b : Bundle) (r : SemanticBridgeResult) :
    List (List UInt8) :=
  [r.message rt, r.binding.message, r.validationInputs.message,
    b.packet.message, b.manifest.message, b.snapshot.message,
    b.result.message, b.terminalProposal.message]
    ++ b.artifactProposals.map (·.message)
    ++ b.artifactAttestations.map (·.message)

/-- SHA-256 tells the messages of two lists apart. -/
def CollisionFree (ms ms' : List (List UInt8)) : Prop :=
  ∀ m ∈ ms, ∀ m' ∈ ms', rt.sha256 m = rt.sha256 m' → m = m'

variable {rt}

theorem mem_messages_proposal {b : Bundle} {r : SemanticBridgeResult}
    {p : ArtifactProposal} (h : p ∈ b.artifactProposals) :
    p.message ∈ messages rt b r := by
  unfold messages
  rw [List.mem_append, List.mem_append]
  exact .inl (.inr (List.mem_map_of_mem h))

theorem mem_messages_attestation {b : Bundle} {r : SemanticBridgeResult}
    {a : ArtifactAttestationV1} (h : a ∈ b.artifactAttestations) :
    a.message ∈ messages rt b r := by
  unfold messages
  rw [List.mem_append]
  exact .inr (List.mem_map_of_mem h)

theorem CollisionFree.told {ms ms' : List (List UInt8)}
    (h : CollisionFree rt ms ms') {m m' : List UInt8} (hm : m ∈ ms)
    (hm' : m' ∈ ms') {t t' : Text} (ht : t = (rt.sha256 m).text)
    (ht' : t' = (rt.sha256 m').text) (heq : t = t') : m = m' := by
  refine h m hm m' hm' (Factory.Digest.ext_text ?_)
  rw [← ht, ← ht', heq]

/-- The evidence of two bundles, with the lists taken as sets. -/
structure SameEvidence (b b' : Bundle)
    (inputs inputs' : SemanticValidationInputsV1) : Prop where
  packet : b.packet = b'.packet
  manifest : b.manifest = b'.manifest
  snapshot : b.snapshot = b'.snapshot
  result : b.result = b'.result
  terminalProposal : b.terminalProposal = b'.terminalProposal
  validationInputs : inputs = inputs'
  proposals : ∀ p, p ∈ b.artifactProposals ↔ p ∈ b'.artifactProposals
  attestations : ∀ a,
    a ∈ b.artifactAttestations ↔ a ∈ b'.artifactAttestations

variable {b b' : Bundle} {e e' : Evidence} {r r' : SemanticBridgeResult}

/-- Of the same evidence the same is built. -/
theorem Checked.evidence_eq (h : Checked rt b e) (h' : Checked rt b' e')
    (hsame : SameEvidence b b' e.inputs e'.inputs) : e = e' := by
  have hproposals : b.artifactProposals.Perm b'.artifactProposals :=
    (List.perm_ext_iff_of_nodup h.artifacts.keys.of_map
      h'.artifacts.keys.of_map).mpr hsame.proposals
  have hattestations :
      b.artifactAttestations.Perm b'.artifactAttestations :=
    (List.perm_ext_iff_of_nodup h.artifacts.digests.of_map
      h'.artifacts.digests.of_map).mpr hsame.attestations
  have hartifacts : e.artifacts = e'.artifacts := by
    rw [h.proposals, h'.proposals]
    exact sortedBy_perm hproposals h.artifacts.keys
  have hsealed : e.attestations = e'.attestations := by
    rw [h.attestations, h'.attestations]
    exact sortedBy_perm hattestations h.artifacts.digests
  have hpacket : e.packet = e'.packet := by
    rw [h.packet.1, h'.packet.1, hsame.packet]
  have hmanifest : e.manifest = e'.manifest := by
    rw [h.manifest.1, h'.manifest.1, hsame.manifest]
  have hsnapshot : e.snapshot = e'.snapshot := by
    rw [h.snapshot.1, h'.snapshot.1, hsame.snapshot]
  have hresult : e.result = e'.result := by
    rw [h.result.1, h'.result.1, hsame.result]
  have hterminal : e.terminal = e'.terminal := by
    rw [h.terminal.1, h'.terminal.1, hsame.terminalProposal]
  exact Evidence.ext hpacket hmanifest hsnapshot hresult hterminal
    hartifacts hsealed hsame.validationInputs

/-- Lists with the same keys have the same members, when a key tells. -/
theorem mem_of_keys {α : Type} {key : α → Text} {as bs cs ds : List α}
    (has : as.Perm cs) (hbs : bs.Perm ds) (h : as.map key = bs.map key)
    (htold : ∀ a ∈ cs, ∀ b ∈ ds, key a = key b → a = b) {a : α}
    (ha : a ∈ cs) : a ∈ ds := by
  have hkey : key a ∈ as.map key :=
    List.mem_map_of_mem (has.mem_iff.mpr ha)
  rw [h] at hkey
  obtain ⟨b, hb, heq⟩ := List.mem_map.mp hkey
  have hb' := hbs.mem_iff.mp hb
  rw [htold a ha b hb' heq.symm]
  exact hb'

/-- From one binding to one evidence. -/
theorem Checked.same (h : Checked rt b e) (h' : Checked rt b' e')
    (hfree : CollisionFree rt (messages rt b r) (messages rt b' r'))
    (hbinding : e.binding = e'.binding) (hinputs : e.inputs = e'.inputs) :
    SameEvidence b b' e.inputs e'.inputs := by
  have hpart : b.packet.packetDigest = b'.packet.packetDigest
      ∧ b.manifest.manifestDigest = b'.manifest.manifestDigest
      ∧ b.snapshot.workspaceSnapshotDigest
        = b'.snapshot.workspaceSnapshotDigest
      ∧ b.result.workspaceResultDigest = b'.result.workspaceResultDigest
      ∧ b.terminalProposal.idempotencyKey
        = b'.terminalProposal.idempotencyKey := by
    have hdigests := hbinding
    simp only [Evidence.binding, h.packet.1, h'.packet.1, h.manifest.1,
      h'.manifest.1, h.snapshot.1, h'.snapshot.1, h.result.1, h'.result.1,
      h.terminal.1, h'.terminal.1, SemanticExecutionBindingV1.mk.injEq]
      at hdigests
    tauto
  obtain ⟨hpacket, hmanifest, hsnapshot, hresult, hterminal⟩ := hpart
  have hkeys : e.artifacts.map (·.idempotencyKey)
      = e'.artifacts.map (·.idempotencyKey) :=
    congrArg SemanticExecutionBindingV1.artifactProposalDigests hbinding
  have hdigests : e.attestations.map (·.artifactAttestationDigest)
      = e'.attestations.map (·.artifactAttestationDigest) :=
    congrArg SemanticExecutionBindingV1.artifactAttestationDigests hbinding
  rw [h.proposals, h'.proposals] at hkeys
  rw [h.attestations, h'.attestations] at hdigests
  have hproposals := sortedBy_perm_self ArtifactProposal.idempotencyKey
  have hattestations := sortedBy_perm_self
    ArtifactAttestationV1.artifactAttestationDigest
  -- a key tells a proposal, and a digest an attestation
  have hproposal : ∀ p ∈ b.artifactProposals, ∀ q ∈ b'.artifactProposals,
      p.idempotencyKey = q.idempotencyKey → p = q := by
    intro p hp q hq heq
    refine ArtifactProposal.eq_of_message ?_ heq
    exact hfree.told (mem_messages_proposal hp) (mem_messages_proposal hq)
      (h.artifacts.keyed p hp) (h'.artifacts.keyed q hq) heq
  have hattestation : ∀ a ∈ b.artifactAttestations,
      ∀ c ∈ b'.artifactAttestations,
      a.artifactAttestationDigest = c.artifactAttestationDigest → a = c := by
    intro a ha c hc heq
    refine ArtifactAttestationV1.eq_of_message ?_ heq
    exact hfree.told (mem_messages_attestation ha)
      (mem_messages_attestation hc) (h.artifacts.sealed a ha) (h'.artifacts.sealed c hc) heq
  refine ⟨?_, ?_, ?_, ?_, ?_, hinputs, ?_, ?_⟩
  · refine TaskPacketV1.eq_of_message ?_ hpacket
    exact hfree.told (by simp [messages]) (by simp [messages]) h.packet.2
      h'.packet.2 hpacket
  · refine RunManifestV1.eq_of_message ?_ hmanifest
    exact hfree.told (by simp [messages]) (by simp [messages])
      h.manifest.2 h'.manifest.2 hmanifest
  · refine WorkspaceSnapshotV1.eq_of_message ?_ hsnapshot
    exact hfree.told (by simp [messages]) (by simp [messages])
      h.snapshot.2 h'.snapshot.2 hsnapshot
  · refine WorkspaceResultV1.eq_of_message ?_ hresult
    exact hfree.told (by simp [messages]) (by simp [messages]) h.result.2
      h'.result.2 hresult
  · refine TerminalProposal.eq_of_message ?_ hterminal
    exact hfree.told (by simp [messages]) (by simp [messages])
      h.terminal.2 h'.terminal.2 hterminal
  · intro p
    constructor
    · exact mem_of_keys (hproposals _) (hproposals _) hkeys hproposal
    · refine mem_of_keys (hproposals _) (hproposals _) hkeys.symm ?_
      intro q hq p hp heq
      exact (hproposal p hp q hq heq.symm).symm
  · intro a
    constructor
    · exact mem_of_keys (hattestations _) (hattestations _) hdigests
        hattestation
    · refine mem_of_keys (hattestations _) (hattestations _)
        hdigests.symm ?_
      intro c hc a ha heq
      exact (hattestation a ha c hc heq.symm).symm

/-- Equal envelopes come of equal bindings and equal inputs. -/
theorem parts_of_envelope
    (hfree : CollisionFree rt (messages rt b r) (messages rt b' r'))
    (h : r.envelopeDigest rt = r'.envelopeDigest rt) :
    r.binding = r'.binding ∧ r.validationInputs = r'.validationInputs := by
  have hmessage : r.message rt = r'.message rt :=
    hfree.told (by simp [messages]) (by simp [messages]) rfl rfl h
  obtain ⟨hbinding, hinputs⟩ :=
    SemanticBridgeResult.digests_of_message hmessage
  constructor
  · refine SemanticExecutionBindingV1.eq_of_message ?_
    exact hfree.told (by simp [messages]) (by simp [messages]) rfl rfl
      hbinding
  · refine SemanticValidationInputsV1.eq_of_message ?_
    exact hfree.told (by simp [messages]) (by simp [messages]) rfl rfl
      hinputs

end Envelope

-- ============================================================= the result

/-- The envelope of an accepted bundle is one of its evidence, whatever
order the artifacts came in, and these are paired with attestations. -/
theorem subject_binds_bundle {rt : Runtime} {b b' : Bundle}
    {r r' : SemanticBridgeResult} (h : buildSemanticSubject rt b = .ok r)
    (h' : buildSemanticSubject rt b' = .ok r')
    (hfree : CollisionFree rt (messages rt b r) (messages rt b' r')) :
    (r.envelopeDigest rt = r'.envelopeDigest rt ↔
        SameEvidence b b' r.validationInputs r'.validationInputs)
      ∧ (∀ ps as, ps.Perm b.artifactProposals →
        as.Perm b.artifactAttestations →
        buildSemanticSubject rt
          { b with artifactProposals := ps, artifactAttestations := as }
          = .ok r)
      ∧ Paired b := by
  obtain ⟨e, hchecked, hbuild⟩ := build_checked h
  obtain ⟨e', hchecked', hbuild'⟩ := build_checked h'
  obtain ⟨hbinding, hinputs⟩ := build_result hbuild
  obtain ⟨hbinding', hinputs'⟩ := build_result hbuild'
  refine ⟨⟨?_, ?_⟩, ?_, hchecked.paired⟩
  · intro henvelope
    obtain ⟨hparts, hread⟩ := parts_of_envelope hfree henvelope
    rw [hbinding, hbinding'] at hparts
    rw [hinputs, hinputs'] at hread ⊢
    exact hchecked.same hchecked' hfree hparts hread
  · intro hsame
    rw [hinputs, hinputs'] at hsame
    have hevidence := hchecked.evidence_eq hchecked' hsame
    rw [← hevidence, hbuild] at hbuild'
    rw [Except.ok.inj hbuild']
  · intro ps as hp ha
    rw [buildSemanticSubject_perm rt b hp ha]
    exact h

-- ========================================================== a small case

/-- The digest of a text that has the form of one. -/
def digestOf (t : Text) : Digest :=
  if h : t.length = 64 ∧ ∀ c ∈ t, ('0' ≤ c ∧ c ≤ '9') ∨ ('a' ≤ c ∧ c ≤ 'f')
  then ⟨t, Digest.length_of h, Digest.hex_of h⟩ else .genesis

/-- SHA-256 of what a small bundle hashes, by two bytes of a message. -/
def smallDigests : List ((UInt8 × UInt8) × Nat) := [
  ((112, 117),
    0x60a41eaa3d01c967c7d4522ef5ebf293ebe3afe2feddbc4a7fdc6497eee967e7),
  ((112, 114),
    0x3bfe410ed4e3c608ebc5db38286da5cd35c4bfd74378865ad3cc27291cfa45fa),
  ((111, 118),
    0x01f02aa0ac1355343118b871b9a057ad20e525b28218e13a4c0f263e027e96f2),
  ((114, 116),
    0xb6e9c8a85fb94f5eb46b645dd5bee8da79627bee8ceafe3a61108d789889ed9d),
  ((114, 112),
    0xcb63ef92e155d2df632786b26692b37803ba216d64b6f88eaca74543cebcd2ef),
  ((117, 98),
    0x57cb2edf6bccf17ee37bd603725270d4f75ab2fa27a7b7b0f869f8a722b074a9),
  ((117, 99),
    0x4a0e595d2e43996a07105180bb83a00828efbbfd7abe90ae63bcc3e2cdc98c8d),
  ((117, 116),
    0x0d302ef0b56ae826f617f85713bb60ac71c46a625e8dd5b1634cd6d478924888),
  ((112, 49),
    0x320d72fa1dd5c86190d9c395129753b0fd247f9cbcd4697bf780450b5ad0ca16),
  ((112, 34),
    0xb9b000499f09ba047337576df23b98522c727e39292fbaf7837ee0b82e04a696),
  ((117, 50),
    0x32a98dde5e42dd77ab3c448f325dd544f21288173ecd32dcd285b9fae0696df1),
  ((114, 56),
    0x8480024b97e1f58a27de4dc17c319d5396f40f1f5438a47a34827a63dc8b5a28),
  ((111, 105),
    0xe44d71097c42105bba58411f42066f092a22491a024360a2f2ada6c70da3568d),
  ((114, 50),
    0x5ded600e2168a9f6c29dfff0938cc35931ff8489f4962cf676b8d781a83e5299),
  ((105, 97),
    0xfd562d3fd835b0ea297f8b7ee3cde4faaf6610f540f9d6605e6de192b8400e5a)]

/-- The digest of the message with these bytes at places 3 and 63. -/
def ofBytes (b c : UInt8) : Text :=
  paddedHexText 64 ((smallDigests.lookup (b, c)).getD 0)

def smallSha (m : List UInt8) : Digest :=
  digestOf (ofBytes (m[3]?.getD 0) (m[63]?.getD 0))

theorem smallInstant_date : 1 ≤ 2026 ∧ 2026 ≤ 9999 ∧ 1 ≤ 1 ∧ 1 ≤ 12 ∧ 1 ≤ 2
    ∧ 2 ≤ Factory.daysInMonth 2026 1 := by decide

theorem smallInstant_time : 3 < 24 ∧ 4 < 60 ∧ 5 < 60 ∧ 0 < 1000000 := by
  decide

def smallRuntime : Runtime where
  sha256 := smallSha
  isNfc _ := true
  fromisoformat t :=
    if t = "2026-01-02T03:04:05Z".toList then
      some ⟨2026, 1, 2, 3, 4, 5, 0, smallInstant_date, smallInstant_time⟩
    else none
  containsStructuralSecret _ := false

def sixtyFour (c : Char) : Text := List.replicate 64 c

def forty (c : Char) : Text := List.replicate 40 c

def smallHandle : Text := "workspace:".toList ++ sixtyFour '0'

def smallPacket : TaskPacketV1 where
  contractVersion := 1
  protocolVersion := protocolVersion
  taskId := ['t']
  runId := ['u']
  owner := ['o']
  fence := 1
  role := "writer".toList
  repositoryId := ['s']
  legacyIntentDigest := sixtyFour 'b'
  authority := ⟨forty 'a', forty 'b', ['r'], ['c'], sixtyFour '1',
    sixtyFour '2', sixtyFour '3', sixtyFour '4', sixtyFour '5',
    sixtyFour '6', sixtyFour '7', sixtyFour '8'⟩
  provider := ⟨['p'], ['d'], "1.0".toList, sixtyFour '9', "2.0".toList,
    sixtyFour 'a', ['m'], [], true⟩
  capabilityPolicy := ⟨[], [], [], [], []⟩
  plan := ⟨stageNames.map fun name => ⟨name, "broker".toList, 1⟩⟩
  workspaceHandle := smallHandle
  acceptanceIds := ["AC-001".toList]
  limits := ⟨60, 0, 0, 0, 10, 0, 1⟩
  packetDigest := ofBytes 112 117

def smallManifest : RunManifestV1 where
  contractVersion := 1
  taskId := ['t']
  runId := ['u']
  packetDigest := ofBytes 112 117
  providerId := ['p']
  adapterId := ['d']
  nativeVersion := "2.0".toList
  modelId := ['m']
  workspaceHandle := smallHandle
  deadline := "2026-01-02T03:04:05Z".toList
  stage := "prepared".toList
  manifestDigest := ofBytes 112 114

def smallSnapshot : WorkspaceSnapshotV1 where
  contractVersion := 1
  repositoryId := ['s']
  workspaceHandle := smallHandle
  inputHeadSha := forty 'b'
  resultHeadSha := forty 'c'
  diffDigest := sixtyFour 'c'
  diffLines := 7
  source := "trusted_git_broker".toList
  workspaceSnapshotDigest := ofBytes 111 118

/-- An attestation, with its digest. -/
def smallAttestation (sequence : Int) (artifactClass path : String)
    (digest : Text) : ArtifactAttestationV1 where
  contractVersion := 1
  taskId := ['t']
  runId := ['u']
  repositoryId := ['s']
  packetDigest := ofBytes 112 117
  workspaceHandle := smallHandle
  producerSequence := sequence
  fence := 1
  authorRole := "writer".toList
  artifactClass := artifactClass.toList
  path := path.toList
  sha256 := sixtyFour 'd'
  sizeBytes := sequence
  mediaType := "text/plain".toList
  source := "trusted_workspace_broker".toList
  artifactAttestationDigest := digest

/-- The proposal of an attestation, with its key. -/
def smallProposal (a : ArtifactAttestationV1) (key : Text) :
    ArtifactProposal where
  taskId := ['t']
  runId := ['u']
  packetDigest := ofBytes 112 117
  fence := 1
  sequence := a.producerSequence
  authorRole := "writer".toList
  artifactClass := a.artifactClass
  path := a.path
  sha256 := a.sha256
  sizeBytes := a.sizeBytes
  mediaType := a.mediaType
  artifactAttestationDigest := a.artifactAttestationDigest
  idempotencyKey := key

def smallTerminal : TerminalProposal where
  taskId := ['t']
  runId := ['u']
  packetDigest := ofBytes 112 117
  fence := 1
  sequence := 4
  authorRole := "writer".toList
  terminalType := "run.completed".toList
  summary := "done".toList
  failureClass := none
  reason := none
  diagnostic := none
  idempotencyKey := ofBytes 117 116

def smallResult : WorkspaceResultV1 where
  contractVersion := 1
  taskId := ['t']
  runId := ['u']
  taskPacketDigest := ofBytes 112 117
  runManifestDigest := ofBytes 112 114
  exactHeadSha := forty 'c'
  workspaceSnapshotDigest := ofBytes 111 118
  terminalStage := "completed".toList
  terminalProposalDigest := ofBytes 117 116
  artifactManifestDigest := ofBytes 112 49
  noteManifestDigest := sixtyFour 'e'
  usageEvidenceDigest := sixtyFour 'e'
  diagnosticsDigest := sixtyFour 'e'
  m4Status := "ready_for_human".toList
  failureClass := none
  failureReason := none
  workspaceResultDigest := ofBytes 112 34

def smallLog : ArtifactAttestationV1 :=
  smallAttestation 2 "log" "log" (ofBytes 114 116)

def smallNotes : ArtifactAttestationV1 :=
  smallAttestation 3 "note" "notes" (ofBytes 114 112)

def smallBundle : Bundle where
  packet := smallPacket
  manifest := smallManifest
  snapshot := smallSnapshot
  result := smallResult
  terminalProposal := smallTerminal
  artifactProposals := [smallProposal smallLog (ofBytes 117 98),
    smallProposal smallNotes (ofBytes 117 99)]
  artifactAttestations := [smallLog, smallNotes]
  validationInputs := .inputs ⟨1, ofBytes 112 34,
    [⟨"acceptance_criterion".toList, "AC-001".toList⟩], sixtyFour 'f',
    sixtyFour 'f', sixtyFour 'f', "low".toList, 100⟩

/-- The bundle is accepted, and nothing that it hashes collides. -/
theorem small_accepted : ∃ r,
    buildSemanticSubject smallRuntime smallBundle = .ok r
      ∧ ((messages smallRuntime smallBundle r).map smallSha).Nodup := by
  have hrun : (match buildSemanticSubject smallRuntime smallBundle with
    | .ok r => decide ((messages smallRuntime smallBundle r).map
        smallSha).Nodup
    | .error _ => false) = true := by
    decide +kernel
  split at hrun
  · next r hbuild => exact ⟨r, hbuild, of_decide_eq_true hrun⟩
  · cases hrun

/-- The same bundle, with the artifacts the other way round. -/
def turnedBundle : Bundle :=
  { smallBundle with
    artifactProposals := smallBundle.artifactProposals.reverse
    artifactAttestations := smallBundle.artifactAttestations.reverse }

/-- The order does not show in the envelope, and the artifacts have their
attestations. -/
theorem subject_binds_bundle_turned : ∃ r,
    buildSemanticSubject smallRuntime smallBundle = .ok r
      ∧ buildSemanticSubject smallRuntime turnedBundle = .ok r
      ∧ SameEvidence smallBundle turnedBundle r.validationInputs
        r.validationInputs
      ∧ Paired smallBundle := by
  obtain ⟨r, hbuild, hnodup⟩ := small_accepted
  have hturned : buildSemanticSubject smallRuntime turnedBundle = .ok r := by
    rw [← hbuild]
    exact buildSemanticSubject_perm smallRuntime smallBundle
      (List.reverse_perm _) (List.reverse_perm _)
  have hfree : CollisionFree smallRuntime
      (messages smallRuntime smallBundle r)
      (messages smallRuntime turnedBundle r) := by
    intro m hm m' hm' heq
    have hgiven : m' ∈ messages smallRuntime smallBundle r := by
      simpa [messages, turnedBundle] using hm'
    exact List.inj_on_of_nodup_map hnodup hm hgiven heq
  obtain ⟨hiff, _, hpaired⟩ :=
    subject_binds_bundle hbuild hturned hfree
  exact ⟨r, hbuild, hturned, hiff.mp rfl, hpaired⟩

end Exolon.Semantic
