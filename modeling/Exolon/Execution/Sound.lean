/-
What holds of the evidence in every run.

`Change` says what a call can do to the rows; no row is taken away, and none
is written again but for the proposal an attestation is spent on. A call is a
number of changes (`after_changes`), so that what a change keeps, a run keeps.

`Sound` is the invariant. The proposals are numbered from one, their keys are
different, and a terminal one is the last (`Ordered`). An artifact proposal
has spent the attestation that says what it does (`Attested`). A usage of the
second version was observed (`Told`).
-/
import Exolon.Broker.Keys
import Exolon.Execution.Evidence

namespace Exolon.Execution

open Broker (BrokerRuntime CanonicalEvent Proposal UsageProposalV2)
open Semantic (ArtifactAttestationV1 ArtifactProposal)
open Store (UsageReport)
open Transaction Relation

variable {rt : BrokerRuntime} {gate : Gate} {packet : Packet}
  {e e' : Evidence}

-- ================================================================== usage

/-- The row of a report. -/
structure Usage.Tells (u : Usage) (report : UsageReport) : Prop where
  call : u.providerCallId = report.providerCallId
  digest : report.priceTableDigest.bind Store.Digest.of?
    = some u.evidence.priceTableDigest
  cost : u.evidence.cost = report.cost
  tokens : u.evidence.tokens = report.tokens
  output : u.evidence.output = report.output
  components : u.evidence.components = report.components

theorem text_of_of? {text : Text} {digest : Factory.Digest}
    (h : Store.Digest.of? text = some digest) : digest.text = text := by
  unfold Store.Digest.of? at h
  split at h
  · cases h
    rfl
  · cases h

theorem Usage.Tells.evidence {u v : Usage} {report : UsageReport}
    (hu : u.Tells report) (hv : v.Tells report) : u = v := by
  have hdigest : u.evidence.priceTableDigest = v.evidence.priceTableDigest :=
    Option.some.inj (hu.digest.symm.trans hv.digest)
  have hcall := hu.call.trans hv.call.symm
  have hcost := hu.cost.trans hv.cost.symm
  have htokens := hu.tokens.trans hv.tokens.symm
  have houtput := hu.output.trans hv.output.symm
  have hcomponents := hu.components.trans hv.components.symm
  obtain ⟨callId, digest, cost, tokens, output, components⟩ := u
  obtain ⟨callId', digest', cost', tokens', output', components'⟩ := v
  cases hcall
  cases hdigest
  cases hcost
  cases htokens
  cases houtput
  cases hcomponents
  rfl

/-- An observation adds a row of a new call, or none; what is counted has a
row. -/
theorem observe_ok {report : UsageReport} {fits counted : Bool}
    (hok : e.observe report fits = .ok (counted, e')) :
    (e' = e ∨ ∃ u : Usage,
        (∀ v ∈ e.usage, v.providerCallId ≠ u.providerCallId)
        ∧ e' = { e with usage := e.usage ++ [u] })
      ∧ (counted = true → ∃ u ∈ e'.usage, u.Tells report) := by
  unfold Evidence.observe at hok
  cases hdigest : report.priceTableDigest.bind Store.Digest.of? with
  | none =>
      rw [hdigest] at hok
      cases hok
      refine ⟨.inl rfl, ?_⟩
      intro hcounted
      cases hcounted
  | some digest =>
      rw [hdigest] at hok
      dsimp only at hok
      cases hfound : e.usage.find? _ with
      | some u =>
          rw [hfound] at hok
          simp only [bind_eq_ok, check_eq_ok] at hok
          obtain ⟨_, hsame, hok⟩ := hok
          cases hok
          have hcall := List.find?_some hfound
          refine ⟨.inl rfl, fun _ =>
            ⟨u, List.mem_of_find?_eq_some hfound, ?_⟩⟩
          refine ⟨of_decide_eq_true hcall, ?_, ?_, ?_, ?_, ?_⟩
          all_goals rw [hsame]
          exact hdigest
      | none =>
          rw [hfound] at hok
          rw [List.find?_eq_none] at hfound
          dsimp only at hok
          by_cases hfits : fits = true
          · rw [if_pos hfits] at hok
            cases hok
            refine ⟨.inr ⟨_, ?_, rfl⟩, fun _ =>
              ⟨_, List.mem_append_right _ (List.mem_singleton_self _), ?_⟩⟩
            · intro v hv hsame
              exact hfound v hv (decide_eq_true hsame)
            · exact ⟨rfl, hdigest, rfl, rfl, rfl, rfl⟩
          · rw [if_neg hfits] at hok
            cases hok
            refine ⟨.inl rfl, ?_⟩
            intro hcounted
            cases hcounted

/-- A report that a row tells is counted again. -/
theorem observe_again {report : UsageReport} {fits : Bool} {u : Usage}
    (hcalls : (e.usage.map Usage.providerCallId).Nodup) (hu : u ∈ e.usage)
    (htells : u.Tells report) : e.observe report fits = .ok (true, e) := by
  unfold Evidence.observe
  rw [htells.digest]
  dsimp only
  have hfound := Table.find?_key hcalls hu
  rw [htells.call] at hfound
  rw [hfound]
  simp only [bind_eq_ok, check_eq_ok]
  refine ⟨.unit, ?_, rfl⟩
  rw [← htells.cost, ← htells.tokens, ← htells.output, ← htells.components]

/-- The bytes of an accepted usage are not negative. -/
theorem outputBytes_nonneg {event : CanonicalEvent}
    {attestation : Option Text} {p : UsageProposalV2}
    (hok : accepted rt packet event attestation = .ok (.usageV2 p)) :
    0 ≤ p.outputBytes := by
  unfold accepted Broker.accept at hok
  split at hok
  · cases hok
  split at hok
  · unfold Broker.Call.terminate at hok
    split at hok
    · cases hok
    split at hok
    · cases hok
    · cases Broker.boundedProposal_ok hok
  · obtain ⟨q, hq, hbounded⟩ := bind_eq_ok.mp hok
    rw [Broker.boundedProposal_ok hbounded] at hq
    unfold Broker.Call.propose at hq
    dsimp only at hq
    split at hq
    · obtain ⟨_, _, hq⟩ := bind_eq_ok.mp hq
      cases hq
    split at hq
    · obtain ⟨_, _, hq⟩ := bind_eq_ok.mp hq
      cases hq
    split at hq
    case isFalse => cases hq
    split at hq
    · obtain ⟨_, _, hq⟩ := bind_eq_ok.mp hq
      cases hq
    split at hq
    case isFalse => cases hq
    obtain ⟨u, hu, hq⟩ := bind_eq_ok.mp hq
    cases hq
    unfold Broker.usageV2 at hu
    simp only [bind_eq_ok] at hu
    obtain ⟨_, _, _, _, _, _, bytes, hbytes, _, _, _, _, _, _, _, _, _, _,
      hu⟩ := hu
    cases hu
    unfold Broker.intField at hbytes
    have hfound := Broker.orRaise_ok.mp hbytes
    exact of_decide_eq_true (Option.filter_eq_some_iff.mp hfound).2

-- ================================================================ changes

/-- What `execution_propose` finds of the rows for a new proposal. -/
structure Evidence.IsNew (e : Evidence) (packet : Packet) (p : Proposal) :
    Prop where
  key : ∀ q ∈ e.proposals, q.idempotencyKey ≠ p.idempotencyKey
  unended : ∀ q ∈ e.proposals, kind q ≠ .terminal
  next : sequence p = e.lastSequence + 1
  within : sequence p ≤ packet.maxEvents

/-- What a call can do to the rows. -/
inductive Change (packet : Packet) : Evidence → Evidence → Prop
  | attested {e : Evidence} {a : ArtifactAttestationV1}
      (fresh : ∀ row ∈ e.attestations, row.sequence ≠ a.producerSequence)
      (next : a.producerSequence = e.lastSequence + 1) :
      Change packet e
        { e with attestations := e.attestations ++ [{ body := a }] }
  | observed {e : Evidence} {u : Usage}
      (fresh : ∀ v ∈ e.usage, v.providerCallId ≠ u.providerCallId) :
      Change packet e { e with usage := e.usage ++ [u] }
  | artifact {e : Evidence} {p : ArtifactProposal}
      (new : e.IsNew packet (.artifact p))
      (found : ∃ row ∈ e.attestations, row.IsFor packet p) :
      Change packet e { e with
        proposals := e.proposals ++ [.artifact p]
        attestations := Table.update (fun row => row.IsFor packet p)
          (fun row => { row with consumed := some p.idempotencyKey })
          e.attestations }
  | usageV2 {e : Evidence} {p : UsageProposalV2}
      (new : e.IsNew packet (.usageV2 p))
      (seen : ∃ u ∈ e.usage, u.Tells (usageOf p))
      (bytes : 0 ≤ p.outputBytes) :
      Change packet e { e with proposals := e.proposals ++ [.usageV2 p] }
  | plain {e : Evidence} {p : Proposal} (new : e.IsNew packet p)
      (noArtifact : ∀ q, p ≠ .artifact q) (noV2 : ∀ q, p ≠ .usageV2 q)
      (free : ∀ row ∈ e.attestations,
        ¬ (row.sequence = sequence p ∧ row.consumed = none)) :
      Change packet e { e with proposals := e.proposals ++ [p] }

theorem insert_ok {p : Proposal} (hok : e.insert p = .ok e') :
    (∀ q ∈ e.proposals, q.idempotencyKey ≠ p.idempotencyKey)
      ∧ (∀ q ∈ e.proposals, kind q ≠ .terminal)
      ∧ sequence p = e.lastSequence + 1
      ∧ e' = { e with proposals := e.proposals ++ [p] } := by
  unfold Evidence.insert at hok
  simp only [bind_eq_ok, check_eq_ok] at hok
  obtain ⟨_, hkey, _, hunended, _, hnext, hok⟩ := hok
  cases hok
  exact ⟨hkey, hunended, hnext, rfl⟩

/-- A proposal that is stored is one that was there already, or a new one. -/
theorem executionPropose_ok {p : Proposal} {live : Bool}
    (hok : executionPropose rt gate packet p live e = .ok e') :
    packet.admits rt gate p
      ∧ ((p ∈ e.proposals ∧ e' = e) ∨ p ∈ e'.proposals ∧ e'.usage = e.usage
        ∧ ((∀ u, p = .usageV2 u → (∃ row ∈ e.usage, row.Tells (usageOf u))
          ∧ 0 ≤ u.outputBytes) → Change packet e e')) := by
  unfold executionPropose at hok
  rw [bind_eq_ok] at hok
  obtain ⟨_, hadmitted, hok⟩ := hok
  rw [check_eq_ok] at hadmitted
  refine ⟨hadmitted.2, ?_⟩
  cases hfound : e.proposals.find? _ with
  | some q =>
      rw [hfound] at hok
      simp only [bind_eq_ok, check_eq_ok] at hok
      obtain ⟨_, hsame, hok⟩ := hok
      cases hok
      rw [← hsame]
      exact .inl ⟨List.mem_of_find?_eq_some hfound, rfl⟩
  | none =>
      rw [hfound] at hok
      right
      have hadmits := hadmitted.2
      cases p with
      | usageV2 u =>
          obtain ⟨hkey, hunended, hnext, rfl⟩ := insert_ok hok
          refine ⟨List.mem_append_right _ (List.mem_singleton_self _),
            rfl, ?_⟩
          intro hseen
          obtain ⟨hrow, hbytes⟩ := hseen u rfl
          exact .usageV2 ⟨hkey, hunended, hnext, hadmits.2.2.2.2.2.2.2.2.2⟩
            hrow hbytes
      | artifact a =>
          unfold Evidence.spend at hok
          simp only [bind_eq_ok, check_eq_ok] at hok
          obtain ⟨_, hwithin, e₁, ⟨_, hfor, hspent⟩, hok⟩ := hok
          cases hspent
          obtain ⟨hkey, hunended, hnext, rfl⟩ := insert_ok hok
          refine ⟨List.mem_append_right _ (List.mem_singleton_self _),
            rfl, ?_⟩
          intro _
          exact .artifact ⟨hkey, hunended, hnext, hwithin⟩ hfor
      | note _ | usage _ | terminal _ =>
          unfold Evidence.spend at hok
          simp only [bind_eq_ok, check_eq_ok] at hok
          obtain ⟨_, hwithin, e₁, ⟨_, hfree, hspent⟩, hok⟩ := hok
          cases hspent
          obtain ⟨hkey, hunended, hnext, rfl⟩ := insert_ok hok
          refine ⟨List.mem_append_right _ (List.mem_singleton_self _),
            rfl, ?_⟩
          intro _
          refine .plain ⟨hkey, hunended, hnext, hwithin⟩ ?_ ?_ hfree
          · intro _ hcase
            cases hcase
          · intro _ hcase
            cases hcase

/-- Any number of changes. -/
abbrev Changes (packet : Packet) : Evidence → Evidence → Prop :=
  ReflTransGen (Change packet)

theorem changes_observe {report : UsageReport} {fits counted : Bool}
    (hok : e.observe report fits = .ok (counted, e')) :
    Changes packet e e' := by
  obtain ⟨rfl | ⟨u, hfresh, rfl⟩, _⟩ := observe_ok hok
  · exact .refl
  · exact .single (.observed hfresh)

theorem mapError_eq_ok {ε ε' α : Type} {x : Except ε α} {f : ε → ε'} {a : α} :
    x.mapError f = .ok a ↔ x = .ok a := by
  cases x with
  | error _ =>
      apply iff_of_false
      · intro h
        cases h
      · intro h
        cases h
  | ok b =>
      constructor
      · intro h
        cases h
        rfl
      · intro h
        cases h
        rfl

/-- What a call for a proposal does, and that a stored proposal is there. -/
theorem commitExecutionProposal_ok {event : CanonicalEvent}
    {attestation : Option Text} {live fits stored : Bool}
    (hok : commitExecutionProposal rt gate packet event attestation live fits
      e = .ok (stored, e')) :
    Changes packet e e' ∧ (stored = true → ∃ p ∈ e'.proposals,
      accepted rt packet event attestation = .ok p ∧ packet.admits rt gate p
        ∧ ∀ u, p = .usageV2 u → ∃ row ∈ e'.usage, row.Tells (usageOf u)) := by
  unfold commitExecutionProposal at hok
  simp only [bind_eq_ok, check_eq_ok, mapError_eq_ok] at hok
  obtain ⟨_, _, p, hp, hok⟩ := hok
  have hplain : ∀ {e₁ : Evidence}, (∀ u, p ≠ .usageV2 u) →
      executionPropose rt gate packet p live e = .ok e₁ →
      (true, e₁) = (stored, e') → Changes packet e e' ∧ (stored = true →
        ∃ p ∈ e'.proposals, accepted rt packet event attestation = .ok p
          ∧ packet.admits rt gate p ∧ ∀ u, p = .usageV2 u →
            ∃ row ∈ e'.usage, row.Tells (usageOf u)) := by
    intro e₁ hno hpropose hsame
    cases hsame
    obtain ⟨hadmits, ⟨hmem, rfl⟩ | ⟨hmem, _, hchange⟩⟩ :=
      executionPropose_ok hpropose
    · exact ⟨.refl,
        fun _ => ⟨p, hmem, hp, hadmits, fun u hu => absurd hu (hno u)⟩⟩
    · exact ⟨.single (hchange fun u hu => absurd hu (hno u)),
        fun _ => ⟨p, hmem, hp, hadmits, fun u hu => absurd hu (hno u)⟩⟩
  cases p with
  | usageV2 u =>
      simp only [bind_eq_ok] at hok
      obtain ⟨⟨counted, e₁⟩, hobserve, hok⟩ := hok
      dsimp only at hok
      have hchanges : Changes packet e e₁ := changes_observe hobserve
      by_cases hcounted : counted = true
      · rw [if_pos hcounted, bind_eq_ok] at hok
        obtain ⟨e₂, hpropose, hok⟩ := hok
        cases hok
        have hrow := (observe_ok hobserve).2 hcounted
        have hbytes := outputBytes_nonneg hp
        have htold : ∀ v, Proposal.usageV2 u = .usageV2 v →
            ∃ row ∈ e₁.usage, row.Tells (usageOf v) := by
          intro v hv
          cases hv
          exact hrow
        obtain ⟨hadmits, ⟨hmem, rfl⟩ | ⟨hmem, husage, hchange⟩⟩ :=
          executionPropose_ok hpropose
        · exact ⟨hchanges, fun _ => ⟨_, hmem, hp, hadmits, htold⟩⟩
        · refine ⟨hchanges.tail (hchange ?_),
            fun _ => ⟨_, hmem, hp, hadmits, ?_⟩⟩
          · intro v hv
            refine ⟨htold v hv, ?_⟩
            cases hv
            exact hbytes
          · rw [husage]
            exact htold
      · rw [if_neg hcounted] at hok
        cases hok
        exact ⟨hchanges, fun hstored => absurd hstored hcounted⟩
  | note q | artifact q | usage q | terminal q =>
      rw [bind_eq_ok] at hok
      obtain ⟨e₁, hpropose, hok⟩ := hok
      cases hok
      refine hplain ?_ hpropose rfl
      intro u hu
      cases hu

theorem observeUsage_ok {providerCallId : Text}
    {priceTableDigest : Option Text} {cost tokens output : Nat}
    {components : Option Store.UsageComponents} {live fits counted : Bool}
    (hok : observeUsage providerCallId priceTableDigest cost tokens output
      components live fits e = .ok (counted, e')) :
    Changes packet e e' := by
  unfold observeUsage at hok
  simp only [bind_eq_ok, check_eq_ok] at hok
  obtain ⟨_, _, _, _, hok⟩ := hok
  exact changes_observe hok

theorem recordArtifactAttestation_changes {a : ArtifactAttestationV1}
    {live : Bool} :
    Changes packet e
      (recordArtifactAttestation rt gate packet a live e).2 := by
  unfold recordArtifactAttestation
  split
  case isFalse => exact .refl
  cases hfound : e.attestations.find? _ with
  | some row => exact .refl
  | none =>
      rw [List.find?_eq_none] at hfound
      dsimp only
      split
      case isFalse => exact .refl
      case isTrue hadmitted =>
        refine .single (.attested ?_ hadmitted.2.2.2)
        intro row hrow hsame
        exact hfound row hrow (decide_eq_true hsame)

/-- A call makes changes, or is rolled back. -/
theorem after_changes (call : Call) :
    Changes packet e (e.after rt gate packet call) := by
  cases call with
  | attest request live => exact recordArtifactAttestation_changes
  | propose event attestation live fits =>
      exact commit_preserves (I := Changes packet e)
        (fun hcall => (commitExecutionProposal_ok hcall).1) .refl
  | observe providerCallId priceTableDigest cost tokens output components
      live fits =>
      exact commit_preserves (I := Changes packet e)
        (fun hcall => observeUsage_ok hcall) .refl

/-- What every change preserves, every run does. -/
theorem changes_of_reachable
    (hreach : Run.Reachable (step rt gate packet) e e') :
    Changes packet e e' := by
  refine hreach.invariant (I := Changes packet e) .refl ?_
  intro s s' call hchanges hstep
  cases hstep
  exact hchanges.trans (after_changes call)

-- ============================================================== proposals

/-- The proposals of a run: one after the other, no key twice, and nothing
after a terminal one. -/
structure Ordered (packet : Packet) (proposals : List Proposal) : Prop where
  numbered : Numbered (proposals.map fun p => (sequence p).toNat)
  positive : ∀ p ∈ proposals, 1 ≤ sequence p
  within : ∀ p ∈ proposals, sequence p ≤ packet.maxEvents
  keys : (proposals.map Proposal.idempotencyKey).Nodup
  ended : proposals.Pairwise fun p _ => kind p ≠ .terminal

theorem Ordered.propose {p : Proposal} (h : Ordered packet e.proposals)
    (hnew : e.IsNew packet p) : Ordered packet (e.proposals ++ [p]) := by
  have hnext : (sequence p).toNat = e.lastSequence + 1 := by
    have := hnew.next
    omega
  refine ⟨?_, ?_, ?_, ?_, ?_⟩
  · rw [List.map_append, List.map_singleton, hnext]
    exact h.numbered.append
  · intro q hq
    rcases List.mem_append.mp hq with hq | hq
    · exact h.positive q hq
    · rw [List.mem_singleton.mp hq, hnew.next]
      omega
  · intro q hq
    rcases List.mem_append.mp hq with hq | hq
    · exact h.within q hq
    · rw [List.mem_singleton.mp hq]
      exact hnew.within
  · rw [List.map_append, List.map_singleton, List.nodup_append]
    refine ⟨h.keys, List.nodup_singleton _, ?_⟩
    intro key hkey key' hkey'
    obtain ⟨q, hq, rfl⟩ := List.mem_map.mp hkey
    rw [List.mem_singleton.mp hkey']
    exact hnew.key q hq
  · rw [List.pairwise_append]
    refine ⟨h.ended, List.pairwise_singleton _ _, ?_⟩
    intro q hq _ _
    exact hnew.unended q hq

theorem Change.ordered (hchange : Change packet e e')
    (h : Ordered packet e.proposals) : Ordered packet e'.proposals := by
  cases hchange with
  | attested _ _ => exact h
  | observed _ => exact h
  | artifact hnew _ => exact h.propose hnew
  | usageV2 hnew _ _ => exact h.propose hnew
  | plain hnew _ _ _ => exact h.propose hnew

theorem Ordered.sequence_le {p : Proposal} (h : Ordered packet e.proposals)
    (hp : p ∈ e.proposals) : sequence p ≤ e.lastSequence := by
  have hpositive := h.positive p hp
  have hmem : (sequence p).toNat ∈ e.proposals.map fun p =>
      (sequence p).toNat := List.mem_map_of_mem hp
  have hle := (h.numbered.mem_iff.mp hmem).2
  have hlast : e.lastSequence = _ := h.numbered.last
  omega

theorem Ordered.sequences {proposals : List Proposal}
    (h : Ordered packet proposals) : (proposals.map sequence).Nodup := by
  have hnodup : (proposals.map fun p => (sequence p).toNat).Nodup :=
    h.numbered.pairwise.imp fun hlt => Nat.ne_of_lt hlt
  rw [show (fun p => (sequence p).toNat) = Int.toNat ∘ sequence from rfl,
    ← List.map_map] at hnodup
  exact List.Nodup.of_map _ hnodup

theorem lastSequence_propose {p : Proposal} (hnew : e.IsNew packet p) :
    ((e.proposals ++ [p]).map fun q => (sequence q).toNat).foldr max 0
      = e.lastSequence + 1 := by
  have hnext := hnew.next
  rw [List.map_append, List.map_singleton, Numbered.foldr_max_append]
  show max e.lastSequence _ = _
  omega

-- =========================================================== attestations

/-- The attestations of a run: one for a number, and each spent on the
proposal that says the same. One that is not spent is the next proposal's,
or was gone past by a usage of the second version. -/
structure Attested (packet : Packet) (e : Evidence) : Prop where
  rows : (e.attestations.map Attestation.sequence).Nodup
  bounded : ∀ row ∈ e.attestations, row.sequence ≤ e.lastSequence + 1
  waiting : ∀ row ∈ e.attestations, row.consumed = none →
    row.sequence = e.lastSequence + 1
      ∨ ∃ p, .usageV2 p ∈ e.proposals ∧ p.sequence = row.sequence
  spent : ∀ row ∈ e.attestations, ∀ key ∈ row.consumed,
    ∃ p, .artifact p ∈ e.proposals ∧ p.idempotencyKey = key
      ∧ SameColumns row.body (attestationOf packet p)
  backed : ∀ p, .artifact p ∈ e.proposals →
    ∃ row ∈ e.attestations, row.consumed = some p.idempotencyKey
      ∧ SameColumns row.body (attestationOf packet p)

/-- The number of a row that a proposal spends. -/
theorem Attestation.IsFor.sequence {row : Attestation} {p : ArtifactProposal}
    (h : row.IsFor packet p) : row.sequence = p.sequence :=
  h.1.2.2.2.2.1

/-- What does not say where a row was spent stays when some are. -/
theorem map_spent {β : Type} {f : Attestation → β} {p : ArtifactProposal}
    {rows : List Attestation}
    (hf : ∀ (row : Attestation) (key : Option Text),
      f { row with consumed := key } = f row) :
    (Table.update (fun row : Attestation => decide (row.IsFor packet p))
      (fun row => { row with consumed := some p.idempotencyKey })
      rows).map f = rows.map f :=
  Table.map_update fun _ _ _ => hf _ _

/-- The rows without a new proposal, and what must be known of the number it
takes. -/
theorem Attested.propose {p : Proposal} (h : Attested packet e)
    (hnew : e.IsNew packet p) (hartifact : ∀ q, p ≠ .artifact q)
    (hnumber : ∀ row ∈ e.attestations, row.consumed = none →
      row.sequence = sequence p → ∃ q, p = .usageV2 q) :
    Attested packet { e with proposals := e.proposals ++ [p] } := by
  have hlast := lastSequence_propose hnew
  refine ⟨h.rows, ?_, ?_, ?_, ?_⟩
  · intro row hrow
    have := h.bounded row hrow
    show _ ≤ ((((e.proposals ++ [p]).map fun q =>
      (sequence q).toNat).foldr max 0 : Nat) : Int) + 1
    rw [hlast]
    omega
  · intro row hrow hconsumed
    right
    rcases h.waiting row hrow hconsumed with hnext | ⟨q, hq, hsame⟩
    · rw [← hnew.next] at hnext
      obtain ⟨q, rfl⟩ := hnumber row hrow hconsumed hnext
      exact ⟨q, List.mem_append_right _ (List.mem_singleton_self _),
        hnext.symm⟩
    · exact ⟨q, List.mem_append_left _ hq, hsame⟩
  · intro row hrow key hkey
    obtain ⟨q, hq, hsame⟩ := h.spent row hrow key hkey
    exact ⟨q, List.mem_append_left _ hq, hsame⟩
  · intro q hq
    rcases List.mem_append.mp hq with hq | hq
    · exact h.backed q hq
    · exact absurd (List.mem_singleton.mp hq).symm (hartifact q)

/-- A proposal that spends its attestation. -/
theorem Attested.artifact {p : ArtifactProposal} (h : Attested packet e)
    (hnew : e.IsNew packet (.artifact p))
    (hfound : ∃ row ∈ e.attestations, row.IsFor packet p) :
    Attested packet { e with
      proposals := e.proposals ++ [.artifact p]
      attestations := Table.update (fun row => row.IsFor packet p)
        (fun row => { row with consumed := some p.idempotencyKey })
        e.attestations } := by
  have hlast := lastSequence_propose hnew
  have hmap := @map_spent packet _ Attestation.sequence p e.attestations
    fun _ _ => rfl
  refine ⟨?_, ?_, ?_, ?_, ?_⟩
  · rw [hmap]
    exact h.rows
  · intro row hrow
    have hmem := List.mem_map_of_mem (f := Attestation.sequence) hrow
    rw [hmap] at hmem
    obtain ⟨old, hold, hsame⟩ := List.mem_map.mp hmem
    have := h.bounded old hold
    show _ ≤ ((((e.proposals ++ [Proposal.artifact p]).map fun q =>
      (Execution.sequence q).toNat).foldr max 0 : Nat) : Int) + 1
    rw [hlast, ← hsame]
    omega
  · intro row hrow hconsumed
    obtain ⟨old, hold, hrow⟩ := Table.mem_update.mp hrow
    by_cases hfor : old.IsFor packet p
    · rw [if_pos (decide_eq_true hfor)] at hrow
      rw [← hrow] at hconsumed
      cases hconsumed
    · rw [if_neg (by rw [decide_eq_true_eq]; exact hfor)] at hrow
      rw [← hrow] at hconsumed ⊢
      right
      rcases h.waiting old hold hconsumed with hnext | ⟨q, hq, hsame⟩
      · obtain ⟨row', hrow', hfor'⟩ := hfound
        have hnumber : old.sequence = row'.sequence := by
          rw [hnext, ← hnew.next]
          exact hfor'.sequence.symm
        have := List.inj_on_of_nodup_map h.rows hold hrow' hnumber
        exact absurd (this ▸ hfor') hfor
      · exact ⟨q, List.mem_append_left _ hq, hsame⟩
  · intro row hrow key hkey
    obtain ⟨old, hold, hrow⟩ := Table.mem_update.mp hrow
    by_cases hfor : old.IsFor packet p
    · rw [if_pos (decide_eq_true hfor)] at hrow
      rw [← hrow] at hkey ⊢
      exact ⟨p, List.mem_append_right _ (List.mem_singleton_self _),
        Option.some.inj hkey, hfor.1⟩
    · rw [if_neg (by rw [decide_eq_true_eq]; exact hfor)] at hrow
      rw [← hrow] at hkey ⊢
      obtain ⟨q, hq, hsame⟩ := h.spent old hold key hkey
      exact ⟨q, List.mem_append_left _ hq, hsame⟩
  · intro q hq
    rcases List.mem_append.mp hq with hq | hq
    · obtain ⟨row, hrow, hconsumed, hsame⟩ := h.backed q hq
      refine ⟨row, Table.mem_update.mpr ⟨row, hrow, ?_⟩, hconsumed, hsame⟩
      rw [if_neg]
      rw [decide_eq_true_eq]
      intro hfor
      rw [hfor.2] at hconsumed
      cases hconsumed
    · cases List.mem_singleton.mp hq
      obtain ⟨row, hrow, hfor⟩ := hfound
      refine ⟨{ row with consumed := some p.idempotencyKey },
        Table.mem_update.mpr ⟨row, hrow, ?_⟩, rfl, hfor.1⟩
      rw [if_pos (decide_eq_true hfor)]

theorem Change.attests (hchange : Change packet e e')
    (h : Attested packet e) : Attested packet e' := by
  cases hchange with
  | @attested a hfresh hnext =>
      refine ⟨?_, ?_, ?_, ?_, ?_⟩
      · rw [List.map_append, List.nodup_append]
        refine ⟨h.rows, List.nodup_singleton _, ?_⟩
        intro number hnumber number' hnumber'
        obtain ⟨row, hrow, rfl⟩ := List.mem_map.mp hnumber
        rw [List.mem_singleton.mp hnumber']
        exact hfresh row hrow
      · intro row hrow
        rcases List.mem_append.mp hrow with hrow | hrow
        · exact h.bounded row hrow
        · rw [List.mem_singleton.mp hrow]
          exact le_of_eq hnext
      · intro row hrow hconsumed
        rcases List.mem_append.mp hrow with hrow | hrow
        · exact h.waiting row hrow hconsumed
        · rw [List.mem_singleton.mp hrow]
          exact .inl hnext
      · intro row hrow key hkey
        rcases List.mem_append.mp hrow with hrow | hrow
        · exact h.spent row hrow key hkey
        · rw [List.mem_singleton.mp hrow] at hkey
          cases hkey
      · intro p hp
        obtain ⟨row, hrow, hbacked⟩ := h.backed p hp
        exact ⟨row, List.mem_append_left _ hrow, hbacked⟩
  | observed _ => exact ⟨h.rows, h.bounded, h.waiting, h.spent, h.backed⟩
  | artifact hnew hfound => exact h.artifact hnew hfound
  | usageV2 hnew _ _ =>
      refine h.propose hnew ?_ fun _ _ _ _ => ⟨_, rfl⟩
      intro q hq
      cases hq
  | plain hnew hartifact _ hfree =>
      refine h.propose hnew hartifact ?_
      intro row hrow hconsumed hsame
      exact absurd ⟨hsame, hconsumed⟩ (hfree row hrow)

-- ================================================================== usage

/-- The usage of a run: one row for a call, and one for every proposal of the
second version. -/
structure Told (e : Evidence) : Prop where
  calls : (e.usage.map Usage.providerCallId).Nodup
  told : ∀ p, .usageV2 p ∈ e.proposals → 0 ≤ p.outputBytes
    ∧ ∃ u ∈ e.usage, u.Tells (usageOf p)

theorem Told.propose {p : Proposal} (h : Told e)
    (htold : ∀ q, p = .usageV2 q → 0 ≤ q.outputBytes
      ∧ ∃ u ∈ e.usage, u.Tells (usageOf q)) :
    Told { e with proposals := e.proposals ++ [p] } := by
  refine ⟨h.calls, ?_⟩
  intro q hq
  rcases List.mem_append.mp hq with hq | hq
  · exact h.told q hq
  · exact htold q (List.mem_singleton.mp hq).symm

theorem Change.tells (hchange : Change packet e e') (h : Told e) :
    Told e' := by
  cases hchange with
  | attested _ _ => exact ⟨h.calls, h.told⟩
  | observed hfresh =>
      refine ⟨?_, ?_⟩
      · rw [List.map_append, List.nodup_append]
        refine ⟨h.calls, List.nodup_singleton _, ?_⟩
        intro callId hcall callId' hcall'
        obtain ⟨u, hu, rfl⟩ := List.mem_map.mp hcall
        rw [List.mem_singleton.mp hcall']
        exact hfresh u hu
      · intro p hp
        obtain ⟨hbytes, u, hu, htells⟩ := h.told p hp
        exact ⟨hbytes, u, List.mem_append_left _ hu, htells⟩
  | @artifact p _ _ =>
      have htold : Told
          { e with proposals := e.proposals ++ [.artifact p] } := by
        apply h.propose
        intro q hq
        cases hq
      exact ⟨htold.calls, htold.told⟩
  | usageV2 _ hseen hbytes =>
      apply h.propose
      intro q hq
      cases hq
      exact ⟨hbytes, hseen⟩
  | plain _ _ hv2 _ =>
      apply h.propose
      intro q hq
      exact absurd hq (hv2 q)

-- ================================================================== sound

/-- The invariant of the runs. -/
structure Evidence.Sound (packet : Packet) (e : Evidence) : Prop where
  ordered : Ordered packet e.proposals
  attested : Attested packet e
  told : Told e

theorem Change.sound (hchange : Change packet e e') (h : e.Sound packet) :
    e'.Sound packet :=
  ⟨hchange.ordered h.ordered, hchange.attests h.attested,
    hchange.tells h.told⟩

theorem Evidence.Sound.changes (h : e.Sound packet)
    (hchanges : Changes packet e e') : e'.Sound packet := by
  induction hchanges with
  | refl => exact h
  | tail _ hchange ih => exact hchange.sound ih

/-- Before the first call. -/
theorem sound_empty : Evidence.Sound packet {} := by
  refine ⟨⟨.nil, ?_, ?_, List.nodup_nil, .nil⟩,
    ⟨List.nodup_nil, ?_, ?_, ?_, ?_⟩, ⟨List.nodup_nil, ?_⟩⟩
  all_goals
    intro a ha
    cases ha

theorem sound_of_reachable
    (hreach : Run.Reachable (step rt gate packet) {} e) : e.Sound packet :=
  sound_empty.changes (changes_of_reachable hreach)

end Exolon.Execution
