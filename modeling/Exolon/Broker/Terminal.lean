/-
A run is ended once.

The broker remembers a run as soon as it has built a terminal proposal for
it, and looks at the size of the envelope afterwards. So an event whose
texts are within their own limits, but whose envelope is not, raises and
leaves its run ended (`oversized_unretried`). `sound_iff` says that this is
the only way in which a call that raises changes the broker.

# The size of an envelope

`wireBytes_terminal` has the bytes of a terminal proposal's envelope in
terms of what it says: the names, the key and the punctuation are 252.
-/
import Exolon.Broker.Keys
import Exolon.Lib.Run

namespace Exolon.Broker

open Factory (utf8 utf8_append utf8_length_of_ascii)
open Semantic (TerminalProposal)
open Run (Along)
open Transaction (bind_eq_ok)

-- =================================================================== sizes

/-- The bytes of a value as it goes over the wire. -/
def wireLength (v : Json) : Nat := (utf8 (dumps v)).length

/-- What a member takes, with the comma before it. -/
def memberLength (member : Text × Json) : Nat :=
  (utf8 (Json.quote member.1)).length + wireLength member.2 + 4

theorem length_dumpsMembers (member : Text × Json)
    (members : List (Text × Json)) :
    (utf8 (List.intercalate ", ".toList
      (dumpsMembers (member :: members)))).length + 2
      = ((member :: members).map memberLength).sum := by
  induction members generalizing member with
  | nil =>
      obtain ⟨name, v⟩ := member
      have hcolon : (utf8 ": ".toList).length = 2 := rfl
      simp only [dumpsMembers, List.intercalate_singleton, utf8_append,
        List.length_append, hcolon, memberLength, wireLength, List.map_cons,
        List.map_nil, List.sum_cons, List.sum_nil]
      omega
  | cons next members ih =>
      obtain ⟨name, v⟩ := member
      have hnext := ih next
      have hcolon : (utf8 ": ".toList).length = 2 := rfl
      have hcomma : (utf8 ", ".toList).length = 2 := rfl
      rw [dumpsMembers, List.map_cons, List.sum_cons, ← hnext]
      obtain ⟨name', v'⟩ := next
      rw [dumpsMembers, List.intercalate_cons_cons]
      simp only [utf8_append, List.length_append, hcolon, hcomma, memberLength,
        wireLength]
      omega

theorem wireLength_obj {members : List (Text × Json)} (h : members ≠ []) :
    wireLength (.obj members) = (members.map memberLength).sum := by
  obtain ⟨member, rest, rfl⟩ := List.exists_cons_of_ne_nil h
  rw [← length_dumpsMembers]
  have hopen : (utf8 ['{']).length = 1 := rfl
  have hclose : (utf8 ['}']).length = 1 := rfl
  unfold wireLength
  rw [dumps, ← List.singleton_append]
  simp only [utf8_append, List.length_append, hopen, hclose]
  omega

/-- The bytes of an object are those of its members, in any order. -/
theorem wireLength_reorder {members : List (Text × Json)}
    (h : members ≠ []) :
    wireLength ((Json.obj members).reorder id)
      = (members.map fun m => memberLength (m.1, m.2.reorder id)).sum := by
  have hperm := List.perm_insertionSort
    (fun a b : Text × Json => id a.1 ≤ id b.1) (Json.reorderMembers id members)
  rw [Json.reorder, wireLength_obj, (hperm.map memberLength).sum_eq,
    Json.reorderMembers_eq_map, List.map_map]
  · rfl
  · intro hnil
    rw [hnil, Json.reorderMembers_eq_map] at hperm
    exact h (List.map_eq_nil_iff.mp hperm.nil_eq.symm)

-- ============================================================ plain texts

/-- A scalar that is written as one byte. -/
def IsPlain (c : Char) : Prop :=
  c ≠ '"' ∧ c ≠ '\\' ∧ 32 ≤ c.toNat ∧ c.toNat < 128

theorem escapeScalar_of_isPlain {c : Char} (h : IsPlain c) :
    Json.escapeScalar c = [c] := by
  obtain ⟨hquote, hslash, hcontrol, _⟩ := h
  have hne : ∀ d : Char, d.toNat < 32 → c ≠ d := by
    rintro d hd rfl
    omega
  unfold Json.escapeScalar
  rw [if_neg hquote, if_neg hslash, if_neg (hne _ (by decide)),
    if_neg (hne _ (by decide)), if_neg (hne _ (by decide)),
    if_neg (hne _ (by decide)), if_neg (hne _ (by decide)),
    if_neg (Nat.not_lt.mpr hcontrol)]

/-- A plain text takes a byte for each scalar, and its quotes. -/
theorem length_quote {t : Text} (h : ∀ c ∈ t, IsPlain c) :
    (utf8 (Json.quote t)).length = t.length + 2 := by
  have hescape : t.flatMap Json.escapeScalar = t := by
    induction t with
    | nil => rfl
    | cons c t ih =>
        rw [List.forall_mem_cons] at h
        rw [List.flatMap_cons, ih h.2, escapeScalar_of_isPlain h.1]
        rfl
  unfold Json.quote
  rw [hescape, utf8_length_of_ascii, List.cons_append, List.length_cons,
    List.length_append, List.length_singleton]
  intro c hc
  rw [List.cons_append, List.mem_cons, List.mem_append,
    List.mem_singleton] at hc
  rcases hc with rfl | hc | rfl
  · decide
  · exact (h c hc).2.2.2
  · decide

theorem length_quote_digest (d : Factory.Digest) :
    wireLength (.str d.text) = 66 := by
  show (utf8 (Json.quote d.text)).length = 66
  rw [length_quote, d.length_eq]
  intro c hc
  have hplain : 48 ≤ c.toNat ∧ c.toNat ≤ 102
      ∧ (c.toNat ≤ 57 ∨ 97 ≤ c.toNat) := by
    rcases d.hex c hc with ⟨hlow, hhigh⟩ | ⟨hlow, hhigh⟩
    · have hlow : 48 ≤ c.toNat := hlow
      have hhigh : c.toNat ≤ 57 := hhigh
      omega
    · have hlow : 97 ≤ c.toNat := hlow
      have hhigh : c.toNat ≤ 102 := hhigh
      omega
  refine ⟨?_, ?_, by omega, by omega⟩
  · rintro rfl
    exact absurd hplain.1 (by decide)
  · rintro rfl
    exact absurd hplain.2.2 (by decide)

/-- The bytes of a terminal proposal, of what it says. -/
theorem wireBytes_terminal (p : TerminalProposal) :
    (Proposal.terminal p).wireBytes
      = 186 + wireLength (.str p.taskId) + wireLength (.str p.runId)
        + wireLength (.str p.packetDigest) + wireLength (.int p.fence)
        + wireLength (.int p.sequence) + wireLength (.str p.authorRole)
        + wireLength (.str p.terminalType) + wireLength (.str p.summary)
        + wireLength (Document.json p.failureClass)
        + wireLength (Document.json p.reason)
        + wireLength (Document.json p.diagnostic)
        + wireLength (.str p.idempotencyKey) := by
  have hoption : ∀ t : Option Text,
      (Document.json t).reorder id = Document.json t := by
    intro t
    cases t <;> rfl
  -- the names and the punctuation, and then what stands under the names
  have hnames : (terminalDict.map fun f =>
      (utf8 (Json.quote f.name)).length + 4).sum = 186 := by
    decide
  have hsplit : (terminalDict.map fun f =>
      memberLength (f.name, (f.json p).reorder id)).sum
        = 186 + (terminalDict.map fun f =>
            wireLength ((f.json p).reorder id)).sum := by
    rw [← hnames, ← List.sum_map_add]
    congr 1
    apply List.map_congr_left
    intro f _
    unfold memberLength
    dsimp only
    omega
  show wireLength ((Json.members terminalDict p).reorder id) = _
  unfold Json.members
  rw [wireLength_reorder (fun h => by cases h), List.map_map]
  refine Eq.trans hsplit ?_
  simp only [terminalDict, List.map_cons, List.map_nil, List.sum_cons,
    List.sum_nil, Member.of, hoption]
  show 186 + (wireLength (.str p.taskId) + (wireLength (.str p.runId)
    + (wireLength (.str p.packetDigest) + (wireLength (.int p.fence)
    + (wireLength (.int p.sequence) + (wireLength (.str p.authorRole)
    + (wireLength (.str p.terminalType) + (wireLength (.str p.summary)
    + (wireLength (Document.json p.failureClass)
    + (wireLength (Document.json p.reason)
    + (wireLength (Document.json p.diagnostic)
    + (wireLength (.str p.idempotencyKey) + 0)))))))))))) = _
  omega

/-- The bytes of the envelope of an event that says these texts. -/
def envelopeBytes (event : CanonicalEvent) (context : ProposalContext)
    (texts : TerminalTexts) : Nat :=
  252 + wireLength (.str context.taskId) + wireLength (.str context.runId)
    + wireLength (.str context.packetDigest)
    + wireLength (.int context.fence) + wireLength (.int event.sequence)
    + wireLength (.str context.role) + wireLength (.str event.eventType)
    + wireLength (.str texts.summary)
    + wireLength (Document.json texts.failureClass)
    + wireLength (Document.json texts.reason)
    + wireLength (Document.json texts.diagnostic)

theorem wireBytes_of_terminal {rt : BrokerRuntime} {event : CanonicalEvent}
    {context : ProposalContext} {texts : TerminalTexts} {p : TerminalProposal}
    (htexts : terminalTexts rt event context = .ok texts)
    (hp : terminal rt event context = .ok p) :
    (Proposal.terminal p).wireBytes = envelopeBytes event context texts := by
  unfold terminal at hp
  rw [htexts] at hp
  cases Except.ok.inj hp
  rw [wireBytes_terminal]
  unfold key Semantic.Runtime.canonicalDigest envelopeBytes
  rw [length_quote_digest]
  dsimp only
  omega

-- ==================================================================== runs

section

variable (rt : BrokerRuntime)

/-- The run a terminal proposal ends. -/
def identity (p : TerminalProposal) : Text × Text × Text :=
  (p.taskId, p.runId, p.packetDigest)

/-- The state after a call, whether it raised or not. -/
def step (s : State) (call : Call) : Option State := some (accept rt s call).2

/-- The runs that the terminal proposals of some calls end. -/
def ended : State → List Call → List (Text × Text × Text)
  | _, [] => []
  | s, call :: calls =>
      match (accept rt s call).1 with
      | .ok (.terminal p) => identity p :: ended (accept rt s call).2 calls
      | _ => ended (accept rt s call).2 calls

/-- A call that raises leaves the broker as it was. -/
def Atomic (s : State) (call : Call) : Prop :=
  ∀ e, (accept rt s call).1 = .error e → (accept rt s call).2 = s

/-- A terminal event of a run that is not ended, whose texts are within
their limits and whose envelope is not. -/
def Oversized (s : State) (call : Call) : Prop :=
  call.check = .ok () ∧ call.event.eventType ∈ terminalEvents
    ∧ call.context.identity ∉ s
    ∧ ∃ texts, terminalTexts rt call.event call.context = .ok texts
      ∧ maxProposalEnvelopeBytes
        < envelopeBytes call.event call.context texts

/-- What the broker does over some calls: it ends a run once, a call that
raises changes nothing, and a run that is not ended is ended as by a new
broker. -/
structure Sound (calls : List Call) : Prop where
  once : (ended rt ∅ calls).Nodup
  atomic : Along (step rt) (Atomic rt) ∅ calls
  retried : ∀ {t}, Run.run (step rt) ∅ calls = some t → ∀ call,
    call.context.identity ∉ ended rt ∅ calls →
      (accept rt t call).1 = (accept rt ∅ call).1

end

section

variable {rt : BrokerRuntime} {s : State} {call : Call}

/-- The other events have other proposals. -/
theorem propose_ne_terminal {p : TerminalProposal} :
    call.propose rt ≠ .ok (.terminal p) := by
  intro h
  unfold Call.propose at h
  dsimp only at h
  split at h
  · obtain ⟨q, _, hq⟩ := bind_eq_ok.mp h
    cases hq
  split at h
  · obtain ⟨q, _, hq⟩ := bind_eq_ok.mp h
    cases hq
  split at h
  · split at h
    · obtain ⟨q, _, hq⟩ := bind_eq_ok.mp h
      cases hq
    split at h
    · obtain ⟨q, _, hq⟩ := bind_eq_ok.mp h
      cases hq
    · cases h
  · cases h

theorem identity_of_terminal {event : CanonicalEvent}
    {context : ProposalContext} {p : TerminalProposal}
    (h : terminal rt event context = .ok p) :
    identity p = context.identity := by
  unfold terminal at h
  obtain ⟨texts, _, hp⟩ := bind_eq_ok.mp h
  cases Except.ok.inj hp
  rfl

/-- A terminal event whose texts are within their limits ends its run. -/
theorem accept_terminal {texts : TerminalTexts} (hcheck : call.check = .ok ())
    (hevent : call.event.eventType ∈ terminalEvents)
    (hmem : call.context.identity ∉ s)
    (htexts : terminalTexts rt call.event call.context = .ok texts) :
    ∃ p, terminal rt call.event call.context = .ok p
      ∧ accept rt s call = (boundedProposal (.terminal p),
          insert call.context.identity s) := by
  obtain ⟨p, hp⟩ : ∃ p, terminal rt call.event call.context = .ok p := by
    unfold terminal
    rw [htexts]
    exact ⟨_, rfl⟩
  refine ⟨p, hp, ?_⟩
  unfold accept Call.terminate
  rw [hcheck]
  dsimp only
  rw [if_pos (List.contains_iff_mem.mpr hevent), if_neg hmem, hp]

/-- Any other call leaves the ended runs as they were. -/
theorem accept_other (h : ¬ (call.check = .ok ()
      ∧ call.event.eventType ∈ terminalEvents ∧ call.context.identity ∉ s
      ∧ ∃ texts, terminalTexts rt call.event call.context = .ok texts)) :
    (accept rt s call).2 = s
      ∧ ∀ p, (accept rt s call).1 ≠ .ok (.terminal p) := by
  unfold accept
  cases hcheck : call.check with
  | error e => exact ⟨rfl, fun p h => by cases h⟩
  | ok u =>
      by_cases hevent : terminalEvents.contains call.event.eventType = true
      · dsimp only
        rw [if_pos hevent]
        unfold Call.terminate
        by_cases hmem : call.context.identity ∈ s
        · rw [if_pos hmem]
          exact ⟨rfl, fun p h => by cases h⟩
        rw [if_neg hmem]
        cases hp : terminal rt call.event call.context with
        | error e => exact ⟨rfl, fun p h => by cases h⟩
        | ok p =>
            unfold terminal at hp
            obtain ⟨texts, htexts, _⟩ := bind_eq_ok.mp hp
            exact absurd ⟨hcheck, List.contains_iff_mem.mp hevent, hmem,
              texts, htexts⟩ h
      · dsimp only
        rw [if_neg hevent]
        refine ⟨rfl, fun p hanswer => ?_⟩
        obtain ⟨q, hq, hbounded⟩ := bind_eq_ok.mp hanswer
        rw [boundedProposal_ok hbounded] at hq
        exact propose_ne_terminal hq

theorem boundedProposal_small {p : Proposal}
    (h : ¬ maxProposalEnvelopeBytes < p.wireBytes) :
    boundedProposal p = .ok p := by
  unfold boundedProposal
  rw [decide_eq_false h]
  rfl

theorem boundedProposal_large {p : Proposal}
    (h : maxProposalEnvelopeBytes < p.wireBytes) :
    boundedProposal p = .error ⟨"proposal_too_large", []⟩ := by
  unfold boundedProposal
  rw [decide_eq_true h]
  rfl

/-- What a call does: nothing to the ended runs; it ends a run and answers
so; or its envelope is oversized, and it ends the run and raises. -/
theorem accept_cases (rt : BrokerRuntime) (s : State) (call : Call) :
    (¬ Oversized rt s call ∧ (accept rt s call).2 = s
        ∧ ∀ p, (accept rt s call).1 ≠ .ok (.terminal p))
      ∨ (¬ Oversized rt s call ∧ ∃ p, identity p ∉ s
        ∧ accept rt s call = (.ok (.terminal p), insert (identity p) s))
      ∨ (Oversized rt s call ∧ call.context.identity ∉ s
        ∧ accept rt s call = (.error ⟨"proposal_too_large", []⟩,
            insert call.context.identity s)) := by
  by_cases h : call.check = .ok ()
      ∧ call.event.eventType ∈ terminalEvents ∧ call.context.identity ∉ s
      ∧ ∃ texts, terminalTexts rt call.event call.context = .ok texts
  · obtain ⟨hcheck, hevent, hmem, texts, htexts⟩ := h
    obtain ⟨p, hp, haccept⟩ := accept_terminal hcheck hevent hmem htexts
    have hsize := wireBytes_of_terminal htexts hp
    by_cases hlarge : maxProposalEnvelopeBytes < (Proposal.terminal p).wireBytes
    · rw [boundedProposal_large hlarge] at haccept
      rw [hsize] at hlarge
      exact .inr (.inr ⟨⟨hcheck, hevent, hmem, texts, htexts, hlarge⟩, hmem,
        haccept⟩)
    · rw [boundedProposal_small hlarge] at haccept
      refine .inr (.inl ⟨?_, p, ?_, ?_⟩)
      · rintro ⟨_, _, _, texts', htexts', hlarge'⟩
        rw [htexts] at htexts'
        cases Except.ok.inj htexts'
        exact hlarge (hsize.symm ▸ hlarge')
      · rw [identity_of_terminal hp]
        exact hmem
      · rw [identity_of_terminal hp]
        exact haccept
  · refine .inl ⟨?_, accept_other h⟩
    rintro ⟨hcheck, hevent, hmem, texts, htexts, _⟩
    exact h ⟨hcheck, hevent, hmem, texts, htexts⟩

/-- A call that raises changes the broker for an oversized envelope, and for
nothing else. -/
theorem atomic_iff : Atomic rt s call ↔ ¬ Oversized rt s call := by
  rcases accept_cases rt s call with ⟨hsmall, hstate, _⟩
    | ⟨hsmall, p, _, haccept⟩ | ⟨hlarge, hmem, haccept⟩
  · exact iff_of_true (fun _ _ => hstate) hsmall
  · refine iff_of_true (fun e he => ?_) hsmall
    rw [haccept] at he
    cases he
  · refine iff_of_false (fun hatomic => ?_) (not_not.mpr hlarge)
    have hstate := hatomic ⟨"proposal_too_large", []⟩ (by rw [haccept])
    rw [haccept] at hstate
    exact hmem (hstate ▸ Finset.mem_insert_self _ s)

-- ================================================================= once

theorem ended_of_terminal {calls : List Call} {p : TerminalProposal}
    (h : (accept rt s call).1 = .ok (.terminal p)) :
    ended rt s (call :: calls)
      = identity p :: ended rt (accept rt s call).2 calls := by
  rw [ended, h]

theorem ended_of_other {calls : List Call}
    (h : ∀ p, (accept rt s call).1 ≠ .ok (.terminal p)) :
    ended rt s (call :: calls) = ended rt (accept rt s call).2 calls := by
  rw [ended]
  split
  · next p hp => exact absurd hp (h p)
  · rfl

/-- A run that is remembered is not ended by any call. -/
theorem ended_fresh (rt : BrokerRuntime) (calls : List Call) (s : State) :
    (ended rt s calls).Nodup ∧ ∀ run ∈ ended rt s calls, run ∉ s := by
  induction calls generalizing s with
  | nil => exact ⟨List.nodup_nil, fun _ h => by cases h⟩
  | cons call calls ih =>
      obtain ⟨hnodup, hfresh⟩ := ih (accept rt s call).2
      rcases accept_cases rt s call with ⟨_, hstate, hother⟩
        | ⟨_, p, hmem, haccept⟩ | ⟨_, _, haccept⟩
      · rw [ended_of_other hother, hstate]
        rw [hstate] at hnodup hfresh
        exact ⟨hnodup, hfresh⟩
      · rw [ended_of_terminal (by rw [haccept]), haccept]
        rw [haccept] at hnodup hfresh
        refine ⟨List.nodup_cons.mpr ⟨?_, hnodup⟩, ?_⟩
        · intro hagain
          exact hfresh _ hagain (Finset.mem_insert_self _ s)
        · intro run hrun hold
          rcases List.mem_cons.mp hrun with rfl | hrun
          · exact hmem hold
          · exact hfresh run hrun (Finset.mem_insert_of_mem hold)
      · rw [ended_of_other (by rw [haccept]; exact fun p h => by cases h),
          haccept]
        rw [haccept] at hnodup hfresh
        refine ⟨hnodup, fun run hrun hold => ?_⟩
        exact hfresh run hrun (Finset.mem_insert_of_mem hold)

-- ============================================================ what is kept

/-- After calls none of which was oversized, the broker remembers the runs it
has ended, and no others. -/
theorem mem_state_iff {calls : List Call} {s t : State}
    (hsmall : Along (step rt) (fun s call => ¬ Oversized rt s call) s calls)
    (hrun : Run.run (step rt) s calls = some t) (run : Text × Text × Text) :
    run ∈ t ↔ run ∈ s ∨ run ∈ ended rt s calls := by
  induction calls generalizing s with
  | nil =>
      cases hrun
      exact ⟨.inl, fun h => h.elim id fun h => by cases h⟩
  | cons call calls ih =>
      obtain ⟨s', hs', hrest⟩ := Run.run_cons_inv hrun
      cases hs'
      rw [ih (hsmall.2 _ rfl) hrest]
      rcases accept_cases rt s call with ⟨_, hstate, hother⟩
        | ⟨_, p, _, haccept⟩ | ⟨hlarge, _⟩
      · rw [ended_of_other hother, hstate]
      · rw [ended_of_terminal (by rw [haccept]), haccept, Finset.mem_insert,
          List.mem_cons]
        tauto
      · exact absurd hlarge hsmall.1

/-- A run that is not ended is ended as by a new broker. -/
theorem accept_of_not_mem (h : call.context.identity ∉ s) :
    (accept rt s call).1 = (accept rt ∅ call).1 := by
  unfold accept Call.terminate
  rw [if_neg h, if_neg (Finset.notMem_empty _)]
  split
  · rfl
  · split
    · split <;> rfl
    · rfl

/-- The broker is sound over exactly the calls none of which has an
oversized envelope. -/
theorem sound_iff (rt : BrokerRuntime) (calls : List Call) :
    Sound rt calls
      ↔ Along (step rt) (fun s call => ¬ Oversized rt s call) ∅ calls := by
  have hatomic : Atomic rt = fun s call => ¬ Oversized rt s call := by
    funext s call
    exact propext atomic_iff
  constructor
  · intro h
    rw [← hatomic]
    exact h.atomic
  · intro h
    refine ⟨(ended_fresh rt calls ∅).1, hatomic ▸ h, ?_⟩
    intro t hrun call hcall
    apply accept_of_not_mem
    rw [mem_state_iff h hrun]
    exact not_or.mpr ⟨Finset.notMem_empty _, hcall⟩

-- ========================================================== too large a text

/-- A text that no pattern matches is itself, within its limit. -/
theorem redact_same {t : Text} {limit : Int} (hsub : ∀ r, rt.sub r t = t)
    (hpem : rt.hasPemMarker t = false)
    (hlimit : ((utf8 t).length : Int) ≤ limit) :
    redact rt t limit = .ok t := by
  have hsmall : decide (limit < (utf8 t).length) = false :=
    decide_eq_false (Int.not_lt.mpr hlimit)
  unfold redact
  simp only [hsub, hpem, hsmall]
  rfl

/-- What a completed run says. -/
theorem terminalTexts_completed {event : CanonicalEvent}
    {context : ProposalContext} {t : Text}
    (htype : event.eventType = "run.completed".toList)
    (hpayload : event.payload = [("summary".toList, .str t)]) (hne : t ≠ [])
    (hredact : redact rt t context.maxNoteBytes = .ok t) :
    terminalTexts rt event context = .ok ⟨t, none, none, none⟩ := by
  have hfields : event.hasFields ["summary".toList] = true := by
    unfold CanonicalEvent.hasFields
    rw [hpayload]
    rfl
  have hsummary : textField event "summary" (!·.isEmpty) "terminal_fields"
      = .ok t := by
    unfold textField CanonicalEvent.field
    rw [hpayload, orRaise_ok, Option.filter_eq_some_iff]
    exact ⟨rfl, by simpa using hne⟩
  unfold terminalTexts
  rw [if_pos htype, hfields, hsummary]
  simp only [bind, Except.bind, reject, hredact, tooLarge]
  rfl

end

/-- One more byte than an envelope may have. -/
def longText : Text := List.replicate 1048577 'a'

theorem isPlain_longText : ∀ c ∈ longText, IsPlain c := by
  intro c hc
  rw [List.eq_of_mem_replicate hc]
  exact ⟨by decide, by decide, by decide, by decide⟩

theorem length_longText : longText.length = 1048577 := List.length_replicate

theorem smallTerminalKey_length :
    "25dbdfad99bde914075d6abd492c4cc614d6db1468e32cf6e8d4f046992338b0".toList.length
      = 64 := by decide

theorem smallTerminalKey_hex : ∀ c ∈
    "25dbdfad99bde914075d6abd492c4cc614d6db1468e32cf6e8d4f046992338b0".toList,
    ('0' ≤ c ∧ c ≤ '9') ∨ ('a' ≤ c ∧ c ≤ 'f') := by decide

/-- SHA-256 of the keys of `smallTerminal` and `longTerminal`, by the lengths
of their messages. -/
def longSha (m : List UInt8) : Factory.Digest :=
  if m.length = 369 then
    ⟨"25dbdfad99bde914075d6abd492c4cc614d6db1468e32cf6e8d4f046992338b0".toList,
      smallTerminalKey_length, smallTerminalKey_hex⟩
  else
    ⟨"9877685464910bb822dc0db993da98ee1f5459a3b87f41ba043181a7f923639e".toList,
      by decide, by decide⟩

def longRuntime : BrokerRuntime :=
  { smallRuntime with sha256 := longSha }

/-- A run that is completed with a summary, in a context with a large limit
for it. -/
def completed (summary : Text) : Call where
  event := smallEvent "run.completed".toList [
    ("summary".toList, .str summary)] (List.nodup_singleton _)
  context := { smallContext with maxNoteBytes := 2000000 }
  owner := ['o']
  fence := 1
  attestation := none

theorem oversized_completed {t : Text} (hne : t ≠ [])
    (hlimit : ((utf8 t).length : Int) ≤ 2000000)
    (hlarge : maxProposalEnvelopeBytes < (utf8 (Json.quote t)).length) :
    Oversized longRuntime ∅ (completed t) := by
  have htexts : terminalTexts longRuntime (completed t).event
      (completed t).context = .ok ⟨t, none, none, none⟩ :=
    terminalTexts_completed rfl rfl hne (redact_same (fun _ => rfl) rfl hlimit)
  refine ⟨rfl, ?_, Finset.notMem_empty _, _, htexts, ?_⟩
  · show "run.completed".toList ∈ terminalEvents
    decide
  · have hsummary : wireLength (.str t) = (utf8 (Json.quote t)).length := rfl
    unfold envelopeBytes
    rw [hsummary]
    omega

/-- A completed run with a long summary, within the limit of its context. -/
def longTerminal : Call := completed longText

theorem oversized_longTerminal : Oversized longRuntime ∅ longTerminal := by
  have hascii : ∀ c ∈ longText, c.toNat < 128 :=
    fun c hc => (isPlain_longText c hc).2.2.2
  apply oversized_completed
  · intro hnil
    have hlength := length_longText
    rw [hnil] at hlength
    cases hlength
  · rw [utf8_length_of_ascii hascii, length_longText]
    decide
  · rw [length_quote isPlain_longText, length_longText]
    decide

/-- The summary is within its limit, the envelope is not: the call raises,
and the run cannot be ended any more. -/
theorem oversized_unretried :
    (accept longRuntime ∅ longTerminal).1
        = .error ⟨"proposal_too_large", []⟩
      ∧ (accept longRuntime (accept longRuntime ∅ longTerminal).2
          smallTerminal).1 = .error ⟨"duplicate_terminal", []⟩
      ∧ (accept longRuntime ∅ smallTerminal).1.isOk = true
      ∧ ¬ Sound longRuntime [longTerminal] := by
  rcases accept_cases longRuntime ∅ longTerminal with ⟨hsmall, _⟩
    | ⟨hsmall, _⟩ | ⟨_, _, haccept⟩
  · exact absurd oversized_longTerminal hsmall
  · exact absurd oversized_longTerminal hsmall
  · have hmem : smallTerminal.context.identity
        ∈ insert longTerminal.context.identity (∅ : State) :=
      Finset.mem_insert_self _ _
    refine ⟨by rw [haccept], ?_, by decide +kernel, ?_⟩
    · have hcheck : smallTerminal.check = .ok () := rfl
      have hevent : terminalEvents.contains smallTerminal.event.eventType
          = true := by decide
      rw [haccept]
      unfold accept Call.terminate
      rw [hcheck]
      dsimp only
      rw [if_pos hevent, if_pos hmem]
    · intro hsound
      exact atomic_iff.mp hsound.atomic.1 oversized_longTerminal

end Exolon.Broker
