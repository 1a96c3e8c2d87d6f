/-
At most one dispatch an attempt, and one winner, across crashes.

Every call leaves a sound world, wherever it was cut off, so a run does.
`DispatchedOnce` is what that says of the history: a child is posted once,
and only when the row has left the attempts before it behind; a winner that
was ever written is the row's, and stays; another input does nothing.

A child id is a digest, and so is what two inputs are compared by. That the
children of one parent differ is an assumption of the theorem, and that two
inputs do not collide one of the part about them.
-/
import Exolon.Failover.Triples

namespace Exolon.Failover

variable {cfg : Caller}

-- =================================================================== runs

/-- However a call ended, what it left is sound. -/
theorem leave_sound {call : Step Flow} {w : World} {answers : List Answer}
    (hcall : Spec cfg (fun w _ => Sound cfg w) call (fun _ w _ => Sound cfg w)
      (fun w _ => Sound cfg w)) (hw : Sound cfg w) :
    Sound cfg (leave call w answers) :=
  Proc.Meets.ends hcall (fun _ _ h => h) (fun _ _ h => h)
    (s := ⟨w, blank, answers⟩) hw

theorem step_sound {w w' : World} {action : Action} (h : Sound cfg w)
    (hstep : step cfg w action = some w') : Sound cfg w' := by
  cases action with
  | submit input answers =>
      obtain rfl := Option.some.inj hstep
      exact leave_sound (spec_submit input) h
  | resume answers =>
      obtain rfl := Option.some.inj hstep
      exact leave_sound spec_resume h
  | reopen now =>
      obtain rfl := Option.some.inj hstep
      unfold World.reopen
      cases hrow : w.row with
      | none => exact h
      | some loaded =>
          unfold Sound at h ⊢
          rw [hrow] at h
          exact h

theorem run_sound {acts : List Action} {w : World}
    (hrun : Run.run (step cfg) {} acts = some w) : Sound cfg w := by
  have hstart : Sound cfg {} := by
    unfold Sound
    rfl
  exact Run.run_invariant step_sound hstart hrun

/-- The earlier attempt `j` of a row: given up unposted, or a provider's
failure. -/
def LeftBehind (cfg : Caller) (history : List Moment) (j : Nat)
    (row : Record) : Prop :=
  ∃ a, row.attempts[j]? = some a
    ∧ ((a.state = .notSubmitted ∧ ¬PostedAt history j)
      ∨ (a.state = .eligibleFailure ∧ Failed cfg row.request a))

/-- The children of a parent are told apart by their ordinals. -/
def Caller.DistinctChildren (cfg : Caller) (parent : Text) : Prop :=
  ∀ j k b c, cfg.backends[j]? = some b → cfg.backends[k]? = some c →
    cfg.childDigest parent j b.profileDigest
      = cfg.childDigest parent k c.profileDigest → j = k

/-- What holds of a world that a run of calls left. -/
structure DispatchedOnce (cfg : Caller) (w : World) : Prop where
  /-- No child is posted twice. -/
  once : (w.history.filterMap Moment.child?).Nodup
  /-- A child is posted when the row has left all earlier ones behind. -/
  earlier : ∀ k child row, .posted k child row ∈ w.history → ∀ j < k,
    ∃ durable, row = some durable ∧ LeftBehind cfg w.history j durable
  /-- A winner that was ever written is the row's, and its own child's. -/
  winner : ∀ r winner, .saved r ∈ w.history → r.winner = some winner →
    ∃ durable payload, w.row = some (durable, payload)
      ∧ durable.winner = some winner ∧ WinnerOf cfg durable winner
  /-- Once written, a winner stays. -/
  stays : w.history.Pairwise Keeps
  /-- Another input, which does not collide with the first, does nothing:
  no row is written and no backend is asked. -/
  conflict : ∀ first input answers, .created first ∈ w.history →
    input ≠ first →
    (cfg.sha256 input.payload = cfg.sha256 first.payload →
      input.payload = first.payload) →
    step cfg w (.submit input answers) = some w

/-- Distinct ordinals are distinct children. -/
theorem children_nodup {history : List Moment} {r : Record}
    (hfits : Fits cfg history r) (horderly : Orderly history)
    (hchild : cfg.DistinctChildren r.parentDigest) :
    (history.filterMap Moment.child?).Nodup := by
  have honce := horderly.once
  unfold List.Nodup at honce ⊢
  rw [List.pairwise_filterMap] at honce ⊢
  refine honce.imp_of_mem ?_
  intro m m' hm hm' hdistinct c hc c' hc' heq
  have hposted {m : Moment} {c : Text} (hm : m ∈ history)
      (hc : m.child? = some c) : ∃ k b, m.ordinal? = some k
        ∧ cfg.backends[k]? = some b
        ∧ c = cfg.childDigest r.parentDigest k b.profileDigest := by
    cases m with
    | posted k child row =>
        obtain ⟨a, ha, hachild⟩ := hfits.posts k child row hm
        obtain ⟨b, hb, _, _, hid⟩ := hfits.identity k a ha
        obtain rfl := Option.some.inj hc
        exact ⟨k, b, rfl, hb, hachild.symm.trans hid⟩
    | created input => cases hc
    | saved r => cases hc
    | contact ordinal call => cases hc
  obtain ⟨j, b, hj, hb, hjchild⟩ := hposted hm hc
  obtain ⟨k, b', hk, hb', hkchild⟩ := hposted hm' hc'
  refine hdistinct j hj k hk (hchild j k b b' hb hb' ?_)
  rw [← hjchild, ← hkchild, heq]

/-- The row a post found had left the attempts before it behind. -/
theorem left_behind {history : List Moment} {r : Record}
    (hfits : Fits cfg history r) {k j : Nat} {child : Text}
    {row : Option Record} (hposted : .posted k child row ∈ history)
    (hj : j < k) :
    ∃ durable, row = some durable ∧ LeftBehind cfg history j durable := by
  obtain ⟨a, ha, _⟩ := hfits.posts k child row hposted
  obtain ⟨durable, hrow, hsame, hrequest⟩ := hfits.stable k child row hposted
  have hlt := (List.getElem?_eq_some_iff.mp ha).1
  have hat := List.getElem?_eq_getElem (l := r.attempts) (i := j) (by omega)
  have hsettled := hfits.settled j _ hat (by omega)
  refine ⟨durable, hrow, r.attempts[j], (hsame j hj).trans hat, ?_⟩
  cases hstate : r.attempts[j].state with
  | notSubmitted =>
      exact .inl ⟨rfl, hfits.untouched j _ hat (.inr hstate)⟩
  | eligibleFailure =>
      rw [hrequest]
      exact .inr ⟨rfl, hfits.eligible _ (List.getElem_mem _) hstate⟩
  | planned =>
      rw [hstate] at hsettled
      cases hsettled
  | dispatching =>
      rw [hstate] at hsettled
      cases hsettled

/-- A call with another input raises before it does anything. -/
theorem submit_conflict {w : World} {r : Record}
    {payload : Option (List UInt8)} (hrow : w.row = some (r, payload))
    {first input : Input} (hrequest : r.request = cfg.request first)
    (hne : input ≠ first)
    (hcollision : cfg.sha256 input.payload = cfg.sha256 first.payload →
      input.payload = first.payload) (answers : List Answer) :
    leave (submit cfg input) w answers = w := by
  have hother : cfg.request first ≠ cfg.request input := by
    intro heq
    apply hne
    have hsha := congrArg Request.contentSha256 heq
    have hmedia := congrArg Request.mediaType heq
    cases input
    cases first
    exact congr (congrArg Input.mk (hcollision hsha.symm)) hmedia.symm
  unfold leave submit
  cases cfg.checkInput input with
  | some e => rfl
  | none =>
      dsimp only
      rw [Proc.get_bind]
      dsimp only
      rw [hrow]
      dsimp only
      by_cases hvalid : cfg.recordValid r = true
      · rw [hvalid, hrequest, if_pos (by simpa using hother)]
        rfl
      · rw [if_neg (by simp [hvalid])]
        unfold driveRow
        rw [if_neg hvalid]
        rfl

/-- At most one dispatch a child, and one winner, however the calls went
and wherever they were cut off. -/
theorem dispatched_once (cfg : Caller) (acts : List Action) (w : World)
    (hrun : Run.run (step cfg) {} acts = some w)
    (hchild : ∀ input, .created input ∈ w.history →
      cfg.DistinctChildren (cfg.requestDigest (cfg.request input))) :
    DispatchedOnce cfg w := by
  have hsound := run_sound hrun
  unfold Sound at hsound
  cases hrow : w.row with
  | none =>
      rw [hrow] at hsound
      have hnone (m : Moment) : m ∉ w.history := by
        rw [hsound]
        exact List.not_mem_nil
      refine ⟨?_, ?_, ?_, ?_, ?_⟩
      · rw [hsound]
        exact List.nodup_nil
      · intro k child row h
        exact absurd h (hnone _)
      · intro r winner h
        exact absurd h (hnone _)
      · rw [hsound]
        exact List.Pairwise.nil
      · intro first input answers h
        exact absurd h (hnone _)
  | some loaded =>
      obtain ⟨r, payload⟩ := loaded
      rw [hrow] at hsound
      obtain ⟨hfits, horderly⟩ := hsound
      refine ⟨?_, ?_, ?_, horderly.keeps, ?_⟩
      · obtain ⟨first, hcreated⟩ := hfits.created
        refine children_nodup hfits horderly ?_
        rw [hfits.parent, hfits.request first hcreated]
        exact hchild first hcreated
      · intro k child row hposted j hj
        exact left_behind hfits hposted hj
      · intro r' winner hsaved hwinner
        have hwon := hfits.won r' winner hsaved hwinner
        exact ⟨r, payload, hrow, hwon, hfits.winner winner hwon⟩
      · intro first input answers hcreated hne hcollision
        exact congrArg some (submit_conflict hrow
          (hfits.request first hcreated) hne hcollision answers)

-- ================================================== a post that is unknown

def bakeryBase : Text :=
  "fde60e040167c10975b00d11f578c4da6763069a".toList

def bakeryTree : Text :=
  "21817e70e079b772e1f3114a80dfc0320d1ada91".toList

/-- `A page for a small bakery.` -/
def bakeryInput : Input where
  payload := [65, 32, 112, 97, 103, 101, 32, 102, 111, 114, 32, 97, 32, 115,
    109, 97, 108, 108, 32, 98, 97, 107, 101, 114, 121, 46]
  mediaType := "text/plain".toList

def bakeryChild : Text :=
  "fo-a6e0f4513d16a6376cf3a60ba3409cf8af8569ed8b6c3a1b".toList

def qwenDecoder : Text :=
  "9513c336dc2e6cfecae92ebb743e10ea1bb37755e6a5a1da34393b6cd8512d43".toList

def grokDecoder : Text :=
  "7d0c03baf686160f261af2d5a789bb36316bb68bd0dbee1d12afd28d144335ad".toList

/-- A caller of two backends, with the digests of this input. -/
def bakeryCaller : Caller where
  jobId := "job-1".toList
  actorId := "actor-1".toList
  repositoryId := "github.com/Dimkox/ai-dark-factory-landing".toList
  exactBaseSha := bakeryBase
  exactBaseTree := bakeryTree
  deadlineSeconds := 600
  retentionSeconds := 3600
  backends := [
    ⟨"qwen-intl".toList, "/run/a".toList, List.replicate 64 '1'⟩,
    ⟨"grok-vision".toList, "/run/b".toList, List.replicate 64 '2'⟩]
  digest := List.replicate 64 'c'
  profile := fun profileId =>
    if profileId = "qwen-intl".toList then {
      providerId := "qwen".toList
      modelId := "qwen-plus".toList
      adapterId := "https-chat-completions".toList
      adapterVersion := "1.1.0".toList
      decoderDigest := qwenDecoder }
    else {
      providerId := "grok".toList
      modelId := "grok-4.6".toList
      adapterId := "https-chat-completions".toList
      adapterVersion := "1.1.1".toList
      decoderDigest := grokDecoder }
  sha256 := fun _ =>
    "093f4d34b9a2be5ac084130b753752e2e0e9080b5a86d3085824f47956c9d37a".toList
  requestDigest := fun _ =>
    "5749dd47a187d546e57128d93b6111658a483dd33d89b613646b600ad9f2ab05".toList
  childDigest := fun _ ordinal _ =>
    if ordinal = 0 then
      "fo-38403a63829ac05f2a1b79cf408189e4c5695d5250c853fb".toList
    else bakeryChild
  checkInput := fun _ => none
  fits := fun _ => true

/-- The second backend's job is ready. -/
def bakeryReceipt : Receipt where
  source := {
    jobId := bakeryChild
    tenantId := "actor-1".toList
    repositoryId := "github.com/Dimkox/ai-dark-factory-landing".toList
    exactBaseSha := bakeryBase
    exactBaseTree := bakeryTree
    siteId := "site-1".toList
    mediaKind := "text".toList
    mediaType := "text/plain".toList
    byteLength := 26
    contentSha256 := bakeryCaller.sha256 bakeryInput.payload
    quarantineRefDigest := List.replicate 64 '3'
    receivedAt := 10
    expiresAt := 3610
    inputDigest := List.replicate 64 '4' }
  state := .artifactReady
  revision := 4
  reasonCode := "ready".toList
  phase := .artifact
  terminal := true
  artifact := some {
    inputDigest := List.replicate 64 '4'
    profileDigest := List.replicate 64 '2'
    sourceSha := bakeryBase
    sourceTree := bakeryTree
    artifactDigest := List.replicate 64 '5' }
  providerEvidenceDigest := some (List.replicate 64 '6')
  observation := some {
    category := .normalized
    evidence := {
      providerId := "grok".toList
      modelId := "grok-4.6".toList
      adapterId := "https-chat-completions".toList
      adapterVersion := "1.1.1".toList
      decoderDigest := grokDecoder
      profileDigest := List.replicate 64 '2'
      inputDigest := List.replicate 64 '4'
      providerEvidenceDigest := List.replicate 64 '6' } }

/-- The first backend is not there, the second one's answer is lost and the
process with it, and a later call observes what became of the post. -/
def bakeryCalls : List Action :=
  [.submit bakeryInput [.time 0, .ok, .time 0, .time 0, .ok, .time 0,
      .raises .backendUnavailable, .ok, .time 1, .ok, .time 1, .ok,
      .capability true, .ok, .raises .backendAmbiguous, .crash],
    .reopen 20,
    .resume [.time 20, .time 20, .time 20, .ok, .document
      (.receipt bakeryReceipt), .ok, .ok, .ok]]

theorem bakery_children (parent : Text) :
    bakeryCaller.DistinctChildren parent := by
  intro j k b c hj hk heq
  have hfirst {i : Nat} {d : BackendSpec}
      (h : bakeryCaller.backends[i]? = some d) : i = 0 ∨ i = 1 := by
    have hlt : i < 2 := (List.getElem?_eq_some_iff.mp h).1
    omega
  have hdistinct : bakeryCaller.childDigest parent 0 b.profileDigest
      ≠ bakeryCaller.childDigest parent 1 c.profileDigest := by
    show "fo-38403a63829ac05f2a1b79cf408189e4c5695d5250c853fb".toList
      ≠ bakeryChild
    decide +kernel
  rcases hfirst hj with rfl | rfl
  · rcases hfirst hk with rfl | rfl
    · rfl
    · exact absurd heq hdistinct
  · rcases hfirst hk with rfl | rfl
    · exact absurd heq.symm hdistinct
    · rfl

/-- The lost post is the only one, and its child wins. -/
theorem dispatched_once_lostAnswer :
    ∃ w, Run.run (step bakeryCaller) {} bakeryCalls = some w
      ∧ w.history.filterMap Moment.child? = [bakeryChild]
      ∧ w.row.bind (fun loaded => loaded.1.winner.map Winner.childId)
        = some bakeryChild
      ∧ DispatchedOnce bakeryCaller w := by
  have hrun : (Run.run (step bakeryCaller) {} bakeryCalls).map (fun w =>
      (w.history.filterMap Moment.child?,
        w.row.bind fun loaded => loaded.1.winner.map Winner.childId))
      = some ([bakeryChild], some bakeryChild) := by decide +kernel
  obtain ⟨w, hw, hvalues⟩ := Option.map_eq_some_iff.mp hrun
  simp only [Prod.mk.injEq] at hvalues
  exact ⟨w, hw, hvalues.1, hvalues.2, dispatched_once bakeryCaller
    bakeryCalls w hw fun _ _ => bakery_children _⟩

end Exolon.Failover
