/-
A triple for every procedure of the failover coordinator.

What a triple (`Spec`) asserts is about the world and the record in memory,
and wherever the process is cut off it leaves a `Sound` world. The triples
follow the procedures, from `save` up to `submit` and `resume`.

# The assertions

`Working` is an attempt under way, `Observed` one whose receipt is bound,
`Announced` one that the row says is being dispatched and that was never
posted. `Passed` is a loop that has left attempts behind, and `Live` what
every exception leaves for the handler of its attempt.
-/
import Exolon.Failover.Fits

namespace Exolon.Failover

variable {cfg : Caller}

-- ================================================================= triples

/-- A triple of this development: what is asserted is about the world and
the record in memory, and a crash leaves a sound world. -/
def Spec {α : Type} (cfg : Caller) (A : World → Record → Prop) (c : Step α)
    (Q : α → World → Record → Prop) (E : World → Record → Prop) : Prop :=
  Proc.Meets (fun s => Sound cfg s.world) (fun s => A s.world s.record) c
    (fun a s => Q a s.world s.record) (fun _ s => E s.world s.record)

section Rules

variable {α β : Type} {A A' E E' : World → Record → Prop}

theorem Spec.bind {c : Step α} {f : α → Step β}
    {R : α → World → Record → Prop} {Q : β → World → Record → Prop}
    (hc : Spec cfg A c R E) (hf : ∀ a, Spec cfg (R a) (f a) Q E) :
    Spec cfg A (c >>= f) Q E :=
  Proc.meets_bind hc hf

theorem Spec.mono {c : Step α} {Q Q' : α → World → Record → Prop}
    (h : Spec cfg A c Q E) (hA : ∀ w r, A' w r → A w r)
    (hQ : ∀ a w r, Q a w r → Q' a w r) (hE : ∀ w r, E w r → E' w r) :
    Spec cfg A' c Q' E' :=
  Proc.Meets.mono h (fun s => hA s.world s.record)
    (fun a s => hQ a s.world s.record) (fun _ s => hE s.world s.record)

theorem spec_pure {a : α} {Q : α → World → Record → Prop}
    (h : ∀ w r, A w r → Q a w r) : Spec cfg A (pure a) Q E :=
  fun s => h s.world s.record

theorem spec_raise {e : Exn} {Q : α → World → Record → Prop}
    (h : ∀ w r, A w r → E w r) : Spec cfg A (Proc.raise e) Q E :=
  fun s => h s.world s.record

theorem spec_cut {Q : α → World → Record → Prop}
    (h : ∀ w r, A w r → Sound cfg w) : Spec cfg A Proc.cut Q E :=
  fun s => h s.world s.record

/-- What is read of the state selects what is done. -/
theorem spec_get {f : Sim → Step α} {Q : α → World → Record → Prop}
    (h : ∀ s, A s.world s.record →
      Spec cfg (fun w r => w = s.world ∧ r = s.record) (f s) Q E) :
    Spec cfg A (Proc.get >>= f) Q E := by
  intro s hs
  exact h s hs s ⟨rfl, rfl⟩

theorem spec_setRecord {f : Record → Record}
    (h : ∀ w r, A w r → A' w (f r)) :
    Spec cfg A (setRecord f) (fun _ => A') E :=
  fun s => h s.world s.record

/-- An effect notes its moment, or the process is cut off before it. -/
theorem spec_ask {moment : Option Moment}
    (hsound : ∀ w r, A w r → Sound cfg w)
    (hnote : ∀ w r, A w r → A' (moment.elim w w.note) r) :
    Spec cfg A (ask moment) (fun _ => A') A' := by
  intro s hs
  have hnext := hnote s.world s.record hs
  unfold ask
  cases s.answers with
  | nil => exact hsound s.world s.record hs
  | cons answer rest =>
      cases answer with
      | crash => exact hsound s.world s.record hs
      | raises e => exact hnext
      | time t => exact hnext
      | ok => exact hnext
      | capability isExpected => exact hnext
      | document d => exact hnext

/-- An effect of the clock or the journal leaves no moment. -/
theorem spec_silent (hsound : ∀ w r, A w r → Sound cfg w) :
    Spec cfg A (ask none) (fun _ => A) A :=
  spec_ask hsound fun _ _ h => h

theorem spec_readTime (answer : Answer)
    (hsound : ∀ w r, A w r → Sound cfg w) :
    Spec cfg A (readTime answer) (fun _ => A) E := by
  unfold readTime
  split
  · exact spec_pure fun _ _ h => h
  · exact spec_cut hsound

theorem spec_clock (hsound : ∀ w r, A w r → Sound cfg w) :
    Spec cfg A clock (fun _ => A) A :=
  Spec.bind (spec_silent hsound)
    fun answer => spec_readTime answer hsound

end Rules

/-- The world is safe, and the record in memory meets `F`. -/
def Held (cfg : Caller) (F : Record → Prop) (w : World) (r : Record) :
    Prop :=
  Safe cfg w r ∧ F r

theorem Held.sound {F : Record → Prop} {w : World} {r : Record}
    (h : Held cfg F w r) : Sound cfg w :=
  h.1.sound

section Save

variable {A E : World → Record → Prop}

/-- A save leaves the row at the record, or raises, or both. -/
theorem spec_save {purge : Bool} {A' : World → Record → Prop}
    (hsafe : ∀ w r, A w r → Safe cfg w r)
    (hwrite : ∀ w r, A w r → A' (w.write r purge) r)
    (hbefore : ∀ w r, A w r → E w r) (hafter : ∀ w r, A' w r → E w r)
    (hsafe' : ∀ w r, A' w r → Safe cfg w r) :
    Spec cfg A (save cfg purge) (fun _ => A') E := by
  unfold save
  refine spec_get fun s hs => ?_
  split
  case isFalse =>
    refine spec_raise ?_
    rintro w r ⟨rfl, rfl⟩
    exact hbefore _ _ hs
  case isTrue =>
    have hasked : Spec cfg A (ask none) (fun _ => A) E :=
      (spec_silent fun w r h => (hsafe w r h).sound).mono (fun _ _ h => h) (fun _ _ _ h => h) hbefore
    have hwritten : Spec cfg A (writeRecord purge) (fun _ => A') E :=
      fun s hs => hwrite s.world s.record hs
    have hchecked : Spec cfg A' (ask none) (fun _ => A') E :=
      (spec_silent fun w r h => (hsafe' w r h).sound).mono (fun _ _ h => h) (fun _ _ _ h => h) hafter
    have hstart : Spec cfg A (do
        let _ ← ask none
        writeRecord purge
        if purge then
          let _ ← ask none) (fun _ => A') E := by
      refine hasked.bind fun _ => hwritten.bind fun _ => ?_
      split
      · exact hchecked.bind fun _ => spec_pure fun _ _ h => h
      · exact spec_pure fun _ _ h => h
    refine hstart.mono ?_ (fun _ _ _ h => h) (fun _ _ h => h)
    rintro w r ⟨rfl, rfl⟩
    exact hs

/-- A save in the middle of a call. -/
theorem spec_save_held {F E : Record → Prop} (purge : Bool)
    (hE : ∀ r, F r → E r) :
    Spec cfg (Held cfg F) (save cfg purge) (fun _ => Held cfg F)
      (Held cfg E) :=
  spec_save (fun _ _ h => h.1) (fun _ _ h => ⟨(h.1.write purge).1, h.2⟩)
    (fun _ r h => ⟨h.1, hE r h.2⟩) (fun _ r h => ⟨h.1, hE r h.2⟩)
    (fun _ _ h => h.1)

theorem spec_finish {F E : Record → Prop} (state : JobState)
    (reason : Reason) (purge : Bool)
    (hE : ∀ r, F r →
      E { r with state := state, reason := some reason }) :
    Spec cfg (Held cfg F) (finish cfg state reason purge)
      (fun flow w r => flow = .finished ∧ Held cfg E w r) (Held cfg E) := by
  have hset : Spec cfg (Held cfg F) (setRecord fun r =>
      { r with state := state, reason := some reason })
      (fun _ => Held cfg E) (Held cfg E) := by
    refine spec_setRecord ?_
    intro w r h
    exact ⟨⟨h.1.row, h.1.orderly, h.1.memory.finish state reason⟩,
      hE r h.2⟩
  unfold finish
  exact hset.bind fun _ => (spec_save_held purge fun _ h => h).bind
    fun _ => spec_pure fun _ _ h => ⟨rfl, h⟩

end Save

-- ============================================================ assertions

/-- The attempt under way is the last, nothing is won, and it meets `p`. -/
structure Working (k : Nat) (p : Attempt → Prop) (r : Record) : Prop where
  attempt : ∃ a, r.attempts[k]? = some a ∧ p a
  last : k + 1 = r.attempts.length
  winner : r.winner = none

/-- What every exception leaves: a planned attempt has won nothing. -/
structure Live (k : Nat) (r : Record) : Prop where
  attempt : ∃ a, r.attempts[k]? = some a
    ∧ (a.state = .planned → r.winner = none)
  last : k + 1 = r.attempts.length

/-- The loop has left `k` settled attempts behind. -/
structure Passed (k : Nat) (r : Record) : Prop where
  settled : ∀ i < k, ∃ a, r.attempts[i]? = some a ∧ a.state.settled = true
  winner : r.winner = none

/-- The attempt's receipt is bound to it. -/
def Observed (cfg : Caller) (k : Nat) (childId : Text) (receipt : Receipt)
    (r : Record) : Prop :=
  Working k (fun a => a.state = .dispatching ∧ a.receipt = some receipt
    ∧ cfg.Bound r.request a receipt ∧ a.childId = childId) r

/-- What an attempt leaves: the loop goes on only past a settled one. -/
def After (k : Nat) : Flow → Record → Prop
  | .finished, _ => True
  | .next, r => Passed (k + 1) r

theorem Working.live {k : Nat} {p : Attempt → Prop} {r : Record}
    (h : Working k p r) : Live k r := by
  obtain ⟨a, ha, _⟩ := h.attempt
  exact ⟨⟨a, ha, fun _ => h.winner⟩, h.last⟩

/-- A settled last attempt is passed. -/
theorem Fits.passed {history : List Moment} {k : Nat} {r : Record}
    (h : Fits cfg history r)
    (hwork : Working k (fun a => a.state.settled = true) r) :
    Passed (k + 1) r := by
  refine ⟨?_, hwork.winner⟩
  intro i hi
  obtain ⟨a, ha, hsettled⟩ := hwork.attempt
  by_cases hik : i = k
  · subst hik
    exact ⟨a, ha, hsettled⟩
  · have hlast := hwork.last
    have hlt : i < r.attempts.length := by omega
    refine ⟨r.attempts[i], List.getElem?_eq_getElem hlt, ?_⟩
    exact h.settled i _ (List.getElem?_eq_getElem hlt) (by omega)

/-- The attempt under way moves on, in memory. -/
theorem Safe.modify {w : World} {r : Record} (h : Safe cfg w r) {k : Nat}
    {p q : Attempt → Prop} (hwork : Working k p r) {f : Attempt → Attempt}
    (hid : ∀ a, (f a).profileId = a.profileId)
    (hdigest : ∀ a, (f a).profileDigest = a.profileDigest)
    (hchild : ∀ a, (f a).childId = a.childId)
    (hquiet : ∀ a, r.attempts[k]? = some a → p a →
      (f a).state = .planned ∨ (f a).state = .notSubmitted →
        ¬PostedAt w.history k)
    (heligible : ∀ a, p a → (f a).state = .eligibleFailure →
      Failed cfg r.request (f a))
    (hq : ∀ a, p a → q (f a)) :
    Safe cfg w { r with attempts := r.attempts.modify k f }
      ∧ Working k q { r with attempts := r.attempts.modify k f } := by
  obtain ⟨a, ha, hp⟩ := hwork.attempt
  refine ⟨⟨h.row, h.orderly, ?_⟩, ⟨f a, ?_, hq a hp⟩, ?_, hwork.winner⟩
  · exact h.memory.modify hwork.winner ha hwork.last (hid a) (hdigest a)
      (hchild a) (hquiet a ha hp) (heligible a hp)
  · show (r.attempts.modify k f)[k]? = some (f a)
    rw [List.getElem?_modify, ha]
    simp
  · show k + 1 = (r.attempts.modify k f).length
    rw [List.length_modify]
    exact hwork.last

-- ============================================================ one attempt

/-- A handler of its own attempt, or of the loop, finishes the call. -/
theorem spec_finishes {F E : Record → Prop} (k : Nat) (state : JobState)
    (reason : Reason) (purge : Bool)
    (hE : ∀ r, F r →
      E { r with state := state, reason := some reason }) :
    Spec cfg (Held cfg F) (finish cfg state reason purge)
      (fun flow => Held cfg (After k flow)) (Held cfg E) := by
  refine (spec_finish state reason purge hE).mono (fun _ _ h => h) ?_
    fun _ _ h => h
  rintro flow w r ⟨rfl, hsafe, _⟩
  exact ⟨hsafe, trivial⟩

theorem Observed.live {k : Nat} {childId : Text} {receipt : Receipt}
    {r : Record} (h : Observed cfg k childId receipt r) : Live k r :=
  Working.live h

/-- Selecting the child of a bound ready receipt. -/
theorem spec_select {k : Nat} (backend : BackendSpec) {childId : Text}
    {receipt : Receipt} (hready : receipt.state = .artifactReady) :
    Spec cfg (Held cfg (Observed cfg k childId receipt))
      (select cfg backend childId receipt)
      (fun flow => Held cfg (After k flow)) (Held cfg (Live k)) := by
  unfold select
  cases hwinner : winnerOf backend childId receipt with
  | none => exact spec_raise fun _ _ h => ⟨h.1, h.2.live⟩
  | some winner =>
      have hset : Spec cfg (Held cfg (Observed cfg k childId receipt))
          (setRecord fun r => { r with winner := some winner })
          (fun _ => Held cfg (fun r => Live k r)) (Held cfg (Live k)) := by
        refine spec_setRecord ?_
        rintro w r ⟨hsafe, hwork⟩
        obtain ⟨a, ha, hstate, hreceipt, hbound, hchild⟩ := hwork.attempt
        refine ⟨⟨hsafe.row, hsafe.orderly, ?_⟩, ⟨a, ha, ?_⟩, hwork.last⟩
        · refine hsafe.memory.winner_selected hwork.winner
            ⟨a, List.mem_of_getElem? ha, receipt, ?_⟩
          unfold winnerOf at hwinner
          split at hwinner
          case h_1 artifact observation hartifact _ =>
            obtain rfl := Option.some.inj hwinner
            exact ⟨artifact, hreceipt, hbound, hready, hartifact,
              hchild.symm, rfl⟩
          case h_2 => cases hwinner
        · rw [hstate]
          intro h
          cases h
      refine hset.bind fun _ =>
        spec_finishes k .artifactReady .selected true ?_
      exact fun r h => ⟨h.attempt, h.last⟩

/-- A bound receipt that is eligible is a provider's failure. -/
theorem failed_of_eligible {request : Request} {a : Attempt}
    {receipt : Receipt} (hreceipt : a.receipt = some receipt)
    (hbound : cfg.Bound request a receipt)
    (hterminal : receipt.terminal = true)
    (heligible : eligible receipt = true) : Failed cfg request a := by
  unfold eligible at heligible
  simp only [Bool.and_eq_true, decide_eq_true_eq,
    Option.isNone_iff_eq_none, Option.any_eq_true] at heligible
  obtain ⟨⟨⟨hphase, hartifact⟩, _⟩, observation, hobservation, hmem⟩ :=
    heligible
  exact ⟨receipt, observation, hreceipt, hbound, hterminal, hphase,
    hartifact, hobservation, hmem⟩

/-- An eligible failure is written, and the loop goes on. -/
theorem spec_fail {k : Nat} {childId : Text} {receipt : Receipt}
    (hterminal : receipt.terminal = true)
    (heligible : eligible receipt = true) :
    Spec cfg (Held cfg (Observed cfg k childId receipt))
      (do
        setAttempt k fun a => { a with state := .eligibleFailure }
        save cfg false
        pure Flow.next)
      (fun flow => Held cfg (After k flow)) (Held cfg (Live k)) := by
  have hset : Spec cfg (Held cfg (Observed cfg k childId receipt))
      (setAttempt k fun a => { a with state := .eligibleFailure })
      (fun _ => Held cfg (Working k fun a => a.state.settled = true))
      (Held cfg (Live k)) := by
    refine spec_setRecord ?_
    rintro w r ⟨hsafe, hwork⟩
    refine hsafe.modify hwork (fun _ => rfl) (fun _ => rfl) (fun _ => rfl)
      ?_ ?_ fun _ _ => rfl
    · intro a _ _ hquiet
      rcases hquiet with hquiet | hquiet <;> cases hquiet
    · rintro a ⟨_, hreceipt, hbound, _⟩ _
      exact failed_of_eligible hreceipt (hbound.of_identity rfl rfl rfl)
        hterminal heligible
  refine hset.bind fun _ => (spec_save_held false fun _ h => h.live).bind
    fun _ => spec_pure ?_
  rintro w r ⟨hsafe, hwork⟩
  exact ⟨hsafe, hsafe.memory.passed hwork⟩

theorem spec_conclude {k : Nat} (backend : BackendSpec) {childId : Text}
    {receipt : Receipt} :
    Spec cfg (Held cfg (Observed cfg k childId receipt))
      (conclude cfg k backend childId receipt)
      (fun flow => Held cfg (After k flow)) (Held cfg (Live k)) := by
  have hlive (r : Record) (state : JobState) (reason : Reason)
      (h : Observed cfg k childId receipt r) :
      Live k { r with state := state, reason := some reason } :=
    ⟨h.live.attempt, h.last⟩
  unfold conclude
  split
  case isTrue hready =>
    simp only [Bool.and_eq_true, decide_eq_true_eq] at hready
    exact spec_select backend hready.1
  case isFalse =>
    split
    case isTrue =>
      exact spec_finishes k _ _ _ fun r h => hlive r _ _ h
    case isFalse hterminal =>
      simp only [Bool.or_eq_true, Bool.not_eq_eq_eq_not, Bool.not_true,
        not_or, Bool.not_eq_false] at hterminal
      split
      case isTrue heligible => exact spec_fail hterminal.1 heligible
      case isFalse =>
        exact spec_finishes k _ _ _ fun r h => hlive r _ _ h

/-- What was observed is bound before it is kept. -/
theorem spec_bindAndConclude {k : Nat} (backend : BackendSpec)
    (document : Document) :
    Spec cfg (Held cfg (Working k fun a => a.state = .dispatching))
      (bindAndConclude cfg k backend document)
      (fun flow => Held cfg (After k flow)) (Held cfg (Live k)) := by
  unfold bindAndConclude
  refine spec_get fun s hs => ?_
  obtain ⟨a, ha, hstate⟩ := hs.2.attempt
  rw [ha]
  dsimp only
  cases hbind : cfg.bindReceipt s.record.request a document with
  | error e =>
      refine spec_raise ?_
      rintro w r ⟨rfl, rfl⟩
      exact ⟨hs.1, hs.2.live⟩
  | ok receipt =>
      have hbound := Caller.bound_of_bindReceipt hbind
      have hset : Spec cfg (fun w r => w = s.world ∧ r = s.record)
          (setAttempt k fun a => { a with receipt := some receipt })
          (fun _ => Held cfg (Observed cfg k a.childId receipt))
          (Held cfg (Live k)) := by
        refine spec_setRecord ?_
        rintro w r ⟨rfl, rfl⟩
        have hthis : Working k (fun b => b = a) s.record :=
          ⟨⟨a, ha, rfl⟩, hs.2.last, hs.2.winner⟩
        refine hs.1.modify hthis (fun _ => rfl) (fun _ => rfl)
          (fun _ => rfl) ?_ ?_ ?_
        · rintro b _ rfl hquiet
          have hquiet : b.state = .planned ∨ b.state = .notSubmitted :=
            hquiet
          rw [hstate] at hquiet
          rcases hquiet with hquiet | hquiet <;> cases hquiet
        · rintro b rfl heligible
          have heligible : b.state = .eligibleFailure := heligible
          rw [hstate] at heligible
          cases heligible
        · rintro b rfl
          exact ⟨hstate, rfl, hbound.of_identity rfl rfl rfl, rfl⟩
      exact hset.bind fun _ =>
        (spec_save_held false fun _ h => h.live).bind fun _ =>
          spec_conclude backend

theorem spec_readDocument {A : World → Record → Prop} (answer : Answer)
    {E : World → Record → Prop} (hsound : ∀ w r, A w r → Sound cfg w) :
    Spec cfg A (readDocument answer) (fun _ => A) E := by
  unfold readDocument
  split
  · exact spec_pure fun _ _ h => h
  · exact spec_cut hsound

theorem spec_readCapability {A : World → Record → Prop} (answer : Answer)
    {E : World → Record → Prop} (hsound : ∀ w r, A w r → Sound cfg w) :
    Spec cfg A (readCapability answer) (fun _ => A) E := by
  unfold readCapability
  split
  · exact spec_pure fun _ _ h => h
  · exact spec_cut hsound

/-- A backend is asked in the middle of a call. -/
theorem spec_contact {F : Record → Prop} (k : Nat) (call : BackendCall) :
    Spec cfg (Held cfg F) (ask (some (.contact k call)))
      (fun _ => Held cfg F) (Held cfg F) :=
  spec_ask (fun _ _ h => h.sound) fun _ _ h => ⟨h.1.contact k call, h.2⟩

theorem spec_observeAttempt {k : Nat} (backend : BackendSpec) :
    Spec cfg (Held cfg (Working k fun a => a.state = .dispatching))
      (observeAttempt cfg k backend)
      (fun flow => Held cfg (After k flow)) (Held cfg (Live k)) := by
  have hasked : Spec cfg
      (Held cfg (Working k fun a => a.state = .dispatching))
      (ask (some (.contact k .observe)))
      (fun _ => Held cfg (Working k fun a => a.state = .dispatching))
      (Held cfg (Live k)) :=
    (spec_contact k .observe).mono (fun _ _ h => h) (fun _ _ _ h => h)
      fun _ _ h => ⟨h.1, h.2.live⟩
  unfold observeAttempt
  exact hasked.bind fun answer =>
    (spec_readDocument answer fun _ _ h => h.sound).bind fun document =>
      spec_bindAndConclude backend document

/-- The row says that the attempt, which was never posted, is being
dispatched. -/
def Announced (cfg : Caller) (k : Nat) (w : World) (r : Record) : Prop :=
  Held cfg (Working k fun a => a.state = .dispatching) w r
    ∧ ¬PostedAt w.history k ∧ ∃ payload, w.row = some (r, payload)

/-- The one post of an attempt. -/
theorem spec_post {k : Nat} :
    Spec cfg (Announced cfg k) (post k)
      (fun _ => Held cfg (Working k fun a => a.state = .dispatching))
      (Held cfg (Working k fun a => a.state = .dispatching)) := by
  unfold post
  refine spec_get fun s hs => ?_
  obtain ⟨⟨hsafe, hwork⟩, hfresh, payload, hrow⟩ := hs
  obtain ⟨a, ha, hstate⟩ := hwork.attempt
  rw [ha]
  dsimp only
  have hasked : Spec cfg (fun w r => w = s.world ∧ r = s.record)
      (ask (some (.posted k a.childId (s.world.row.map Prod.fst))))
      (fun _ => Held cfg (Working k fun a => a.state = .dispatching))
      (Held cfg (Working k fun a => a.state = .dispatching)) := by
    refine spec_ask ?_ ?_
    · rintro w r ⟨rfl, rfl⟩
      exact hsafe.sound
    · rintro w r ⟨rfl, rfl⟩
      exact ⟨hsafe.posted hrow ha hstate hfresh, hwork⟩
  exact hasked.bind fun _ => spec_pure fun _ _ h => h

theorem spec_tolerateAmbiguous {A : World → Record → Prop} (e : Exn) :
    Spec cfg A (tolerateAmbiguous e) (fun _ => A) A := by
  unfold tolerateAmbiguous
  split
  · exact spec_pure fun _ _ h => h
  · exact spec_raise fun _ _ h => h

/-- Dispatching is saved before the post, which then happens once. -/
theorem spec_sendInput {k : Nat} (backend : BackendSpec) :
    Spec cfg (Held cfg (Working k fun a => a.state = .planned))
      (sendInput cfg k backend)
      (fun flow => Held cfg (After k flow)) (Held cfg (Live k)) := by
  have hset : Spec cfg (Held cfg (Working k fun a => a.state = .planned))
      (setAttempt k fun a => { a with state := .dispatching })
      (fun _ w r => Held cfg (Working k fun a => a.state = .dispatching) w r
        ∧ ¬PostedAt w.history k) (Held cfg (Live k)) := by
    refine spec_setRecord ?_
    rintro w r ⟨hsafe, hwork⟩
    have hfresh : ¬PostedAt w.history k := by
      obtain ⟨a, ha, hstate⟩ := hwork.attempt
      exact hsafe.memory.untouched k a ha (.inl hstate)
    refine ⟨hsafe.modify hwork (fun _ => rfl) (fun _ => rfl)
      (fun _ => rfl) (fun _ _ _ _ => hfresh) ?_ fun _ _ => rfl, hfresh⟩
    intro a _ heligible
    cases heligible
  have hsaved : Spec cfg
      (fun w r => Held cfg (Working k fun a => a.state = .dispatching) w r
        ∧ ¬PostedAt w.history k) (save cfg false)
      (fun _ => Announced cfg k) (Held cfg (Live k)) := by
    refine spec_save (fun _ _ h => h.1.1) ?_
      (fun _ _ h => ⟨h.1.1, h.1.2.live⟩) (fun _ _ h => ⟨h.1.1, h.1.2.live⟩)
      fun _ _ h => h.1.1
    rintro w r ⟨⟨hsafe, hwork⟩, hfresh⟩
    obtain ⟨hsafe', hrow, hhistory⟩ := hsafe.write false
    refine ⟨⟨hsafe', hwork⟩, ?_, hrow⟩
    rw [hhistory, postedAt_append rfl]
    exact hfresh
  have hposted : Spec cfg (Announced cfg k)
      (Proc.tryCatch (post k) tolerateAmbiguous)
      (fun _ => Held cfg (Working k fun a => a.state = .dispatching))
      (Held cfg (Live k)) := by
    refine Proc.meets_tryCatch spec_post fun e => ?_
    exact (spec_tolerateAmbiguous e).mono (fun _ _ h => h)
      (fun _ _ _ h => h) fun _ _ h => ⟨h.1, h.2.live⟩
  unfold sendInput
  exact hset.bind fun _ => hsaved.bind fun _ => hposted.bind fun _ =>
    spec_observeAttempt backend

theorem spec_dispatch {k : Nat} (backend : BackendSpec)
    (payload : Option (List UInt8)) :
    Spec cfg (Held cfg (Working k fun a => a.state = .planned))
      (dispatch cfg k backend payload)
      (fun flow => Held cfg (After k flow)) (Held cfg (Live k)) := by
  have hasked : Spec cfg (Held cfg (Working k fun a => a.state = .planned))
      (ask (some (.contact k .capability)))
      (fun _ => Held cfg (Working k fun a => a.state = .planned))
      (Held cfg (Live k)) :=
    (spec_contact k .capability).mono (fun _ _ h => h) (fun _ _ _ h => h)
      fun _ _ h => ⟨h.1, h.2.live⟩
  unfold dispatch
  refine hasked.bind fun answer =>
    (spec_readCapability answer fun _ _ h => h.sound).bind
      fun isExpected => spec_get fun s hs => ?_
  have hpre (w : World) (r : Record)
      (h : w = s.world ∧ r = s.record) :
      Held cfg (Working k fun a => a.state = .planned) w r := by
    obtain ⟨rfl, rfl⟩ := h
    exact hs
  have hstop (reason : Reason) : Spec cfg
      (fun w r => w = s.world ∧ r = s.record)
      (finish cfg .stopped reason true)
      (fun flow => Held cfg (After k flow)) (Held cfg (Live k)) :=
    (spec_finishes k .stopped reason true
      fun r h => ⟨h.live.attempt, h.last⟩).mono hpre (fun _ _ _ h => h)
      fun _ _ h => h
  split
  · exact hstop _
  · split
    · exact hstop _
    · exact (spec_sendInput backend).mono hpre (fun _ _ _ h => h)
        fun _ _ h => h

/-- An attempt under way is planned or dispatching. -/
theorem Working.split {k : Nat} {r : Record}
    (h : Working k (fun a => a.state.settled = false) r) :
    (stateAt r k = some .planned
        ∧ Working k (fun a => a.state = .planned) r)
      ∨ (stateAt r k ≠ some .planned
        ∧ Working k (fun a => a.state = .dispatching) r) := by
  obtain ⟨a, ha, hstate⟩ := h.attempt
  have hat : stateAt r k = some a.state := by
    unfold stateAt
    rw [ha]
    rfl
  rw [hat]
  cases hcase : a.state with
  | planned => exact .inl ⟨rfl, ⟨a, ha, hcase⟩, h.last, h.winner⟩
  | dispatching =>
      refine .inr ⟨?_, ⟨a, ha, hcase⟩, h.last, h.winner⟩
      intro h
      cases h
  | notSubmitted =>
      rw [hcase] at hstate
      cases hstate
  | eligibleFailure =>
      rw [hcase] at hstate
      cases hstate

theorem spec_attemptBody {k : Nat} (backend : BackendSpec)
    (payload : Option (List UInt8)) :
    Spec cfg (Held cfg (Working k fun a => a.state.settled = false))
      (attemptBody cfg k backend payload)
      (fun flow => Held cfg (After k flow)) (Held cfg (Live k)) := by
  have hclock : Spec cfg
      (Held cfg (Working k fun a => a.state.settled = false)) clock
      (fun _ => Held cfg (Working k fun a => a.state.settled = false))
      (Held cfg (Live k)) :=
    (spec_clock fun _ _ h => h.sound).mono (fun _ _ h => h)
      (fun _ _ _ h => h) fun _ _ h => ⟨h.1, h.2.live⟩
  have hasked : Spec cfg
      (Held cfg (Working k fun a => a.state.settled = false))
      (ask (some (.contact k .factory)))
      (fun _ => Held cfg (Working k fun a => a.state.settled = false))
      (Held cfg (Live k)) :=
    (spec_contact k .factory).mono (fun _ _ h => h) (fun _ _ _ h => h)
      fun _ _ h => ⟨h.1, h.2.live⟩
  unfold attemptBody
  refine hclock.bind fun _ => hasked.bind fun _ =>
    spec_get fun s hs => ?_
  rcases hs.2.split with ⟨hplanned, hwork⟩ | ⟨hplanned, hwork⟩
  · rw [if_pos hplanned]
    refine (spec_dispatch backend payload).mono ?_ (fun _ _ _ h => h)
      fun _ _ h => h
    rintro w r ⟨rfl, rfl⟩
    exact ⟨hs.1, hwork⟩
  · rw [if_neg hplanned]
    refine (spec_observeAttempt backend).mono ?_ (fun _ _ _ h => h)
      fun _ _ h => h
    rintro w r ⟨rfl, rfl⟩
    exact ⟨hs.1, hwork⟩

/-- A handler finishes the call, or gives an attempt up that nothing was
submitted for. -/
theorem spec_rescue {k : Nat} (e : Exn) :
    Spec cfg (Held cfg (Live k)) (rescue cfg k e)
      (fun flow => Held cfg (After k flow))
      (Held cfg fun _ => True) := by
  unfold rescue
  refine spec_get fun s hs => ?_
  have hpre (w : World) (r : Record)
      (h : w = s.world ∧ r = s.record) : Held cfg (Live k) w r := by
    obtain ⟨rfl, rfl⟩ := h
    exact hs
  have hfinish (state : JobState) (reason : Reason) (purge : Bool) :
      Spec cfg (fun w r => w = s.world ∧ r = s.record)
        (finish cfg state reason purge)
        (fun flow => Held cfg (After k flow))
        (Held cfg fun _ => True) :=
    (spec_finishes k state reason purge fun _ _ => trivial).mono hpre
      (fun _ _ _ h => h) fun _ _ h => h
  have hraise : Spec cfg (fun w r => w = s.world ∧ r = s.record)
      (Proc.raise e) (fun flow => Held cfg (After k flow))
      (Held cfg fun _ => True) :=
    spec_raise fun w r h => ⟨(hpre w r h).1, trivial⟩
  cases e with
  | backendUnavailable =>
      obtain ⟨a, ha, hnone⟩ := hs.2.attempt
      have hat : stateAt s.record k = some a.state := by
        unfold stateAt
        rw [ha]
        rfl
      by_cases hplanned : a.state = .planned
      case neg =>
        have hne : stateAt s.record k ≠ some .planned := by
          rw [hat]
          exact fun h => hplanned (Option.some.inj h)
        dsimp only
        rw [if_pos hne]
        exact hfinish _ _ _
      case pos =>
        have heq : ¬stateAt s.record k ≠ some .planned := by
          rw [hat, hplanned]
          exact fun h => h rfl
        have hwork : Working k (fun a => a.state = .planned) s.record :=
          ⟨⟨a, ha, hplanned⟩, hs.2.last, hnone hplanned⟩
        have hset : Spec cfg (fun w r => w = s.world ∧ r = s.record)
            (setAttempt k fun a => { a with state := .notSubmitted })
            (fun _ => Held cfg (Working k fun a => a.state.settled = true))
            (Held cfg fun _ => True) := by
          refine spec_setRecord ?_
          rintro w r ⟨rfl, rfl⟩
          refine hs.1.modify hwork (fun _ => rfl) (fun _ => rfl)
            (fun _ => rfl) ?_ ?_ fun _ _ => rfl
          · intro b hb hstate _
            exact hs.1.memory.untouched k b hb (.inl hstate)
          · intro b _ heligible
            cases heligible
        dsimp only
        rw [if_neg heq]
        refine hset.bind fun _ =>
          (spec_save_held false fun _ _ => trivial).bind fun _ =>
            spec_pure ?_
        rintro w r ⟨hsafe, hwork⟩
        exact ⟨hsafe, hsafe.memory.passed hwork⟩
  | backendAmbiguous => exact hfinish _ _ _
  | backendRejected => exact hfinish _ _ _
  | settingsError => exact hfinish _ _ _
  | landingContractError => exact hfinish _ _ _
  | osError => exact hfinish _ _ _
  | valueError => exact hfinish _ _ _
  | other => exact hraise

theorem spec_attemptBackend {k : Nat} (backend : BackendSpec)
    (payload : Option (List UInt8)) :
    Spec cfg (Held cfg (Working k fun a => a.state.settled = false))
      (attemptBackend cfg k backend payload)
      (fun flow => Held cfg (After k flow))
      (Held cfg fun _ => True) :=
  Proc.meets_tryCatch (spec_attemptBody backend payload) spec_rescue

-- =============================================================== the loop

/-- What the loop does at `k` depends on whether there is an attempt. -/
theorem Fits.split {history : List Moment} {k : Nat} {r : Record}
    (h : Fits cfg history r) (hpassed : Passed k r) :
    r.attempts.length = k ∨ Passed (k + 1) r
      ∨ Working k (fun a => a.state.settled = false) r := by
  have hle : k ≤ r.attempts.length := by
    by_contra hlt
    obtain ⟨a, ha, _⟩ := hpassed.settled r.attempts.length (by omega)
    exact absurd (List.getElem?_eq_some_iff.mp ha).1 (lt_irrefl _)
  by_cases heq : r.attempts.length = k
  · exact .inl heq
  · have hlt : k < r.attempts.length := by omega
    have hat := List.getElem?_eq_getElem hlt
    cases hsettled : r.attempts[k].state.settled with
    | true =>
        refine .inr (.inl ⟨?_, hpassed.winner⟩)
        intro i hi
        by_cases hik : i = k
        · subst hik
          exact ⟨_, hat, hsettled⟩
        · exact hpassed.settled i (by omega)
    | false =>
        refine .inr (.inr ⟨⟨_, hat, hsettled⟩, ?_, hpassed.winner⟩)
        by_contra hlast
        have hset := h.settled k _ hat (by omega)
        rw [hsettled] at hset
        cases hset

theorem stateAt_settled {k : Nat} {r : Record} (h : Passed (k + 1) r) :
    (stateAt r k).any AttemptState.settled = true := by
  obtain ⟨a, ha, hsettled⟩ := h.settled k (by omega)
  unfold stateAt
  rw [ha]
  exact hsettled

theorem stateAt_working {k : Nat} {r : Record}
    (h : Working k (fun a => a.state.settled = false) r) :
    (stateAt r k).any AttemptState.settled = false
      ∧ (stateAt r k).isNone = false := by
  obtain ⟨a, ha, hsettled⟩ := h.attempt
  unfold stateAt
  rw [ha]
  exact ⟨hsettled, rfl⟩

theorem stateAt_length (r : Record) : stateAt r r.attempts.length = none := by
  unfold stateAt
  rw [List.getElem?_eq_none (le_refl _)]
  rfl

/-- Whatever was there, there is an attempt under way to try. -/
theorem spec_planAttempt {k : Nat} {backend : BackendSpec}
    (hbackend : cfg.backends[k]? = some backend) :
    Spec cfg (Held cfg fun r => Passed k r ∧ (r.attempts.length = k
        ∨ Working k (fun a => a.state.settled = false) r))
      (planAttempt cfg k backend)
      (fun _ => Held cfg (Working k fun a => a.state.settled = false))
      (Held cfg fun _ => True) := by
  unfold planAttempt
  refine spec_get fun s hs => ?_
  obtain ⟨hsafe, hpassed, hlength | hwork⟩ := hs
  · subst hlength
    rw [stateAt_length, Option.isNone_none, if_pos rfl]
    have hset : Spec cfg (fun w r => w = s.world ∧ r = s.record)
        (setRecord fun r => { r with
          attempts := r.attempts ++ [cfg.planned r.parentDigest
            s.record.attempts.length backend] })
        (fun _ => Held cfg (Working s.record.attempts.length
          fun a => a.state.settled = false))
        (Held cfg fun _ => True) := by
      refine spec_setRecord ?_
      rintro w r ⟨rfl, rfl⟩
      refine ⟨⟨hsafe.row, hsafe.orderly, ?_⟩, ⟨cfg.planned
        s.record.parentDigest s.record.attempts.length backend, ?_, rfl⟩,
        ?_, hpassed.winner⟩
      · refine hsafe.memory.plan hpassed.winner hbackend ?_
        intro a ha
        obtain ⟨i, hi⟩ := List.mem_iff_getElem?.mp ha
        obtain ⟨b, hb, hsettled⟩ := hpassed.settled i
          (List.getElem?_eq_some_iff.mp hi).1
        obtain rfl := Option.some.inj (hb.symm.trans hi)
        exact hsettled
      · exact List.getElem?_concat_length
      · show s.record.attempts.length + 1
          = (s.record.attempts ++ [cfg.planned s.record.parentDigest
            s.record.attempts.length backend]).length
        rw [List.length_append, List.length_singleton]
    exact hset.bind fun _ => spec_save_held false fun _ _ => trivial
  · rw [(stateAt_working hwork).2, if_neg Bool.false_ne_true]
    refine spec_pure ?_
    rintro w r ⟨rfl, rfl⟩
    exact ⟨hsafe, hwork⟩

/-- The loop, from a backend on: by induction on the backends left. -/
theorem spec_driveFrom (payload : Option (List UInt8)) (k : Nat)
    (backends : List BackendSpec) (hdrop : cfg.backends.drop k = backends) :
    Spec cfg (Held cfg (Passed k)) (driveFrom cfg payload k backends)
      (fun _ => Held cfg fun _ => True) (Held cfg fun _ => True) := by
  induction backends generalizing k with
  | nil =>
      exact (spec_finish .exhausted .providersUnavailable true
        fun _ _ => trivial).mono (fun _ _ h => h) (fun _ _ _ h => h.2)
        fun _ _ h => h
  | cons backend rest ih =>
      have hbackend : cfg.backends[k]? = some backend := by
        rw [← List.head?_drop, hdrop]
        rfl
      have hrest : cfg.backends.drop (k + 1) = rest := by
        rw [← List.tail_drop, hdrop]
        rfl
      unfold driveFrom
      refine spec_get fun s hs => ?_
      have hpre (F : Record → Prop) (hF : F s.record) (w : World)
          (r : Record) (h : w = s.world ∧ r = s.record) :
          Held cfg F w r := by
        obtain ⟨rfl, rfl⟩ := h
        exact ⟨hs.1, hF⟩
      by_cases hsettled :
          (stateAt s.record k).any AttemptState.settled = true
      · rw [if_pos hsettled]
        refine (ih (k + 1) hrest).mono (hpre _ ?_) (fun _ _ _ h => h)
          fun _ _ h => h
        rcases hs.1.memory.split hs.2 with hlength | hpassed | hwork
        · rw [← hlength, stateAt_length] at hsettled
          cases hsettled
        · exact hpassed
        · rw [(stateAt_working hwork).1] at hsettled
          cases hsettled
      · rw [if_neg hsettled]
        have hhere : Passed k s.record ∧ (s.record.attempts.length = k
            ∨ Working k (fun a => a.state.settled = false) s.record) := by
          refine ⟨hs.2, ?_⟩
          rcases hs.1.memory.split hs.2 with hlength | hpassed | hwork
          · exact .inl hlength
          · exact absurd (stateAt_settled hpassed) hsettled
          · exact .inr hwork
        have hclock : Spec cfg (fun w r => w = s.world ∧ r = s.record) clock
            (fun _ => Held cfg fun r => Passed k r ∧ (r.attempts.length = k
              ∨ Working k (fun a => a.state.settled = false) r))
            (Held cfg fun _ => True) :=
          (spec_clock fun _ _ h => h.sound).mono (hpre _ hhere)
            (fun _ _ _ h => h) fun _ _ h => ⟨h.1, trivial⟩
        refine hclock.bind fun now => ?_
        split
        · exact (spec_finish .stopped .deadline true
            fun _ _ => trivial).mono (fun _ _ h => h) (fun _ _ _ h => h.2)
            fun _ _ h => h
        · refine (spec_planAttempt hbackend).bind fun _ =>
            (spec_attemptBackend backend payload).bind fun flow => ?_
          cases flow with
          | finished => exact spec_pure fun _ _ h => ⟨h.1, trivial⟩
          | next => exact ih (k + 1) hrest

theorem spec_drive (payload : Option (List UInt8)) :
    Spec cfg (Held cfg fun _ => True) (drive cfg payload)
      (fun _ => Held cfg fun _ => True) (Held cfg fun _ => True) := by
  unfold drive
  refine spec_get fun s hs => ?_
  have hpre (F : Record → Prop) (hF : F s.record) (w : World)
      (r : Record) (h : w = s.world ∧ r = s.record) : Held cfg F w r := by
    obtain ⟨rfl, rfl⟩ := h
    exact ⟨hs.1, hF⟩
  split
  case isTrue =>
    exact spec_pure fun w r h => hpre (fun _ => True) trivial w r h
  case isFalse hdecided =>
    have hnone : s.record.winner = none := by
      unfold Record.decided at hdecided
      simp only [Bool.or_eq_true, not_or, Option.isSome_iff_ne_none,
        not_not] at hdecided
      exact hdecided.1.1.1
    have hpassed : Passed 0 s.record := ⟨fun i hi => by omega, hnone⟩
    have hclock : Spec cfg (fun w r => w = s.world ∧ r = s.record) clock
        (fun _ => Held cfg (Passed 0)) (Held cfg fun _ => True) :=
      (spec_clock fun _ _ h => h.sound).mono (hpre _ hpassed)
        (fun _ _ _ h => h) fun _ _ h => ⟨h.1, trivial⟩
    refine hclock.bind fun now => ?_
    split
    · exact (spec_finish .expired .retentionExpired true
        fun _ _ => trivial).mono (fun _ _ h => h) (fun _ _ _ h => h.2)
        fun _ _ h => h
    · exact spec_driveFrom payload 0 cfg.backends List.drop_zero

-- ================================================================== calls

/-- A sound world whose row is `r`. -/
def Loaded (cfg : Caller) (r : Record) (payload : Option (List UInt8))
    (w : World) (_ : Record) : Prop :=
  Sound cfg w ∧ w.row = some (r, payload)

/-- Loading a row puts it in memory. -/
theorem spec_driveRow (r : Record) (payload : Option (List UInt8)) :
    Spec cfg (Loaded cfg r payload) (driveRow cfg r payload)
      (fun _ w _ => Sound cfg w) (fun w _ => Sound cfg w) := by
  unfold driveRow
  split
  · have hload : Spec cfg (Loaded cfg r payload) (setRecord fun _ => r)
        (fun _ => Held cfg fun _ => True) (fun w _ => Sound cfg w) := by
      refine spec_setRecord ?_
      rintro w s ⟨hsound, hrow⟩
      unfold Sound at hsound
      rw [hrow] at hsound
      obtain ⟨hfits, horderly⟩ := hsound
      exact ⟨⟨⟨r, payload, hrow, hfits⟩, horderly, hfits⟩, trivial⟩
    refine hload.bind fun _ => (spec_drive payload).mono (fun _ _ h => h) ?_
      fun _ _ h => h.sound
    exact fun _ _ _ h => h.sound
  · exact spec_raise fun _ _ h => h.1

/-- A new job: nothing was posted, and nothing is won. -/
theorem fits_new (input : Input) (now : Int) :
    Fits cfg [.created input] (newRecord cfg input now) := by
  have hposted (k : Nat) (child : Text) (row : Option Record) :
      .posted k child row ∉ [Moment.created input] := by
    intro h
    cases List.mem_singleton.mp h
  refine ⟨?_, ?_, ?_, ?_, ?_, ?_, ?_, ?_, ?_, ?_, rfl⟩
  · intro k a ha
    cases ha
  · intro k a ha
    cases ha
  · intro k a ha
    cases ha
  · intro k child row h
    exact absurd h (hposted k child row)
  · intro a ha
    cases ha
  · intro w hw
    cases hw
  · intro r w h
    cases List.mem_singleton.mp h
  · intro k child row h
    exact absurd h (hposted k child row)
  · exact ⟨input, List.mem_singleton_self _⟩
  · intro other h
    obtain rfl := Moment.created.inj (List.mem_singleton.mp h)
    rfl

theorem spec_create (input : Input) (now : Int) :
    Spec cfg (fun w _ => Sound cfg w ∧ w.row = none) (create cfg input now)
      (fun _ => Held cfg fun _ => True) (fun w _ => Sound cfg w) := by
  have hasked : Spec cfg (fun w _ => Sound cfg w ∧ w.row = none) (ask none)
      (fun _ w _ => Sound cfg w ∧ w.row = none) (fun w _ => Sound cfg w) :=
    (spec_silent fun _ _ h => h.1).mono (fun _ _ h => h) (fun _ _ _ h => h)
      fun _ _ h => h.1
  unfold create
  refine hasked.bind fun _ => ?_
  rintro s ⟨hsound, hrow⟩
  unfold Sound at hsound
  rw [hrow] at hsound
  have hfits : Fits cfg (s.world.history ++ [.created input])
      (newRecord cfg input now) := by
    rw [hsound]
    exact fits_new input now
  have horderly : Orderly (s.world.history ++ [.created input]) := by
    rw [hsound]
    exact ⟨List.nodup_nil, List.pairwise_singleton _ _⟩
  exact ⟨⟨⟨_, _, rfl, hfits⟩, horderly, hfits⟩, trivial⟩

theorem spec_submit (input : Input) :
    Spec cfg (fun w _ => Sound cfg w) (submit cfg input)
      (fun _ w _ => Sound cfg w) (fun w _ => Sound cfg w) := by
  unfold submit
  cases cfg.checkInput input with
  | some e => exact spec_raise fun _ _ h => h
  | none =>
      refine spec_get fun s hs => ?_
      cases hrow : s.world.row with
      | some loaded =>
          obtain ⟨prior, payload⟩ := loaded
          dsimp only
          split
          · refine spec_raise ?_
            rintro w r ⟨rfl, rfl⟩
            exact hs
          · refine (spec_driveRow prior payload).mono ?_ (fun _ _ _ h => h)
              fun _ _ h => h
            rintro w r ⟨rfl, rfl⟩
            exact ⟨hs, hrow⟩
      | none =>
          have hclock : Spec cfg (fun w r => w = s.world ∧ r = s.record)
              clock (fun _ w _ => Sound cfg w ∧ w.row = none)
              (fun w _ => Sound cfg w) := by
            refine (spec_clock fun _ _ h => h.1).mono ?_ (fun _ _ _ h => h)
              fun _ _ h => h.1
            rintro w r ⟨rfl, rfl⟩
            exact ⟨hs, hrow⟩
          refine hclock.bind fun now => (spec_create input now).bind
            fun _ => (spec_drive (some input.payload)).mono
              (fun _ _ h => h) ?_ fun _ _ h => h.sound
          exact fun _ _ _ h => h.sound

theorem spec_resume :
    Spec cfg (fun w _ => Sound cfg w) (resume cfg)
      (fun _ w _ => Sound cfg w) (fun w _ => Sound cfg w) := by
  unfold resume
  refine spec_get fun s hs => ?_
  cases hrow : s.world.row with
  | none =>
      refine spec_raise ?_
      rintro w r ⟨rfl, rfl⟩
      exact hs
  | some loaded =>
      obtain ⟨prior, payload⟩ := loaded
      refine (spec_driveRow prior payload).mono ?_ (fun _ _ _ h => h)
        fun _ _ h => h
      rintro w r ⟨rfl, rfl⟩
      exact ⟨hs, hrow⟩

end Exolon.Failover
