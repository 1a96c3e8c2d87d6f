/-
How a record and a history of the coordinator go together.

`Fits` holds of the record in memory and of the row, which may be behind
it. `Safe` is the invariant of a call: both fit, no attempt was posted
twice, and no row that named a winner was followed by one that did not.

# The argument

An attempt leaves `planned` once, and is posted only afterwards, when the
row already says so. So a planned or not submitted attempt was never
posted, and a crash at any point leaves a row from which the call is
resumed by observing, not by posting again.
-/
import Exolon.Failover.Coordinator

namespace Exolon.Failover

-- ============================================================== vocabulary

/-- The attempt at `k` was posted. -/
def PostedAt (history : List Moment) (k : Nat) : Prop :=
  ∃ child row, .posted k child row ∈ history

/-- The ordinal a moment posted. -/
def Moment.ordinal? : Moment → Option Nat
  | .posted ordinal _ _ => some ordinal
  | .created _ | .saved _ | .contact .. => none

/-- The child id a moment posted. -/
def Moment.child? : Moment → Option Text
  | .posted _ childId _ => some childId
  | .created _ | .saved _ | .contact .. => none

/-- A moment that named a winner is followed by none without it. -/
def Keeps (m m' : Moment) : Prop :=
  ∀ r w, m = .saved r → r.winner = some w →
    ∀ r', m' = .saved r' → r'.winner = some w

section Caller

variable (cfg : Caller)

/-- A provider's failure, by a bound final receipt. -/
def Failed (request : Request) (a : Attempt) : Prop :=
  ∃ receipt observation, a.receipt = some receipt
    ∧ cfg.Bound request a receipt ∧ receipt.terminal = true
    ∧ receipt.phase = .provider ∧ receipt.artifact = none
    ∧ receipt.observation = some observation
    ∧ observation.category ∈ fallbackCategories

/-- A winner, by a bound ready receipt of an attempt's own child. -/
def WinnerOf (r : Record) (w : Winner) : Prop :=
  ∃ a ∈ r.attempts, ∃ receipt artifact, a.receipt = some receipt
    ∧ cfg.Bound r.request a receipt ∧ receipt.state = .artifactReady
    ∧ receipt.artifact = some artifact ∧ w.childId = a.childId
    ∧ w.artifactDigest = artifact.artifactDigest

/-- A record and a history go together. -/
structure Fits (history : List Moment) (r : Record) : Prop where
  identity : ∀ k a, r.attempts[k]? = some a → ∃ b, cfg.backends[k]? = some b
    ∧ a.profileId = b.profileId ∧ a.profileDigest = b.profileDigest
    ∧ a.childId = cfg.childDigest r.parentDigest k b.profileDigest
  settled : ∀ k a, r.attempts[k]? = some a → k + 1 < r.attempts.length →
    a.state.settled = true
  untouched : ∀ k a, r.attempts[k]? = some a →
    a.state = .planned ∨ a.state = .notSubmitted → ¬PostedAt history k
  posts : ∀ k child row, .posted k child row ∈ history →
    ∃ a, r.attempts[k]? = some a ∧ a.childId = child
  eligible : ∀ a ∈ r.attempts, a.state = .eligibleFailure →
    Failed cfg r.request a
  winner : ∀ w, r.winner = some w → WinnerOf cfg r w
  won : ∀ r' w, .saved r' ∈ history → r'.winner = some w →
    r.winner = some w
  stable : ∀ k child row, .posted k child row ∈ history →
    ∃ r', row = some r' ∧ (∀ i < k, r'.attempts[i]? = r.attempts[i]?)
      ∧ r'.request = r.request
  created : ∃ input, .created input ∈ history
  request : ∀ input, .created input ∈ history →
    r.request = cfg.request input
  parent : r.parentDigest = cfg.requestDigest r.request

/-- The history posts nothing twice and keeps its winner. -/
structure Orderly (history : List Moment) : Prop where
  once : (history.filterMap Moment.ordinal?).Nodup
  keeps : history.Pairwise Keeps

/-- What holds of the world between calls. -/
def Sound (w : World) : Prop :=
  match w.row with
  | none => w.history = []
  | some (r, _) => Fits cfg w.history r ∧ Orderly w.history

/-- What holds throughout a call that has its record. -/
structure Safe (w : World) (r : Record) : Prop where
  row : ∃ r₀ payload, w.row = some (r₀, payload) ∧ Fits cfg w.history r₀
  orderly : Orderly w.history
  memory : Fits cfg w.history r

end Caller

variable {cfg : Caller}

theorem Safe.sound {w : World} {r : Record} (h : Safe cfg w r) :
    Sound cfg w := by
  obtain ⟨r₀, payload, hrow, hfits⟩ := h.row
  unfold Sound
  rw [hrow]
  exact ⟨hfits, h.orderly⟩

-- ======================================================= growing histories

/-- Only a post changes what was posted. -/
theorem postedAt_append {history : List Moment} {moment : Moment}
    (hnone : moment.ordinal? = none) {k : Nat} :
    PostedAt (history ++ [moment]) k ↔ PostedAt history k := by
  constructor
  · rintro ⟨child, row, h⟩
    rcases List.mem_append.mp h with h | h
    · exact ⟨child, row, h⟩
    · obtain rfl := List.mem_singleton.mp h
      cases hnone
  · rintro ⟨child, row, h⟩
    exact ⟨child, row, List.mem_append_left _ h⟩

theorem mem_posted_append {history : List Moment} {moment : Moment}
    (hnone : moment.ordinal? = none) {k : Nat} {child : Text}
    {row : Option Record}
    (h : .posted k child row ∈ history ++ [moment]) :
    .posted k child row ∈ history := by
  rcases List.mem_append.mp h with h | h
  · exact h
  · obtain rfl := List.mem_singleton.mp h
    cases hnone

namespace Orderly

variable {history : List Moment} {moment : Moment}

/-- A moment that posts nothing new and keeps the winners before it. -/
theorem append (h : Orderly history) (hnone : moment.ordinal? = none)
    (hkeeps : ∀ m ∈ history, Keeps m moment) :
    Orderly (history ++ [moment]) where
  once := by
    rw [List.filterMap_append, List.filterMap_cons_none hnone,
      List.filterMap_nil, List.append_nil]
    exact h.once
  keeps := by
    rw [List.pairwise_append]
    refine ⟨h.keeps, List.pairwise_singleton _ _, ?_⟩
    intro m hm m' hm'
    obtain rfl := List.mem_singleton.mp hm'
    exact hkeeps m hm

theorem post (h : Orderly history) {k : Nat} (child : Text)
    (row : Option Record) (hfresh : ¬PostedAt history k) :
    Orderly (history ++ [.posted k child row]) where
  once := by
    rw [List.filterMap_append]
    apply List.Nodup.append h.once (List.nodup_singleton k)
    intro j hj hk
    obtain rfl := List.mem_singleton.mp hk
    obtain ⟨m, hm, hordinal⟩ := List.mem_filterMap.mp hj
    cases m with
    | posted ordinal childId durable =>
        obtain rfl := Option.some.inj hordinal
        exact hfresh ⟨childId, durable, hm⟩
    | created input => cases hordinal
    | saved r => cases hordinal
    | contact ordinal call => cases hordinal
  keeps := by
    rw [List.pairwise_append]
    refine ⟨h.keeps, List.pairwise_singleton _ _, ?_⟩
    intro m hm m' hm' r w hsaved hwinner r' hr'
    obtain rfl := List.mem_singleton.mp hm'
    cases hr'

end Orderly

namespace Fits

variable {history : List Moment} {r : Record}

theorem created_append (h : Fits cfg history r) (moment : Moment) :
    ∃ input, .created input ∈ history ++ [moment] := by
  obtain ⟨input, hcreated⟩ := h.created
  exact ⟨input, List.mem_append_left _ hcreated⟩

/-- A backend was asked. -/
theorem contact (h : Fits cfg history r) (k : Nat) (call : BackendCall) :
    Fits cfg (history ++ [.contact k call]) r :=
  { h with
    untouched := fun j a ha hstate hposted =>
      h.untouched j a ha hstate ((postedAt_append rfl).mp hposted)
    posts := fun j child row hposted =>
      h.posts j child row (mem_posted_append rfl hposted)
    won := by
      intro r' w hsaved
      rcases List.mem_append.mp hsaved with hsaved | hsaved
      · exact h.won r' w hsaved
      · cases List.mem_singleton.mp hsaved
    stable := fun j child row hposted =>
      h.stable j child row (mem_posted_append rfl hposted)
    created := h.created_append _
    request := by
      intro input hcreated
      rcases List.mem_append.mp hcreated with hcreated | hcreated
      · exact h.request input hcreated
      · cases List.mem_singleton.mp hcreated }

/-- A record with these winners was written. -/
theorem saved (h : Fits cfg history r) {r' : Record}
    (hwinner : ∀ w, r'.winner = some w → r.winner = some w) :
    Fits cfg (history ++ [.saved r']) r :=
  { h with
    untouched := fun j a ha hstate hposted =>
      h.untouched j a ha hstate ((postedAt_append rfl).mp hposted)
    posts := fun j child row hposted =>
      h.posts j child row (mem_posted_append rfl hposted)
    won := by
      intro r'' w hsaved hw
      rcases List.mem_append.mp hsaved with hsaved | hsaved
      · exact h.won r'' w hsaved hw
      · obtain rfl := Moment.saved.inj (List.mem_singleton.mp hsaved)
        exact hwinner w hw
    stable := fun j child row hposted =>
      h.stable j child row (mem_posted_append rfl hposted)
    created := h.created_append _
    request := by
      intro input hcreated
      rcases List.mem_append.mp hcreated with hcreated | hcreated
      · exact h.request input hcreated
      · cases List.mem_singleton.mp hcreated }

/-- The last attempt, dispatching, was posted. -/
theorem posted (h : Fits cfg history r) {k : Nat} {a : Attempt}
    (ha : r.attempts[k]? = some a) (hstate : a.state = .dispatching) :
    Fits cfg (history ++ [.posted k a.childId (some r)]) r :=
  { h with
    untouched := by
      rintro j b hb hquiet ⟨child, durable, hposted⟩
      rcases List.mem_append.mp hposted with hposted | hposted
      · exact h.untouched j b hb hquiet ⟨child, durable, hposted⟩
      · obtain ⟨rfl, -, -⟩ :=
          Moment.posted.inj (List.mem_singleton.mp hposted)
        obtain rfl := Option.some.inj (ha.symm.trans hb)
        rw [hstate] at hquiet
        rcases hquiet with hquiet | hquiet <;> cases hquiet
    posts := by
      intro j child durable hposted
      rcases List.mem_append.mp hposted with hposted | hposted
      · exact h.posts j child durable hposted
      · obtain ⟨rfl, rfl, -⟩ :=
          Moment.posted.inj (List.mem_singleton.mp hposted)
        exact ⟨a, ha, rfl⟩
    won := by
      intro r' w hsaved
      rcases List.mem_append.mp hsaved with hsaved | hsaved
      · exact h.won r' w hsaved
      · cases List.mem_singleton.mp hsaved
    stable := by
      intro j child durable hposted
      rcases List.mem_append.mp hposted with hposted | hposted
      · exact h.stable j child durable hposted
      · obtain ⟨-, -, rfl⟩ :=
          Moment.posted.inj (List.mem_singleton.mp hposted)
        exact ⟨r, rfl, fun _ _ => rfl, rfl⟩
    created := h.created_append _
    request := by
      intro input hcreated
      rcases List.mem_append.mp hcreated with hcreated | hcreated
      · exact h.request input hcreated
      · cases List.mem_singleton.mp hcreated }

-- ========================================================= growing records

/-- State, reason and times bind nothing. -/
theorem finish (h : Fits cfg history r) (state : JobState)
    (reason : Reason) :
    Fits cfg history { r with state := state, reason := some reason } :=
  { h with }

theorem winner_selected (h : Fits cfg history r) (hnone : r.winner = none)
    {w : Winner} (hw : WinnerOf cfg r w) :
    Fits cfg history { r with winner := some w } :=
  { h with
    winner := by
      intro w' hw'
      obtain rfl := Option.some.inj hw'
      exact hw
    won := by
      intro r' w' hsaved hw'
      have hwon := h.won r' w' hsaved hw'
      rw [hnone] at hwon
      cases hwon }

/-- One more attempt, when all before it are settled. -/
theorem plan (h : Fits cfg history r) (hnone : r.winner = none)
    {backend : BackendSpec}
    (hbackend : cfg.backends[r.attempts.length]? = some backend)
    (hsettled : ∀ a ∈ r.attempts, a.state.settled = true) :
    Fits cfg history { r with attempts := r.attempts
      ++ [cfg.planned r.parentDigest r.attempts.length backend] } := by
  have hposted (k : Nat) (hk : PostedAt history k) :
      k < r.attempts.length := by
    obtain ⟨child, row, hposted⟩ := hk
    obtain ⟨a, ha, _⟩ := h.posts k child row hposted
    exact (List.getElem?_eq_some_iff.mp ha).1
  have hcases {k : Nat} {a : Attempt}
      (ha : (r.attempts ++ [cfg.planned r.parentDigest r.attempts.length
        backend])[k]? = some a) :
      r.attempts[k]? = some a ∨ (k = r.attempts.length
        ∧ a = cfg.planned r.parentDigest r.attempts.length backend) := by
    by_cases hk : k < r.attempts.length
    · rw [List.getElem?_append_left hk] at ha
      exact .inl ha
    · rw [List.getElem?_append_right (by omega)] at ha
      have hlt := (List.getElem?_eq_some_iff.mp ha).1
      rw [List.length_singleton] at hlt
      have hzero : k - r.attempts.length = 0 := by omega
      rw [hzero] at ha
      exact .inr ⟨by omega, (Option.some.inj ha).symm⟩
  refine { h with
    identity := ?_
    settled := ?_
    untouched := ?_
    posts := ?_
    eligible := ?_
    winner := ?_
    stable := ?_ }
  · intro k a ha
    rcases hcases ha with ha | ⟨rfl, rfl⟩
    · exact h.identity k a ha
    · exact ⟨backend, hbackend, rfl, rfl, rfl⟩
  · intro k a ha hk
    rcases hcases ha with ha | ⟨rfl, rfl⟩
    · exact hsettled a (List.mem_of_getElem? ha)
    · simp only [List.length_append, List.length_singleton] at hk
      omega
  · intro k a ha hstate hk
    rcases hcases ha with ha | ⟨rfl, rfl⟩
    · exact h.untouched k a ha hstate hk
    · exact absurd (hposted _ hk) (lt_irrefl _)
  · intro k child row hk
    obtain ⟨a, ha, hchild⟩ := h.posts k child row hk
    refine ⟨a, ?_, hchild⟩
    rw [List.getElem?_append_left (List.getElem?_eq_some_iff.mp ha).1]
    exact ha
  · intro a ha hstate
    rcases List.mem_append.mp ha with ha | ha
    · exact h.eligible a ha hstate
    · obtain rfl := List.mem_singleton.mp ha
      cases hstate
  · intro w hw
    rw [hnone] at hw
    cases hw
  · intro k child row hk
    obtain ⟨r', hr', hsame, hrequest⟩ := h.stable k child row hk
    refine ⟨r', hr', ?_, hrequest⟩
    intro i hi
    have hlt := hposted k ⟨child, row, hk⟩
    rw [hsame i hi, List.getElem?_append_left (by omega)]

/-- The last attempt moves on. -/
theorem modify (h : Fits cfg history r) (hnone : r.winner = none)
    {k : Nat} {a : Attempt} (ha : r.attempts[k]? = some a)
    (hlast : k + 1 = r.attempts.length) {f : Attempt → Attempt}
    (hid : (f a).profileId = a.profileId)
    (hdigest : (f a).profileDigest = a.profileDigest)
    (hchild : (f a).childId = a.childId)
    (hquiet : (f a).state = .planned ∨ (f a).state = .notSubmitted →
      ¬PostedAt history k)
    (heligible : (f a).state = .eligibleFailure →
      Failed cfg r.request (f a)) :
    Fits cfg history { r with attempts := r.attempts.modify k f } := by
  have hother {j : Nat} (hj : j ≠ k) :
      (r.attempts.modify k f)[j]? = r.attempts[j]? := by
    rw [List.getElem?_modify]
    cases r.attempts[j]? with
    | none => rfl
    | some b => simp [Ne.symm hj]
  have hhere : (r.attempts.modify k f)[k]? = some (f a) := by
    rw [List.getElem?_modify, ha]
    simp
  have hcases {j : Nat} {b : Attempt}
      (hb : (r.attempts.modify k f)[j]? = some b) :
      (j ≠ k ∧ r.attempts[j]? = some b) ∨ (j = k ∧ b = f a) := by
    by_cases hj : j = k
    · rw [hj, hhere] at hb
      exact .inr ⟨hj, (Option.some.inj hb).symm⟩
    · rw [hother hj] at hb
      exact .inl ⟨hj, hb⟩
  have hposted (j : Nat) (hj : PostedAt history j) :
      j < r.attempts.length := by
    obtain ⟨child, row, hposted⟩ := hj
    obtain ⟨b, hb, _⟩ := h.posts j child row hposted
    exact (List.getElem?_eq_some_iff.mp hb).1
  refine { h with
    identity := ?_
    settled := ?_
    untouched := ?_
    posts := ?_
    eligible := ?_
    winner := ?_
    stable := ?_ }
  · intro j b hb
    rcases hcases hb with ⟨_, hb⟩ | ⟨rfl, rfl⟩
    · exact h.identity j b hb
    · obtain ⟨backend, hbackend, hprofile, hprofileDigest, hchildId⟩ :=
        h.identity j a ha
      exact ⟨backend, hbackend, hid.trans hprofile,
        hdigest.trans hprofileDigest, hchild.trans hchildId⟩
  · intro j b hb hj
    rw [List.length_modify] at hj
    rcases hcases hb with ⟨_, hb⟩ | ⟨rfl, rfl⟩
    · exact h.settled j b hb hj
    · omega
  · intro j b hb hstate
    rcases hcases hb with ⟨_, hb⟩ | ⟨rfl, rfl⟩
    · exact h.untouched j b hb hstate
    · exact hquiet hstate
  · intro j child row hj
    obtain ⟨b, hb, hbchild⟩ := h.posts j child row hj
    by_cases hk : j = k
    · subst hk
      obtain rfl := Option.some.inj (ha.symm.trans hb)
      exact ⟨f a, hhere, hchild.trans hbchild⟩
    · exact ⟨b, (hother hk).trans hb, hbchild⟩
  · intro b hb hstate
    obtain ⟨j, hj⟩ := List.mem_iff_getElem?.mp hb
    rcases hcases hj with ⟨_, hj⟩ | ⟨rfl, rfl⟩
    · exact h.eligible b (List.mem_of_getElem? hj) hstate
    · exact heligible hstate
  · intro w hw
    rw [hnone] at hw
    cases hw
  · intro j child row hj
    obtain ⟨r', hr', hsame, hrequest⟩ := h.stable j child row hj
    refine ⟨r', hr', ?_, hrequest⟩
    intro i hi
    have hlt := hposted j ⟨child, row, hj⟩
    rw [hsame i hi]
    exact (hother (by omega)).symm

end Fits

-- ================================================== the world and a record

namespace Safe

variable {w : World} {r : Record}

theorem contact (h : Safe cfg w r) (k : Nat) (call : BackendCall) :
    Safe cfg (w.note (.contact k call)) r := by
  obtain ⟨r₀, payload, hrow, hfits⟩ := h.row
  refine ⟨⟨r₀, payload, hrow, hfits.contact k call⟩,
    h.orderly.append rfl ?_, h.memory.contact k call⟩
  intro m _ r' winner _ _ r'' hsaved
  cases hsaved

/-- A write leaves the row at the record in memory. -/
theorem write (h : Safe cfg w r) (purge : Bool) :
    Safe cfg (w.write r purge) r
      ∧ (∃ payload, (w.write r purge).row = some (r, payload))
      ∧ (w.write r purge).history = w.history ++ [.saved r] := by
  obtain ⟨r₀, payload, hrow, _⟩ := h.row
  have heq : w.write r purge = { w with
      row := some (r, if purge then none else payload) }.note (.saved r) := by
    unfold World.write
    rw [hrow]
  have hfits : Fits cfg (w.history ++ [.saved r]) r :=
    h.memory.saved fun _ hw => hw
  rw [heq]
  refine ⟨⟨⟨r, _, rfl, hfits⟩, h.orderly.append rfl ?_, hfits⟩,
    ⟨_, rfl⟩, rfl⟩
  rintro m hm r' winner rfl hwinner r'' hr''
  obtain rfl := Moment.saved.inj hr''
  exact h.memory.won r' winner hm hwinner

/-- A post, when the row says that the attempt is being dispatched. -/
theorem posted (h : Safe cfg w r) {payload : Option (List UInt8)}
    (hrow : w.row = some (r, payload)) {k : Nat} {a : Attempt}
    (ha : r.attempts[k]? = some a) (hstate : a.state = .dispatching)
    (hfresh : ¬PostedAt w.history k) :
    Safe cfg (w.note (.posted k a.childId (w.row.map Prod.fst))) r := by
  have hfits : Fits cfg (w.history ++ [.posted k a.childId (some r)]) r :=
    h.memory.posted ha hstate
  rw [hrow]
  exact ⟨⟨r, payload, hrow, hfits⟩, h.orderly.post _ _ hfresh, hfits⟩

end Safe

end Exolon.Failover
