/-
A round skips no candidate.

The cursor of a round passes a fresh candidate only when every one up to it
has been claimed or was not due: one that was neither blocks those after it,
and the page lists them in order. `Cleared` is what the loop keeps of the
cursor, `Orderly` what it keeps of the calls; `loop_invariant` is the
induction of both.
-/
import Exolon.Recovery.Reconcile

namespace Exolon.Recovery

-- ================================================================ the order

section Order

variable {α : Type}

theorem interleave_perm (xs ys : List α) :
    (interleave xs ys).Perm (xs ++ ys) := by
  fun_induction interleave xs ys with
  | case1 ys => exact .refl _
  | case2 xs h => rw [List.append_nil]
  | case3 x xs y ys ih =>
      rw [List.cons_append]
      refine .cons x ?_
      exact (ih.cons y).trans List.perm_middle.symm

/-- The one kind keeps its order among the other. -/
theorem filter_interleave {p : α → Bool} {xs ys : List α}
    (hxs : ∀ x ∈ xs, p x = true) (hys : ∀ y ∈ ys, p y = false) :
    (interleave xs ys).filter p = xs := by
  fun_induction interleave xs ys with
  | case1 ys =>
      rw [List.filter_eq_nil_iff]
      intro y hy
      rw [hys y hy]
      decide
  | case2 xs h => exact List.filter_eq_self.mpr hxs
  | case3 x xs y ys ih =>
      rw [List.forall_mem_cons] at hxs hys
      rw [List.filter_cons_of_pos hxs.1, List.filter_cons_of_neg,
        ih hxs.2 hys.2]
      rw [hys.1]
      decide

end Order

/-- The candidates in the order of a round. -/
def Page.ordered (page : Page) : List Candidate :=
  interleave (fresh page.candidates) (retries page.candidates)

theorem mem_fresh {c : Candidate} {candidates : List Candidate} :
    c ∈ fresh candidates ↔ c ∈ candidates ∧ c.source = .fresh := by
  unfold fresh
  rw [List.mem_filter, decide_eq_true_iff]

theorem mem_retries {c : Candidate} {candidates : List Candidate} :
    c ∈ retries candidates ↔ c ∈ candidates ∧ c.source = .cleanupRetry := by
  unfold retries
  rw [List.mem_filter, decide_eq_true_iff]

theorem Page.fresh_ordered (page : Page) :
    fresh page.ordered = fresh page.candidates := by
  apply filter_interleave
  · intro c hc
    exact decide_eq_true (mem_fresh.mp hc).2
  · intro c hc
    rw [(mem_retries.mp hc).2]
    rfl

theorem Page.ordered_perm (page : Page) :
    page.ordered.Perm page.candidates := by
  refine (interleave_perm _ _).trans ?_
  have hretries : retries page.candidates
      = page.candidates.filter fun c => !decide (c.source = .fresh) := by
    apply List.filter_congr
    intro c _
    cases c.source <;> rfl
  rw [hretries]
  exact List.filter_append_perm _ _

/-- A page lists its fresh candidates in the order of their cursors, above a
given one. -/
structure Page.Listed (page : Page) (given : Option Cursor) : Prop where
  sorted : ((fresh page.candidates).map Candidate.cursor).Pairwise (· ≤ ·)
  above : ∀ k, given = some k → ∀ c ∈ fresh page.candidates, k < c.cursor

theorem Page.eq_of_cursor (page : Page) {c c' : Candidate}
    (hc : c ∈ page.candidates) (hc' : c' ∈ page.candidates)
    (h : c.cursor = c'.cursor) : c = c' := by
  have hrun : c.runId = c'.runId := congrArg Cursor.runId h
  exact List.inj_on_of_nodup_map page.runIds_nodup hc hc' hrun

/-- The fresh candidates up to one of the round come no later than it. -/
theorem Page.Listed.mem_done {page : Page} {given : Option Cursor}
    (h : page.Listed given) {done rest : List Candidate} {c c' : Candidate}
    (hordered : page.ordered = done ++ c :: rest) (hc : c.source = .fresh)
    (hc' : c' ∈ fresh page.candidates) (hle : c'.cursor ≤ c.cursor) :
    c' ∈ done ++ [c] := by
  have hfresh : fresh page.candidates
      = fresh done ++ c :: fresh rest := by
    rw [← page.fresh_ordered, hordered]
    unfold fresh
    rw [List.filter_append, List.filter_cons, if_pos (decide_eq_true hc)]
  have hsorted := h.sorted
  rw [hfresh, List.map_append, List.map_cons, List.pairwise_append,
    List.pairwise_cons] at hsorted
  rw [List.mem_append, List.mem_singleton]
  have hmem := hc'
  rw [hfresh, List.mem_append, List.mem_cons] at hmem
  rcases hmem with hdone | heq | hrest
  · exact .inl (mem_fresh.mp hdone).1
  · exact .inr heq
  · have hge := hsorted.2.1.1 _ (List.mem_map_of_mem hrest)
    have hmem_c : c ∈ fresh page.candidates := by
      rw [hfresh]
      exact List.mem_append_right _ List.mem_cons_self
    exact .inr (page.eq_of_cursor (mem_fresh.mp hc').1 (mem_fresh.mp hmem_c).1
      (le_antisymm hle hge))

-- ============================================================= the calls

/-- The claims of a log that were about the candidate asked for. -/
def claims (log : List Call) : List Claim :=
  log.filterMap fun
    | .claim candidate (.claimed claim) =>
        if claim.candidate = candidate then some claim else none
    | _ => none

/-- The workspaces that were released. -/
def releases (log : List Call) : List WorkspaceHandle :=
  log.filterMap fun
    | .release handle => some handle
    | _ => none

/-- The claims whose outcome was recorded. -/
def outcomes (log : List Call) : List Claim :=
  log.filterMap fun
    | .success claim => some claim
    | .failure claim => some claim
    | _ => none

/-- One workspace at most is released for a claim, and one outcome at most
recorded. -/
structure Matched (log : List Call) : Prop where
  releases : (releases log).Sublist ((claims log).map Claim.handle)
  outcomes : (outcomes log).Sublist (claims log)

/-- So it is after every call of a log, and each claim is of another of the
given candidates. -/
structure Orderly (candidates : List Candidate) (log : List Call) : Prop where
  matched : ∀ calls, calls <+: log → Matched calls
  claimed : ((claims log).map Claim.candidate).Sublist candidates

/-- The calls that may follow a decision about a candidate. -/
inductive Follows (c : Candidate) : Decision → List Call → Prop
  | nothing (d : Decision) : Follows c d []
  | failure {claim : Claim} (h : claim.candidate = c) :
      Follows c (.claimed claim) [.failure claim]
  | release {claim : Claim} (h : claim.candidate = c) :
      Follows c (.claimed claim) [.release claim.handle]
  | releaseFailure {claim : Claim} (h : claim.candidate = c) :
      Follows c (.claimed claim) [.release claim.handle, .failure claim]
  | releaseSuccess {claim : Claim} (h : claim.candidate = c) :
      Follows c (.claimed claim) [.release claim.handle, .success claim]

section Calls

variable {log calls : List Call} {candidates : List Candidate}
  {c : Candidate}

theorem claims_append (log calls : List Call) :
    claims (log ++ calls) = claims log ++ claims calls :=
  List.filterMap_append

theorem releases_append (log calls : List Call) :
    releases (log ++ calls) = releases log ++ releases calls :=
  List.filterMap_append

theorem outcomes_append (log calls : List Call) :
    outcomes (log ++ calls) = outcomes log ++ outcomes calls :=
  List.filterMap_append

theorem Matched.append (h : Matched log) (h' : Matched calls) :
    Matched (log ++ calls) := by
  constructor
  · rw [releases_append, claims_append, List.map_append]
    exact h.releases.append h'.releases
  · rw [outcomes_append, claims_append]
    exact h.outcomes.append h'.outcomes

/-- A turn that is cut off is one too. -/
theorem Follows.of_prefix {d : Decision} {part : List Call}
    (h : Follows c d calls) (hpart : part <+: calls) : Follows c d part := by
  cases part with
  | nil => exact .nothing d
  | cons first part =>
      cases h with
      | nothing => exact absurd hpart (by simp)
      | failure h =>
          obtain ⟨rfl, hrest⟩ := List.cons_prefix_cons.mp hpart
          rw [List.prefix_nil.mp hrest]
          exact .failure h
      | release h =>
          obtain ⟨rfl, hrest⟩ := List.cons_prefix_cons.mp hpart
          rw [List.prefix_nil.mp hrest]
          exact .release h
      | releaseFailure h =>
          obtain ⟨rfl, hrest⟩ := List.cons_prefix_cons.mp hpart
          rcases List.prefix_cons_iff.mp hrest with rfl | ⟨t, rfl, ht⟩
          · exact .release h
          · rw [List.prefix_nil.mp ht]
            exact .releaseFailure h
      | releaseSuccess h =>
          obtain ⟨rfl, hrest⟩ := List.cons_prefix_cons.mp hpart
          rcases List.prefix_cons_iff.mp hrest with rfl | ⟨t, rfl, ht⟩
          · exact .release h
          · rw [List.prefix_nil.mp ht]
            exact .releaseSuccess h

theorem claims_claimed {claim : Claim} (hc : claim.candidate = c)
    (rest : List Call) :
    claims (.claim c (.claimed claim) :: rest) = claim :: claims rest := by
  unfold claims
  rw [List.filterMap_cons_some]
  exact if_pos hc

/-- The calls of one turn match. -/
theorem Follows.matched {d : Decision} (h : Follows c d calls) :
    Matched (.claim c d :: calls) := by
  cases h with
  | nothing => exact ⟨List.nil_sublist _, List.nil_sublist _⟩
  | failure h =>
      constructor
      · exact List.nil_sublist _
      · rw [claims_claimed h]
        exact .refl _
  | release h =>
      constructor
      · rw [claims_claimed h]
        exact .refl _
      · exact List.nil_sublist _
  | releaseFailure h =>
      constructor <;>
        · rw [claims_claimed h]
          exact .refl _
  | releaseSuccess h =>
      constructor <;>
        · rw [claims_claimed h]
          exact .refl _

/-- No other candidate is claimed in a turn. -/
theorem Follows.not_claim {c' : Candidate} {d d' : Decision}
    (h : Follows c d calls) : Call.claim c' d' ∉ calls := by
  cases h <;> simp

/-- A turn claims its own candidate, if any. -/
theorem Follows.claimed {d : Decision} (h : Follows c d calls) :
    ((claims (.claim c d :: calls)).map Claim.candidate).Sublist [c] := by
  have hnone : claims calls = [] := by
    cases h <;> rfl
  rw [← List.singleton_append, claims_append, hnone, List.append_nil]
  cases d with
  | claimed claim =>
      by_cases heq : claim.candidate = c
      · rw [claims_claimed heq, List.map_cons, heq]
        exact .refl _
      · have hno : claims [.claim c (.claimed claim)] = [] :=
          List.filterMap_cons_none (if_neg heq)
        rw [hno]
        exact List.nil_sublist _
  | raised => exact List.nil_sublist _
  | absent => exact List.nil_sublist _
  | notDue answer => exact List.nil_sublist _

/-- A turn keeps the order of the calls. -/
theorem Orderly.follow {d : Decision} (h : Orderly candidates log)
    (hcalls : Follows c d calls) :
    Orderly (candidates ++ [c]) (log ++ .claim c d :: calls) := by
  have hlog := h.matched log (List.prefix_refl log)
  constructor
  · intro part hpart
    rcases List.prefix_or_prefix_of_prefix hpart
      (List.prefix_append log (.claim c d :: calls)) with hbefore | hafter
    · exact h.matched part hbefore
    · obtain ⟨rest, rfl⟩ := hafter
      rw [List.prefix_append_right_inj] at hpart
      apply hlog.append
      cases rest with
      | nil => exact h.matched [] List.nil_prefix
      | cons call rest =>
          obtain ⟨rfl, hrest⟩ := List.cons_prefix_cons.mp hpart
          exact (hcalls.of_prefix hrest).matched
  · rw [claims_append, List.map_append]
    exact h.claimed.append hcalls.claimed

end Calls

-- ============================================================== one turn

/-- The candidate is claimed, or not due. -/
def Decision.Settles (c : Candidate) : Decision → Prop
  | .notDue answer => answer.candidate = c
  | .claimed claim => claim.candidate = c
  | _ => False

/-- A decision that moves the cursor. -/
def Decision.Moves (c : Candidate) : Decision → Prop
  | .notDue answer => answer.candidate = c
  | .claimed claim =>
      claim.candidate = c ∧ claim.advancesDiscoveryCursor = true
  | _ => False

/-- The candidate was claimed, or reported not due. -/
def Handled (log : List Call) (c : Candidate) : Prop :=
  ∃ d, .claim c d ∈ log ∧ d.Settles c

/-- What a turn leaves of the variables, and the calls it has made. -/
structure Turned (c : Candidate) (d : Decision) (p p' : Progress) : Prop where
  safeCursor : p'.safeCursor = (p.decided c d).1.safeCursor
  freshBlocked : p'.freshBlocked = (p.decided c d).1.freshBlocked
  log : ∃ calls, Follows c d calls ∧ p'.log = p.log ++ .claim c d :: calls

section Turn

variable {σ : Type} {world : World σ} {startedAt : ℚ}

/-- The end of a clean-up makes one call at most. -/
theorem recordFailed_spec (claim : Claim) (w : σ) (p : Progress) :
    (recordFailed world startedAt claim w p).2.safeCursor = p.safeCursor
      ∧ (recordFailed world startedAt claim w p).2.freshBlocked
        = p.freshBlocked
      ∧ ((recordFailed world startedAt claim w p).2.log = p.log
        ∨ (recordFailed world startedAt claim w p).2.log
          = p.log ++ [.failure claim]) := by
  unfold recordFailed
  dsimp only
  split
  · exact ⟨rfl, rfl, .inl rfl⟩
  · split
    · exact ⟨rfl, rfl, .inr rfl⟩
    · exact ⟨rfl, rfl, .inr rfl⟩

theorem recordSucceeded_spec (claim : Claim) (w : σ) (p : Progress) :
    (recordSucceeded world startedAt claim w p).2.safeCursor = p.safeCursor
      ∧ (recordSucceeded world startedAt claim w p).2.freshBlocked
        = p.freshBlocked
      ∧ ((recordSucceeded world startedAt claim w p).2.log = p.log
        ∨ (recordSucceeded world startedAt claim w p).2.log
          = p.log ++ [.success claim]) := by
  unfold recordSucceeded
  dsimp only
  split
  · exact ⟨rfl, rfl, .inl rfl⟩
  · split
    · exact ⟨rfl, rfl, .inr rfl⟩
    · exact ⟨rfl, rfl, .inr rfl⟩

/-- A clean-up leaves the cursor, and its calls may follow the claim. -/
theorem cleanUp_spec {claim : Claim} {c : Candidate}
    (hc : claim.candidate = c) (w : σ) (p : Progress) :
    (cleanUp world startedAt claim w p).2.safeCursor = p.safeCursor
      ∧ (cleanUp world startedAt claim w p).2.freshBlocked = p.freshBlocked
      ∧ ∃ calls, Follows c (.claimed claim) calls
        ∧ (cleanUp world startedAt claim w p).2.log = p.log ++ calls := by
  unfold cleanUp
  dsimp only
  split
  · obtain ⟨hsafe, hblocked, hlog⟩ := recordFailed_spec claim
      (remaining world startedAt w).2 p
    refine ⟨hsafe, hblocked, ?_⟩
    rcases hlog with hlog | hlog
    · exact ⟨[], .nothing _, by rw [hlog, List.append_nil]⟩
    · exact ⟨_, .failure hc, hlog⟩
  · have hreleased : (p.called (.release claim.handle)).log
        = p.log ++ [.release claim.handle] := rfl
    split
    · obtain ⟨hsafe, hblocked, hlog⟩ := recordSucceeded_spec claim _
        (p.called (.release claim.handle))
      refine ⟨hsafe, hblocked, ?_⟩
      rw [hreleased, List.append_assoc] at hlog
      rcases hlog with hlog | hlog
      · exact ⟨_, .release hc, hlog⟩
      · exact ⟨_, .releaseSuccess hc, hlog⟩
    · obtain ⟨hsafe, hblocked, hlog⟩ := recordFailed_spec claim _
        (p.called (.release claim.handle))
      refine ⟨hsafe, hblocked, ?_⟩
      rw [hreleased, List.append_assoc] at hlog
      rcases hlog with hlog | hlog
      · exact ⟨_, .release hc, hlog⟩
      · exact ⟨_, .releaseFailure hc, hlog⟩

/-- A decision makes no call, and has a claim only of its candidate. -/
theorem decided_spec (p : Progress) (c : Candidate) (d : Decision) :
    (p.decided c d).1.log = p.log
      ∧ ∀ claim, (p.decided c d).2 = some claim →
        d = .claimed claim ∧ claim.candidate = c := by
  unfold Progress.decided
  cases d with
  | raised => exact ⟨rfl, fun claim h => by cases h⟩
  | absent => exact ⟨rfl, fun claim h => by cases h⟩
  | notDue answer =>
      dsimp only
      split
      · exact ⟨rfl, fun claim h => by cases h⟩
      · exact ⟨rfl, fun claim h => by cases h⟩
  | claimed claim =>
      dsimp only
      split
      · exact ⟨rfl, fun claim h => by cases h⟩
      · next heq =>
          refine ⟨rfl, fun claim' h => ?_⟩
          cases Option.some.inj h
          exact ⟨rfl, not_not.mp heq⟩

/-- What it does to the cursor depends on the cursor and the block alone. -/
theorem decided_congr {p q : Progress} (hsafe : q.safeCursor = p.safeCursor)
    (hblocked : q.freshBlocked = p.freshBlocked) (c : Candidate)
    (d : Decision) :
    (q.decided c d).1.safeCursor = (p.decided c d).1.safeCursor
      ∧ (q.decided c d).1.freshBlocked = (p.decided c d).1.freshBlocked := by
  unfold Progress.decided Progress.failed
  cases d with
  | raised => exact ⟨hsafe, by dsimp only; rw [hblocked]⟩
  | absent => exact ⟨hsafe, by dsimp only; rw [hblocked]⟩
  | notDue answer =>
      dsimp only
      split
      · exact ⟨hsafe, rfl⟩
      · exact ⟨by rw [hsafe], hblocked⟩
  | claimed claim =>
      dsimp only
      split
      · exact ⟨hsafe, by dsimp only; rw [hblocked]⟩
      · exact ⟨by dsimp only; rw [hsafe, hblocked], hblocked⟩

/-- A turn does to the cursor what the decision does, and its calls follow
the decision. -/
theorem turn_spec (c : Candidate) (w : σ) (p : Progress) :
    Turned c (world.claim c w).1 p (turn world startedAt c w p).2 := by
  unfold turn
  dsimp only
  generalize hq : ({ p with attempted := p.attempted + 1 } : Progress).called
    (.claim c (world.claim c w).1) = q
  have hlog : q.log = p.log ++ [.claim c (world.claim c w).1] := by
    rw [← hq]
    rfl
  obtain ⟨hsafe, hblocked⟩ := decided_congr (p := p) (q := q)
    (by rw [← hq]; rfl) (by rw [← hq]; rfl) c (world.claim c w).1
  obtain ⟨hsame, hclaim⟩ := decided_spec q c (world.claim c w).1
  generalize hdecided : q.decided c (world.claim c w).1 = decided at *
  obtain ⟨p', claim⟩ := decided
  cases claim with
  | none =>
      refine ⟨hsafe, hblocked, [], .nothing _, ?_⟩
      exact hsame.trans hlog
  | some claim =>
      obtain ⟨hd, hc⟩ := hclaim claim rfl
      obtain ⟨hsafe', hblocked', calls, hcalls, hlog'⟩ :=
        cleanUp_spec hc (world.claim c w).2 p'
      refine ⟨hsafe'.trans hsafe, hblocked'.trans hblocked, calls, ?_, ?_⟩
      · rw [hd]
        exact hcalls
      · have hbefore : p'.log = _ := hsame.trans hlog
        rw [hlog', hbefore, List.append_assoc]
        rfl

end Turn

-- ============================================================ the decisions

section Decisions

variable {p : Progress} {c : Candidate} {d : Decision}

theorem Decision.Moves.settles (h : d.Moves c) : d.Settles c := by
  cases d with
  | notDue answer => exact h
  | claimed claim => exact h.1
  | raised => exact h.elim
  | absent => exact h.elim

theorem decided_moves (h : d.Moves c) (hblocked : p.freshBlocked = false) :
    (p.decided c d).1.safeCursor = some (advance p.safeCursor c.cursor) := by
  unfold Progress.decided
  cases d with
  | notDue answer =>
      have heq : answer.candidate = c := h
      dsimp only
      rw [if_neg (not_not.mpr heq)]
  | claimed claim =>
      dsimp only
      rw [if_neg (not_not.mpr h.1), h.2, hblocked]
      rfl
  | raised => exact h.elim
  | absent => exact h.elim

theorem decided_rests (h : ¬ d.Moves c) :
    (p.decided c d).1.safeCursor = p.safeCursor := by
  unfold Progress.decided
  cases d with
  | notDue answer =>
      have hne : answer.candidate ≠ c := h
      dsimp only
      rw [if_pos hne]
  | claimed claim =>
      dsimp only
      by_cases heq : claim.candidate = c
      · rw [if_neg (not_not.mpr heq), if_neg]
        intro hmoves
        rw [Bool.and_eq_true] at hmoves
        exact h ⟨heq, hmoves.1⟩
      · rw [if_pos heq]
        rfl
  | raised => rfl
  | absent => rfl

/-- A fresh candidate that is not settled blocks those after it, and nothing
lifts a block. -/
theorem decided_unblocked (h : (p.decided c d).1.freshBlocked = false) :
    p.freshBlocked = false ∧ (c.source = .fresh → d.Settles c) := by
  have hfailed : (p.failed c).freshBlocked = false →
      p.freshBlocked = false ∧ c.source ≠ .fresh := by
    intro hfalse
    unfold Progress.failed at hfalse
    rw [Bool.or_eq_false_iff, decide_eq_false_iff_not] at hfalse
    exact hfalse
  unfold Progress.decided at h
  cases d with
  | notDue answer =>
      dsimp only at h
      by_cases heq : answer.candidate = c
      · rw [if_neg (not_not.mpr heq)] at h
        exact ⟨h, fun _ => heq⟩
      · rw [if_pos heq] at h
        cases h
  | claimed claim =>
      dsimp only at h
      by_cases heq : claim.candidate = c
      · rw [if_neg (not_not.mpr heq)] at h
        exact ⟨h, fun _ => heq⟩
      · rw [if_pos heq] at h
        exact (hfailed h).imp_right fun hne hc => absurd hc hne
  | raised => exact (hfailed h).imp_right fun hne hc => absurd hc hne
  | absent => exact (hfailed h).imp_right fun hne hc => absurd hc hne

end Decisions

-- ================================================================ the loop

section Loop

variable {σ : Type} {world : World σ} {startedAt : ℚ}

/-- What a turn keeps, and a blocked candidate that is passed over, the loop
keeps. -/
theorem loop_invariant {I : List Candidate → Progress → Prop}
    {ordered : List Candidate}
    (hskip : ∀ done c p, I done p → c.source = .fresh →
      p.freshBlocked = true → I (done ++ [c]) p)
    (hturn : ∀ done c rest p w, ordered = done ++ c :: rest → I done p →
      ¬ (c.source = .fresh ∧ p.freshBlocked = true) →
      I (done ++ [c]) (turn world startedAt c w p).2)
    {w : σ} {p : Progress} (hstart : I [] p) :
    ∃ done, done <+: ordered
      ∧ I done (loop world startedAt ordered w p).2.1
      ∧ ((loop world startedAt ordered w p).2.2 = true →
          done = ordered) := by
  have hrest : ∀ (rest done : List Candidate) (w : σ) (p : Progress),
      ordered = done ++ rest → I done p →
        ∃ done', done' <+: ordered
          ∧ I done' (loop world startedAt rest w p).2.1
          ∧ ((loop world startedAt rest w p).2.2 = true →
              done' = ordered) := by
    intro rest
    induction rest with
    | nil =>
        intro done w p hordered hI
        rw [List.append_nil] at hordered
        exact ⟨done, hordered ▸ List.prefix_refl _, hI, fun _ => hordered.symm⟩
    | cons c rest ih =>
        intro done w p hordered hI
        have hnext : ordered = (done ++ [c]) ++ rest := by
          rw [hordered, List.append_assoc]
          rfl
        unfold loop
        by_cases hblocked : c.source = .fresh ∧ p.freshBlocked = true
        · rw [if_pos hblocked]
          exact ih _ w p hnext (hskip done c p hI hblocked.1 hblocked.2)
        · rw [if_neg hblocked]
          dsimp only
          split
          · refine ⟨done, ?_, hI, fun h => by cases h⟩
            rw [hordered]
            exact List.prefix_append _ _
          · exact ih _ _ _ hnext (hturn done c rest p _ hordered hI hblocked)
  exact hrest ordered [] w p rfl hstart

/-- What the loop keeps of the cursor, after the candidates in `done`. -/
structure Cleared (page : Page) (given : Option Cursor)
    (done : List Candidate) (p : Progress) : Prop where
  handled : p.freshBlocked = false →
    ∀ c ∈ done, c.source = .fresh → Handled p.log c
  below : ∀ k, p.safeCursor = some k →
    ∀ c ∈ fresh page.candidates, c.cursor ≤ k → Handled p.log c
  above : ∀ k, given = some k → ∃ safe, p.safeCursor = some safe ∧ k ≤ safe
  moved : ∀ c d, .claim c d ∈ p.log → d.Moves c → p.safeCursor ≠ none

/-- A store that moves the cursor for fresh candidates only. -/
def World.AdvancesFresh (world : World σ) : Prop :=
  ∀ c w claim, (world.claim c w).1 = .claimed claim →
    claim.advancesDiscoveryCursor = true → claim.candidate.source = .fresh

theorem World.AdvancesFresh.source (h : world.AdvancesFresh) {c : Candidate}
    {w : σ} (hmoves : (world.claim c w).1.Moves c) : c.source = .fresh := by
  cases hd : (world.claim c w).1 with
  | notDue answer =>
      rw [hd] at hmoves
      have heq : answer.candidate = c := hmoves
      rw [← heq]
      exact answer.source
  | claimed claim =>
      rw [hd] at hmoves
      rw [← hmoves.1]
      exact h c w claim hd hmoves.2
  | raised =>
      rw [hd] at hmoves
      exact hmoves.elim
  | absent =>
      rw [hd] at hmoves
      exact hmoves.elim

theorem Handled.mono {log log' : List Call} {c : Candidate}
    (h : Handled log c) (hlog : log ⊆ log') : Handled log' c := by
  obtain ⟨d, hmem, hsettles⟩ := h
  exact ⟨d, hlog hmem, hsettles⟩

theorem le_advance {safe : Option Cursor} {k cursor : Cursor} :
    k ≤ advance safe cursor ↔ (∃ s, safe = some s ∧ k ≤ s) ∨ k ≤ cursor := by
  cases safe with
  | none =>
      constructor
      · exact .inr
      · rintro (⟨s, hs, _⟩ | h)
        · cases hs
        · exact h
  | some s =>
      unfold advance
      rw [le_max_iff]
      simp

theorem Cleared.start {page : Page} {given : Option Cursor}
    (hlisted : page.Listed given) :
    Cleared page given [] { safeCursor := given } where
  handled _ c hc := by cases hc
  below k hk c hc hle := absurd hle (not_le.mpr (hlisted.above k hk c hc))
  above k hk := ⟨k, hk, le_refl k⟩
  moved c d hc := by cases hc

theorem Cleared.skip {page : Page} {given : Option Cursor}
    {done : List Candidate} {p : Progress} (h : Cleared page given done p)
    (hblocked : p.freshBlocked = true) (c : Candidate) :
    Cleared page given (done ++ [c]) p := by
  refine ⟨fun hfalse => ?_, h.below, h.above, h.moved⟩
  rw [hblocked] at hfalse
  cases hfalse

/-- The step of the induction: the cursor moves for a fresh candidate that is
settled, and the fresh ones up to it were settled before. -/
theorem Cleared.turn {page : Page} {given : Option Cursor}
    {done rest : List Candidate} {p p' : Progress} {c : Candidate}
    {d : Decision} (h : Cleared page given done p)
    (hlisted : page.Listed given)
    (hordered : page.ordered = done ++ c :: rest)
    (hfresh : d.Moves c → c.source = .fresh)
    (hopen : ¬ (c.source = .fresh ∧ p.freshBlocked = true))
    (hturned : Turned c d p p') : Cleared page given (done ++ [c]) p' := by
  obtain ⟨hsafe, hblocked, calls, hcalls, hlog⟩ := hturned
  have hgrows : p.log ⊆ p'.log := by
    rw [hlog]
    exact List.subset_append_left _ _
  have hcall : Call.claim c d ∈ p'.log := by
    rw [hlog]
    exact List.mem_append_right _ List.mem_cons_self
  have hhandled : p'.freshBlocked = false →
      ∀ c' ∈ done ++ [c], c'.source = .fresh → Handled p'.log c' := by
    intro hfalse c' hc' hsource
    rw [hblocked] at hfalse
    obtain ⟨hbefore, hsettles⟩ := decided_unblocked hfalse
    rcases List.mem_append.mp hc' with hdone | hlast
    · exact (h.handled hbefore c' hdone hsource).mono hgrows
    · rw [List.mem_singleton.mp hlast] at hsource ⊢
      exact ⟨d, hcall, hsettles hsource⟩
  by_cases hmoves : d.Moves c
  · have hc := hfresh hmoves
    have hunblocked : p.freshBlocked = false := by
      by_contra hne
      exact hopen ⟨hc, eq_true_of_ne_false hne⟩
    rw [decided_moves hmoves hunblocked] at hsafe
    refine ⟨hhandled, ?_, ?_, ?_⟩
    · intro k hk c' hc' hle
      rw [hsafe, Option.some.injEq] at hk
      rw [← hk, le_advance] at hle
      rcases hle with ⟨s, hs, hle⟩ | hle
      · exact (h.below s hs c' hc' hle).mono hgrows
      · have hmem := hlisted.mem_done hordered hc hc' hle
        rcases List.mem_append.mp hmem with hdone | hlast
        · exact (h.handled hunblocked c' hdone (mem_fresh.mp hc').2).mono
            hgrows
        · rw [List.mem_singleton.mp hlast]
          exact ⟨d, hcall, hmoves.settles⟩
    · intro k hk
      obtain ⟨s, hs, hle⟩ := h.above k hk
      exact ⟨_, hsafe, le_advance.mpr (.inl ⟨s, hs, hle⟩)⟩
    · intro c' d' _ _ hnone
      rw [hsafe] at hnone
      cases hnone
  · rw [decided_rests hmoves] at hsafe
    refine ⟨hhandled, ?_, ?_, ?_⟩
    · intro k hk c' hc' hle
      exact (h.below k (hsafe ▸ hk) c' hc' hle).mono hgrows
    · intro k hk
      obtain ⟨s, hs, hle⟩ := h.above k hk
      exact ⟨s, hsafe.trans hs, hle⟩
    · intro c' d' hmem hmoves'
      rw [hsafe]
      rw [hlog, List.mem_append, List.mem_cons] at hmem
      rcases hmem with hold | heq | hnew
      · exact h.moved c' d' hold hmoves'
      · cases heq
        exact absurd hmoves' hmoves
      · exact absurd hnew hcalls.not_claim

/-- What a round keeps, of the cursor and of the calls. -/
theorem recover_spec {page : Page} {given : Option Cursor}
    (hlisted : page.Listed given) (hworld : world.AdvancesFresh) (w : σ) :
    ∃ done, done <+: page.ordered
      ∧ Cleared page given done (recover world startedAt page given w).2.1
      ∧ Orderly done (recover world startedAt page given w).2.1.log
      ∧ ((recover world startedAt page given w).2.2 = true →
          done = page.ordered) := by
  have hskip : ∀ done c p,
      Cleared page given done p ∧ Orderly done p.log → c.source = .fresh →
        p.freshBlocked = true →
        Cleared page given (done ++ [c]) p ∧ Orderly (done ++ [c]) p.log := by
    intro done c p h _ hblocked
    refine ⟨h.1.skip hblocked c, h.2.matched, ?_⟩
    exact h.2.claimed.trans (List.sublist_append_left _ _)
  have hturn : ∀ done c rest p w, page.ordered = done ++ c :: rest →
      Cleared page given done p ∧ Orderly done p.log →
      ¬ (c.source = .fresh ∧ p.freshBlocked = true) →
        Cleared page given (done ++ [c]) (turn world startedAt c w p).2
          ∧ Orderly (done ++ [c]) (turn world startedAt c w p).2.log := by
    intro done c rest p w hordered h hopen
    have hturned : Turned c (world.claim c w).1 p
        (turn world startedAt c w p).2 := turn_spec c w p
    refine ⟨h.1.turn hlisted hordered (hworld.source) hopen hturned, ?_⟩
    obtain ⟨_, _, calls, hcalls, hlog⟩ := hturned
    rw [hlog]
    exact h.2.follow hcalls
  have hstart : Cleared page given [] { safeCursor := given }
      ∧ Orderly [] [] := by
    refine ⟨Cleared.start hlisted, fun calls hcalls => ?_, .refl _⟩
    rw [List.prefix_nil.mp hcalls]
    exact ⟨.refl _, .refl _⟩
  obtain ⟨done, hfront, ⟨hcleared, horderly⟩, hall⟩ := loop_invariant
    (I := fun done p => Cleared page given done p ∧ Orderly done p.log)
    hskip hturn hstart
  exact ⟨done, hfront, hcleared, horderly, hall⟩

end Loop

-- ================================================================= a round

/-- A store whose pages list their fresh candidates in order, above the
cursor they are asked for. -/
def World.ListsFresh {σ : Type} (world : World σ) : Prop :=
  ∀ limit given w page, (world.page limit given w).1 = some page →
    page.Listed given

/-- What a round promises: each claim is of another candidate of the page,
each workspace is released for a claim before it and each outcome recorded
for one, once; and what the cursor it answers has passed. -/
structure Promised (page : Page) (given : Option Cursor)
    (answer : Except RecoveryError Result) (log : List Call) : Prop where
  matched : ∀ calls, calls <+: log → Matched calls
  claimed : ((claims log).map Claim.candidate).Nodup
    ∧ ∀ claim ∈ claims log, claim.candidate ∈ page.candidates
  restarts : ∀ result, answer = .ok result → result.cursor = none →
    (page.exhausted = true ∧ ∀ c ∈ fresh page.candidates, Handled log c)
      ∨ (given = none ∧ ∀ c d, .claim c d ∈ log → ¬ d.Moves c)
  passes : ∀ result k, answer = .ok result → result.cursor = some k →
    (∀ cursor, given = some cursor → cursor ≤ k)
      ∧ ∀ c ∈ fresh page.candidates, c.cursor ≤ k → Handled log c

section Answer

variable {page : Page} {given : Option Cursor} {done : List Candidate}
  {p : Progress} {consumed : Bool} {result : Result}

/-- The cursor of an answer. -/
theorem result_ok (h : p.result page consumed = .ok result) :
    (p.freshBlocked = false ∧ consumed = true ∧ page.exhausted = true
        ∧ result.cursor = none)
      ∨ result.cursor = p.safeCursor := by
  unfold Progress.result at h
  dsimp only at h
  split at h
  · cases h
  · cases Except.ok.inj h
    by_cases hall : (!p.freshBlocked && consumed) && page.exhausted
    · have hparts := hall
      rw [Bool.and_eq_true, Bool.and_eq_true, Bool.not_eq_true'] at hparts
      exact .inl ⟨hparts.1.1, hparts.1.2, hparts.2, if_pos hall⟩
    · exact .inr (if_neg hall)

theorem Cleared.promised (h : Cleared page given done p)
    (horderly : Orderly done p.log) (hfront : done <+: page.ordered)
    (hall : consumed = true → done = page.ordered) :
    Promised page given (p.result page consumed) p.log := by
  have hsub : ∀ c ∈ done, c ∈ page.candidates :=
    fun c hc => page.ordered_perm.mem_iff.mp (hfront.subset hc)
  have hnodup : done.Nodup := by
    have hcandidates : page.candidates.Nodup := page.runIds_nodup.of_map
    exact (page.ordered_perm.nodup_iff.mpr hcandidates).sublist
      hfront.sublist
  refine ⟨horderly.matched, ⟨hnodup.sublist horderly.claimed, ?_⟩, ?_, ?_⟩
  · intro claim hclaim
    exact hsub _ (horderly.claimed.subset (List.mem_map_of_mem hclaim))
  · intro result hresult hnone
    rcases result_ok hresult with ⟨hopen, hconsumed, hexhausted, _⟩ | hsafe
    · refine .inl ⟨hexhausted, fun c hc => ?_⟩
      obtain ⟨hmem, hsource⟩ := mem_fresh.mp hc
      refine h.handled hopen c ?_ hsource
      rw [hall hconsumed]
      exact page.ordered_perm.mem_iff.mpr hmem
    · rw [hnone] at hsafe
      refine .inr ⟨?_, fun c d hcall hmoves => ?_⟩
      · by_contra hgiven
        obtain ⟨k, hk⟩ := Option.ne_none_iff_exists'.mp hgiven
        obtain ⟨safe, hsome, _⟩ := h.above k hk
        rw [hsome] at hsafe
        cases hsafe
      · exact h.moved c d hcall hmoves hsafe.symm
  · intro result k hresult hk
    rcases result_ok hresult with ⟨_, _, _, hnone⟩ | hsafe
    · rw [hnone] at hk
      cases hk
    · rw [hk] at hsafe
      refine ⟨fun cursor hcursor => ?_, h.below k hsafe.symm⟩
      obtain ⟨safe, hsome, hle⟩ := h.above cursor hcursor
      rw [hsome, Option.some.injEq] at hsafe
      exact hsafe ▸ hle

end Answer

/-- A round that raises before its loop has made no calls. -/
theorem promised_nothing (page : Page) (given : Option Cursor)
    (e : RecoveryError) : Promised page given (.error e) [] := by
  refine ⟨?_, ⟨List.nodup_nil, ?_⟩, ?_, ?_⟩
  · intro calls hcalls
    rw [List.prefix_nil.mp hcalls]
    exact ⟨.refl _, .refl _⟩
  · intro claim h
    cases h
  · intro result h
    cases h
  · intro result k h
    cases h

/-- A round keeps its promises, whatever its store, its workspace and its
clock do; without a page it raises and calls nobody. -/
theorem reconcile_promises {σ : Type} (world : World σ)
    (hpages : world.ListsFresh) (hworld : world.AdvancesFresh) (limit : Int)
    (given : Option Cursor) (w : σ) :
    (∀ page, (world.page limit given (world.monotonic w).2).1 = some page →
        Promised page given (reconcile world limit given w).1
          (reconcile world limit given w).2)
      ∧ ((world.page limit given (world.monotonic w).2).1 = none →
        (reconcile world limit given w).2 = []
          ∧ ∀ result, (reconcile world limit given w).1 ≠ .ok result) := by
  unfold reconcile
  by_cases hlimit : (!(2 ≤ limit && limit ≤ 100)) = true
  · rw [if_pos hlimit]
    exact ⟨fun page _ => promised_nothing page given _,
      fun _ => ⟨rfl, fun result h => by cases h⟩⟩
  · rw [if_neg hlimit]
    dsimp only
    rcases hpage : world.page limit given (world.monotonic w).2
      with ⟨answer, w'⟩
    cases answer with
    | none =>
        refine ⟨fun page h => ?_, fun _ => ⟨rfl, fun result h => ?_⟩⟩
        · cases h
        · cases h
    | some page =>
        have hlisted : page.Listed given :=
          hpages limit given (world.monotonic w).2 page (by rw [hpage])
        refine ⟨fun page' h => ?_, fun h => by cases h⟩
        cases Option.some.inj h
        obtain ⟨done, hfront, hcleared, horderly, hall⟩ :=
          @recover_spec σ world (world.monotonic w).1 page given hlisted hworld w'
        exact hcleared.promised horderly hfront hall

-- =============================================================== a sample

def oneCandidate : Candidate :=
  ⟨['t'], ['r'], ['m'], ['w'], 1, .fresh⟩

def onePage : Page where
  candidates := [oneCandidate]
  scannedThrough := some oneCandidate.cursor
  exhausted := true
  runIds_nodup := List.nodup_singleton _
  manifestDigests_nodup := List.nodup_singleton _
  scannedThrough_eq := rfl

/-- A store of one page, with its answer to a claim. -/
def oneWorld (decision : Candidate → Decision) : World Unit where
  page _ given w := (if given = none then some onePage else none, w)
  monotonic w := (0, w)
  claim c w := (decision c, w)
  release _ _ w := (true, w)
  recordSuccess _ w := (true, w)
  recordFailure _ w := (true, w)

theorem oneWorld_listsFresh (decision : Candidate → Decision) :
    (oneWorld decision).ListsFresh := by
  intro limit given w page h
  by_cases hgiven : given = none
  · have heq : some onePage = some page := (if_pos hgiven).symm.trans h
    cases Option.some.inj heq
    refine ⟨List.pairwise_singleton _ _, fun k hk => ?_⟩
    rw [hgiven] at hk
    cases hk
  · have heq : none = some page := (if_neg hgiven).symm.trans h
    cases heq

/-- A claim of a candidate, which moves the cursor if it is fresh. -/
def claimOf (c : Candidate) : Decision :=
  .claimed ⟨c, ['k'], 1, .orphaned, c.source = .fresh⟩

theorem oneWorld_advancesFresh : (oneWorld claimOf).AdvancesFresh := by
  intro c w claim h hadvances
  cases Decision.claimed.inj h
  exact of_decide_eq_true hadvances

/-- The one candidate is claimed. -/
theorem reconcile_promises_one :
    Promised onePage none (reconcile (oneWorld claimOf) 100 none ()).1
      (reconcile (oneWorld claimOf) 100 none ()).2 :=
  (reconcile_promises (oneWorld claimOf) (oneWorld_listsFresh claimOf)
    oneWorld_advancesFresh 100 none ()).1 onePage rfl

/-- A first round whose only claim raises answers no cursor, on an exhausted
page, and its candidate was neither claimed nor reported not due. -/
theorem unclaimed_restarts :
    (oneWorld fun _ => .raised).ListsFresh
      ∧ (oneWorld fun _ => .raised).AdvancesFresh
      ∧ onePage.exhausted = true ∧ oneCandidate ∈ fresh onePage.candidates
      ∧ (∃ result,
        (reconcile (oneWorld fun _ => .raised) 100 none ()).1 = .ok result
          ∧ result.cursor = none)
      ∧ ¬ Handled (reconcile (oneWorld fun _ => .raised) 100 none ()).2
        oneCandidate := by
  have hround : reconcile (oneWorld fun _ => .raised) 100 none ()
      = (.ok ⟨1, 0, 0, 1, none, 0⟩, [.claim oneCandidate .raised]) := by
    have htime : ¬ (recoveryBudgetSeconds - (0 - 0) : ℚ)
        ≤ recoveryCycleReserveSeconds := by
      unfold recoveryBudgetSeconds recoveryCycleReserveSeconds
      norm_num
    have hloop : recover (oneWorld fun _ => .raised) 0 onePage none ()
        = ((), (({ safeCursor := none, attempted := 1 } : Progress).called
            (.claim oneCandidate .raised)).failed oneCandidate, true) := by
      show (if _ then _ else _) = _
      rw [if_neg htime]
      rfl
    show ((recover (oneWorld fun _ => .raised) 0 onePage none ()).2.1.result
        onePage (recover (oneWorld fun _ => .raised) 0 onePage none ()).2.2,
      (recover (oneWorld fun _ => .raised) 0 onePage none ()).2.1.log) = _
    rw [hloop]
    rfl
  rw [hround]
  refine ⟨oneWorld_listsFresh _, ?_, rfl, by decide, ⟨_, rfl, rfl⟩, ?_⟩
  · intro c w claim h
    cases h
  · rintro ⟨d, hmem, hsettles⟩
    rw [List.mem_singleton] at hmem
    cases hmem
    exact hsettles

end Exolon.Recovery
