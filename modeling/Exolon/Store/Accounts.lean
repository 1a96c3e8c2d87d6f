/-
Budgets: what is reserved and observed of a task adds up, stays within its
limits, and its state says what is still open.

`Books` is what a task keeps of its budget, and `Books.Balanced` that the
totals are the sums over the rows and stay within the limits. Two changes
write in the books, a reservation and an observation, and both look at the
limits.

The predicate of the readiness report (`isAccountingConsistent`) is kept
because a task leaves its lease in one of two ways: with nothing reserved, or
marked as blocked. For that the open reservations of a leased task have to be
those of its run (`Task.Owned`).
-/
import Exolon.Store.Fate
import Exolon.Store.Leases

namespace Exolon.Store

open Factory Contracts Transaction Relation

-- =============================================================== the books

/-- What a task keeps of its budget. -/
structure Books where
  reservations : List Reservation
  observations : List Observation
  costReserved : Nat
  tokensReserved : Nat
  wallReserved : Nat
  costObserved : Nat
  tokensObserved : Nat
  costLimit : Nat
  tokenLimit : Nat
  wallLimit : Nat
  outputLimit : Nat

def Task.books (t : Task) : Books where
  reservations := t.reservations
  observations := t.observations
  costReserved := t.costReserved
  tokensReserved := t.tokensReserved
  wallReserved := t.wallReserved
  costObserved := t.costObserved
  tokensObserved := t.tokensObserved
  costLimit := t.costLimit
  tokenLimit := t.tokenLimit
  wallLimit := t.wallLimit
  outputLimit := t.outputLimit

/-- The reservations that were not released. -/
def unreleased (reservations : List Reservation) : List Reservation :=
  reservations.filter fun b => b.releasedAt = none

/-- The totals are the sums over the rows, and within the limits. -/
structure Books.Balanced (b : Books) : Prop where
  cost : b.costReserved
    = ((unreleased b.reservations).map Reservation.cost).sum
  tokens : b.tokensReserved
    = ((unreleased b.reservations).map Reservation.tokens).sum
  wall : b.wallReserved
    = ((unreleased b.reservations).map Reservation.wall).sum
  costSeen : b.costObserved
    = (b.observations.map fun u => u.evidence.cost).sum
  tokensSeen : b.tokensObserved
    = (b.observations.map fun u => u.evidence.tokens).sum
  costWithin : b.costReserved + b.costObserved ≤ b.costLimit
  tokensWithin : b.tokensReserved + b.tokensObserved ≤ b.tokenLimit
  wallWithin : b.wallReserved ≤ b.wallLimit
  outputWithin :
    (b.observations.map fun u => u.evidence.output).sum ≤ b.outputLimit

variable {t t' : Task} {h h' : Held}

theorem unreleased_append (bs : List Reservation) {b : Reservation}
    (hopen : b.releasedAt = none) :
    unreleased (bs ++ [b]) = unreleased bs ++ [b] := by
  unfold unreleased
  rw [List.filter_append, List.filter_cons_of_pos (by simp [hopen])]
  rfl

/-- The reservations after those of a run were released. -/
def releasedOf (bs : List Reservation) (runId : Uuid) (released : Time) :
    List Reservation :=
  Table.update (fun b => b.runId = runId ∧ b.releasedAt = none)
    (fun b => { b with releasedAt := some released }) bs

/-- The open reservations are those of the other runs. -/
theorem unreleased_releasedOf (bs : List Reservation) (runId : Uuid)
    (released : Time) :
    unreleased (releasedOf bs runId released)
      = (unreleased bs).filter fun b => b.runId ≠ runId := by
  induction bs with
  | nil => rfl
  | cons b bs ih =>
      unfold unreleased releasedOf Table.update at ih ⊢
      rw [List.map_cons]
      by_cases hopen : b.releasedAt = none
      · by_cases hrun : b.runId = runId
        · rw [if_pos (decide_eq_true ⟨hrun, hopen⟩),
            List.filter_cons_of_neg (by simp),
            List.filter_cons_of_pos (by simp [hopen]),
            List.filter_cons_of_neg (by simp [hrun])]
          exact ih
        · rw [if_neg (by simp [hrun]), List.filter_cons_of_pos (by simp [hopen]),
            List.filter_cons_of_pos (by simp [hopen]),
            List.filter_cons_of_pos (by simp [hrun]), ih]
      · rw [if_neg (by simp [hopen]), List.filter_cons_of_neg (by simp [hopen]),
          List.filter_cons_of_neg (by simp [hopen])]
        exact ih

/-- A total is what is released of a run and what the others have left. -/
theorem released_sum (bs : List Reservation) (runId : Uuid) (released : Time)
    (value : Reservation → Nat) :
    ((unreleased (releasedOf bs runId released)).map value).sum
      + ((bs.filter fun b => b.runId = runId ∧ b.releasedAt = none).map
        value).sum
      = ((unreleased bs).map value).sum := by
  rw [unreleased_releasedOf]
  have hsplit : (bs.filter fun b => b.runId = runId ∧ b.releasedAt = none)
      = (unreleased bs).filter fun b => b.runId = runId := by
    unfold unreleased
    rw [List.filter_filter]
    apply List.filter_congr
    intro b _
    simp
  rw [hsplit]
  induction unreleased bs with
  | nil => rfl
  | cons b bs ih =>
      rw [List.map_cons, List.sum_cons]
      by_cases hrun : b.runId = runId
      · rw [List.filter_cons_of_neg (by simp [hrun]),
          List.filter_cons_of_pos (by simp [hrun]), List.map_cons,
          List.sum_cons]
        omega
      · rw [List.filter_cons_of_pos (by simp [hrun]),
          List.filter_cons_of_neg (by simp [hrun]), List.map_cons,
          List.sum_cons]
        omega

/-- The row of a reservation. -/
def Amounts.entry (amounts : Amounts) (runId : Uuid) (reasonDigest key : Digest)
    (reservationId : Uuid) : Reservation where
  reservationId := reservationId
  runId := runId
  idempotencyKey := key
  cost := amounts.cost
  tokens := amounts.tokens
  wall := amounts.wall
  reasonDigest := reasonDigest

/-- A reservation is entered. -/
theorem balanced_reserve {grant : LeaseGrant} {amounts : Amounts}
    {reasonDigest key : Digest} {reservationId answer : Uuid}
    (hb : h.task.books.Balanced)
    (hok : reserve grant amounts reasonDigest key reservationId h
      = .ok (answer, h')) : h'.task.books.Balanced := by
  unfold reserve at hok
  simp only [bind_eq_ok, check_eq_ok] at hok
  obtain ⟨_, hroom, hok⟩ := hok
  cases hok
  simp only [not_or, Nat.not_lt] at hroom
  obtain ⟨_, hcost, htokens, hwall⟩ := hroom
  have hsum : ∀ value : Reservation → Nat,
      ((unreleased (h.task.reservations
          ++ [amounts.entry grant.runId reasonDigest key reservationId])).map
        value).sum
        = ((unreleased h.task.reservations).map value).sum
          + value (amounts.entry grant.runId reasonDigest key reservationId)
      := by
    intro value
    rw [unreleased_append _ rfl, List.map_append, List.sum_append]
    rfl
  have hcostIs : h.task.costReserved = _ := hb.cost
  have htokensIs : h.task.tokensReserved = _ := hb.tokens
  have hwallIs : h.task.wallReserved = _ := hb.wall
  refine ⟨?_, ?_, ?_, hb.costSeen, hb.tokensSeen, ?_, ?_, hwall,
    hb.outputWithin⟩
  · exact (congrArg (· + amounts.cost) hcostIs).trans (hsum Reservation.cost).symm
  · exact (congrArg (· + amounts.tokens) htokensIs).trans (hsum Reservation.tokens).symm
  · exact (congrArg (· + amounts.wall) hwallIs).trans (hsum Reservation.wall).symm
  · show h.task.costReserved + amounts.cost + h.task.costObserved
      ≤ h.task.costLimit
    omega
  · show h.task.tokensReserved + amounts.tokens + h.task.tokensObserved
      ≤ h.task.tokenLimit
    omega

/-- The open reservations of a run are taken out. -/
theorem balanced_release {runId : Uuid} {released : Time}
    (hb : t.books.Balanced)
    (hok : t.releaseReservations runId released = .ok t') :
    t'.books.Balanced
      ∧ t'.reservations = releasedOf t.reservations runId released := by
  unfold Task.releaseReservations at hok
  simp only [bind_eq_ok, check_eq_ok] at hok
  obtain ⟨_, _, hok⟩ := hok
  cases hok
  have hsum := released_sum t.reservations runId released
  have hleft : ∀ {total : Nat} {value : Reservation → Nat},
      total = ((unreleased t.reservations).map value).sum →
      total - ((t.openReservations runId).map value).sum
        = ((unreleased (releasedOf t.reservations runId released)).map
          value).sum := by
    intro total value htotal
    have hvalue := hsum value
    unfold Task.openReservations
    omega
  have hcostWithin : t.costReserved + t.costObserved ≤ t.costLimit :=
    hb.costWithin
  have htokensWithin : t.tokensReserved + t.tokensObserved ≤ t.tokenLimit :=
    hb.tokensWithin
  have hwallWithin : t.wallReserved ≤ t.wallLimit := hb.wallWithin
  refine ⟨⟨hleft hb.cost, hleft hb.tokens, hleft hb.wall, hb.costSeen,
    hb.tokensSeen, ?_, ?_, ?_, hb.outputWithin⟩, rfl⟩
  · show t.costReserved - _ + t.costObserved ≤ t.costLimit
    omega
  · show t.tokensReserved - _ + t.tokensObserved ≤ t.tokenLimit
    omega
  · show t.wallReserved - _ ≤ t.wallLimit
    omega

/-- What a run used is entered, where nothing is reserved any more and it is
within the limits. -/
theorem balanced_observe {runId : Uuid} {providerCallId : Text}
    {evidence : UsageEvidence} {observationId : Uuid}
    (hb : t.books.Balanced) (hnone : unreleased t.reservations = []) :
    (t.observe runId providerCallId evidence observationId).2.books.Balanced
    := by
  have hcostIs : t.costReserved = _ := hb.cost
  have htokensIs : t.tokensReserved = _ := hb.tokens
  change t.costReserved = ((unreleased t.reservations).map _).sum at hcostIs
  change t.tokensReserved = ((unreleased t.reservations).map _).sum
    at htokensIs
  rw [hnone] at hcostIs htokensIs
  have hsum : ∀ (value : UsageEvidence → Nat),
      ((t.observations ++ [(⟨observationId, runId, providerCallId,
          evidence⟩ : Observation)]).map fun u => value u.evidence).sum
        = (t.observations.map fun u => value u.evidence).sum
          + value evidence := by
    intro value
    rw [List.map_append, List.sum_append]
    rfl
  unfold Task.observe
  split
  case isTrue => exact hb
  case isFalse hwithin =>
    simp only [not_or, Nat.not_lt] at hwithin
    obtain ⟨hcost, htokens, houtput⟩ := hwithin
    refine ⟨hb.cost, hb.tokens, hb.wall, ?_, ?_, ?_, ?_, hb.wallWithin, ?_⟩
    · exact (congrArg (· + evidence.cost) hb.costSeen).trans
        (hsum UsageEvidence.cost).symm
    · exact (congrArg (· + evidence.tokens) hb.tokensSeen).trans
        (hsum UsageEvidence.tokens).symm
    · show t.costReserved + (t.costObserved + evidence.cost) ≤ t.costLimit
      rw [hcostIs]
      show 0 + _ ≤ _
      omega
    · show t.tokensReserved + (t.tokensObserved + evidence.tokens)
        ≤ t.tokenLimit
      rw [htokensIs]
      show 0 + _ ≤ _
      omega
    · exact (hsum UsageEvidence.output).le.trans houtput

-- ========================================================== the readiness

/-- Something of the task is reserved. -/
def Task.reserves (t : Task) : Bool :=
  t.costReserved != 0 || t.tokensReserved != 0 || t.wallReserved != 0
    || t.hasReservation

/-- A row that `_accounting_consistent` does not look for. -/
def Task.isAccountingConsistent (t : Task) : Bool :=
  match t.state with
  | .queued | .retry | .readyForHuman => !(t.accountingBlocked || t.reserves)
  | .superseded | .cancelled | .dead | .needsHuman =>
      !(!t.accountingBlocked && t.reserves)
  | _ => true

/-- `_accounting_consistent` -/
def Db.isAccountingConsistent (db : Db) : Bool :=
  db.tasks.all Task.isAccountingConsistent

/-- The open reservations of a leased task are those of its run. -/
def Task.Owned (t : Task) : Prop :=
  t.state.isLeased → ∀ b ∈ unreleased t.reservations,
    t.currentRunId = some b.runId

/-- The accounts of a task. -/
structure Task.Accounts (t : Task) : Prop where
  balanced : t.books.Balanced
  owned : t.Owned
  consistent : t.isAccountingConsistent

theorem quarantined_eq (t : Task) :
    t.quarantined = (t.accountingBlocked || t.reserves) := by
  unfold Task.quarantined Task.settled Task.reserves
  cases t.accountingBlocked <;> simp [bne, Bool.or_assoc]

/-- Where nothing is reserved or blocked, every state is consistent. -/
theorem consistent_of_clean (hblocked : t.accountingBlocked = false)
    (hnone : t.reserves = false) : t.isAccountingConsistent := by
  unfold Task.isAccountingConsistent
  rw [hblocked, hnone]
  cases t.state <;> rfl

/-- The states that a blocked task may be in. -/
theorem consistent_of_blocked (hblocked : t.accountingBlocked = true)
    (hstate : t.state.isQueued = false) (hready : t.state ≠ .readyForHuman) :
    t.isAccountingConsistent := by
  unfold Task.isAccountingConsistent
  rw [hblocked]
  revert hstate hready
  cases t.state <;> simp [TaskStatus.isQueued]

theorem consistent_of_leased (hleased : t.state.isLeased) :
    t.isAccountingConsistent := by
  unfold Task.isAccountingConsistent
  revert hleased
  cases t.state <;> simp [TaskStatus.isLeased]

theorem owned_of_free (hfree : t.state.isLeased = false) : t.Owned := by
  intro hleased
  rw [hfree] at hleased
  cases hleased

theorem hasReservation_false_iff :
    t.hasReservation = false ↔ unreleased t.reservations = [] := by
  unfold Task.hasReservation unreleased
  rw [List.any_eq_false, List.filter_eq_nil_iff]
  simp [Option.isNone_iff_eq_none]

/-- In the queue nothing is reserved or blocked. -/
theorem Task.Accounts.clean (ha : t.Accounts) (hqueued : t.state.isQueued) :
    t.accountingBlocked = false ∧ t.reserves = false := by
  have hconsistent := ha.consistent
  unfold Task.isAccountingConsistent at hconsistent
  revert hconsistent hqueued
  cases t.state <;> simp [TaskStatus.isQueued]

/-- What the accounts look at. -/
structure SameAccounts (t t' : Task) : Prop where
  books : t'.books = t.books
  blocked : t'.accountingBlocked = t.accountingBlocked
  state : t'.state = t.state
  runId : t'.currentRunId = t.currentRunId

theorem reserves_of_books (hbooks : t'.books = t.books) :
    t'.reserves = t.reserves ∧ t'.reservations = t.reservations := by
  have hcost : t'.costReserved = t.costReserved := congrArg Books.costReserved
    hbooks
  have htokens : t'.tokensReserved = t.tokensReserved :=
    congrArg Books.tokensReserved hbooks
  have hwall : t'.wallReserved = t.wallReserved := congrArg Books.wallReserved
    hbooks
  have hrows : t'.reservations = t.reservations := congrArg Books.reservations
    hbooks
  refine ⟨?_, hrows⟩
  unfold Task.reserves Task.hasReservation
  rw [hcost, htokens, hwall, hrows]

theorem SameAccounts.accounts (hsame : SameAccounts t t') (ha : t.Accounts) :
    t'.Accounts := by
  obtain ⟨hreserves, hrows⟩ := reserves_of_books hsame.books
  refine ⟨?_, ?_, ?_⟩
  · rw [hsame.books]
    exact ha.balanced
  · unfold Task.Owned
    rw [hsame.state, hrows, hsame.runId]
    exact ha.owned
  · unfold Task.isAccountingConsistent
    rw [hsame.state, hsame.blocked, hreserves]
    exact ha.consistent

-- ====================================================== the ways out of it

/-- A task that leaves its lease is clean, or it is blocked and waits for a
human. -/
theorem releaseTarget_accounts {r : Run} {outcome : Outcome}
    {deadlineExpired : Bool} {target : TaskStatus}
    (htarget : releaseTarget t r outcome deadlineExpired = .ok target) :
    t.accountingBlocked = false ∧ t.reserves = false
      ∨ outcome.isFailure ∧ t.quarantined ∧ target = .needsHuman := by
  unfold releaseTarget at htarget
  rw [bind_eq_ok] at htarget
  obtain ⟨chosen, hchosen, htarget⟩ := htarget
  cases htarget
  cases outcome with
  | failure failure =>
      cases hchosen
      by_cases hquarantined : t.quarantined
      · right
        refine ⟨rfl, hquarantined, ?_⟩
        have hhuman : failureTarget t r.attemptNo failure deadlineExpired
            = .needsHuman := by
          unfold failureTarget
          rw [if_pos hquarantined]
        rw [hhuman]
        rfl
      · left
        rw [quarantined_eq, Bool.not_eq_true, Bool.or_eq_false_iff]
          at hquarantined
        exact hquarantined
  | completed =>
      left
      unfold outcomeTarget at hchosen
      simp only [bind_eq_ok, check_eq_ok, not_or, not_not] at hchosen
      obtain ⟨_, ⟨hblocked, _, hnone, hcost, htokens, hwall⟩, _⟩ := hchosen
      rw [Bool.not_eq_true] at hblocked hnone
      refine ⟨hblocked, ?_⟩
      unfold Task.reserves
      rw [hcost, htokens, hwall, hnone]
      rfl
  | other _ => cases hchosen

/-- So is a task whose run is finalized. -/
theorem m4Status_accounts {r : Run} {terminal : TerminalType}
    {status : TaskStatus} (hleased : t.state.isLeased)
    (hcurrent : t.currentRunId = some r.runId) (howned : t.Owned)
    (hstatus : m4Status t r.runId terminal r.attemptNo = some status) :
    t.accountingBlocked = false ∧ t.reserves = false
      ∨ status = .needsHuman ∧ (t.accountingBlocked
        ∨ terminal ≠ .completed
          ∧ (!t.settled ∨ t.runHasReservation r.runId)) := by
  have hrun : t.hasReservation = t.runHasReservation r.runId := by
    refine hasReservation_eq ?_
    intro b hb hopen
    have hown := howned hleased b (List.mem_filter.mpr ⟨hb, by simp [hopen]⟩)
    rw [hcurrent] at hown
    exact (Option.some.inj hown).symm
  have hclean : t.settled → t.runHasReservation r.runId = false →
      t.accountingBlocked = false ∧ t.reserves = false := by
    intro hsettled hnone
    have hquarantined : t.quarantined = false := by
      unfold Task.quarantined
      rw [hsettled, hrun, hnone]
      rfl
    rw [quarantined_eq, Bool.or_eq_false_iff] at hquarantined
    exact hquarantined
  unfold m4Status at hstatus
  rw [if_neg (valid_attempt t r)] at hstatus
  split at hstatus
  case isTrue hcompleted =>
    split at hstatus
    case isTrue => cases hstatus
    case isFalse hopen =>
      simp only [not_or, not_not] at hopen
      obtain ⟨hblocked, _, hnone, hcost, htokens, hwall⟩ := hopen
      left
      refine hclean (settled_iff.mpr ?_) ?_
      · simp [hblocked, hcost, htokens, hwall]
      · exact Bool.eq_false_iff.mpr hnone
  case isFalse hcompleted =>
    split at hstatus
    case isTrue hopen =>
      cases hstatus
      right
      refine ⟨rfl, .inr ⟨hcompleted, .inl ?_⟩⟩
      rw [Bool.not_eq_true', Bool.eq_false_iff]
      exact fun hsettled => settled_iff.mp hsettled hopen
    case isFalse hsettled =>
      have hsettled := settled_iff.mpr hsettled
      by_cases hnone : t.runHasReservation r.runId
      · cases terminal with
        | completed => exact absurd rfl hcompleted
        | needsHuman =>
            cases hstatus
            exact .inr ⟨rfl, .inr ⟨hcompleted, .inr hnone⟩⟩
        | failed failure =>
            dsimp only at hstatus
            rw [if_pos (.inl hnone)] at hstatus
            cases hstatus
            exact .inr ⟨rfl, .inr ⟨hcompleted, .inr hnone⟩⟩
      · exact .inl (hclean hsettled (Bool.eq_false_iff.mpr hnone))

-- ============================================================ every change

theorem books_ended (h : Held) (q : Run) (state : RunStatus) (clock : Clock) :
    (h.ended q state clock).task.books = h.task.books := rfl

theorem books_resulted (h : Held) (r : Run) (terminal : TerminalType)
    (result : WorkspaceResult) :
    (h.resulted r terminal result).task.books = h.task.books := rfl

/-- A task that is not leased after the change is clean or blocked. -/
theorem Task.Accounts.left (ha : t.Accounts) (hbooks : t'.books = t.books)
    (hfree : t'.state.isLeased = false)
    (hclean : t'.accountingBlocked = false ∧ t.reserves = false
      ∨ t'.accountingBlocked = true ∧ t'.state.isQueued = false
        ∧ t'.state ≠ .readyForHuman) : t'.Accounts := by
  refine ⟨?_, owned_of_free hfree, ?_⟩
  · rw [hbooks]
    exact ha.balanced
  · obtain ⟨hblocked, hnone⟩ | ⟨hblocked, hstate, hready⟩ := hclean
    · refine consistent_of_clean hblocked ?_
      rw [(reserves_of_books hbooks).1]
      exact hnone
    · exact consistent_of_blocked hblocked hstate hready

theorem closeActiveLease_books {clock : Clock}
    (hcloses : closeActiveLease h clock = .ok h') :
    h'.task.books = h.task.books
      ∧ h'.task.accountingBlocked = h.task.accountingBlocked
      ∧ h'.task.state = h.task.state := by
  rcases closeActiveLease_ok hcloses with rfl | hclosed
  · exact ⟨rfl, rfl, rfl⟩
  · obtain ⟨_, _, _, _, _, _, _, rfl⟩ := hclosed
    exact ⟨rfl, rfl, rfl⟩

/-- A task that is marked as it was found is clean or blocked. -/
theorem marked (t : Task) :
    t.quarantined = false ∧ t.reserves = false ∨ t.quarantined = true := by
  by_cases hquarantined : t.quarantined
  · exact .inr hquarantined
  · left
    rw [Bool.not_eq_true] at hquarantined
    refine ⟨hquarantined, ?_⟩
    rw [quarantined_eq, Bool.or_eq_false_iff] at hquarantined
    exact hquarantined.2

/-- The grant of a locked lease is the one of the task's run. -/
theorem current_of_locked {grant : LeaseGrant} {r : Run} {allowExpired : Bool}
    {clock : Clock}
    (hlocked : t.lockGrant grant allowExpired clock = .ok r) :
    t.state.isLeased ∧ t.currentRunId = some grant.runId := by
  obtain ⟨_, hid, _, _, _, _, _, _, _, _, _, hcurrent, _, hleased, _⟩ :=
    lockGrant_eq_ok hlocked
  rw [hid] at hcurrent
  exact ⟨hleased, hcurrent⟩

theorem accounts_reserve {grant : LeaseGrant} {amounts : Amounts}
    {reasonDigest key : Digest} {reservationId answer : Uuid}
    (ha : h.task.Accounts) (hleased : h.task.state.isLeased)
    (hcurrent : h.task.currentRunId = some grant.runId)
    (hok : reserve grant amounts reasonDigest key reservationId h
      = .ok (answer, h')) : h'.task.Accounts := by
  have hbalanced := balanced_reserve ha.balanced hok
  unfold reserve at hok
  simp only [bind_eq_ok] at hok
  obtain ⟨_, _, hok⟩ := hok
  cases hok
  refine ⟨hbalanced, ?_, consistent_of_leased hleased⟩
  intro _ b hb
  obtain ⟨hmem, hopen⟩ := List.mem_filter.mp hb
  rcases List.mem_append.mp hmem with hmem | hmem
  · exact ha.owned hleased b (List.mem_filter.mpr ⟨hmem, hopen⟩)
  · rw [List.mem_singleton.mp hmem]
    exact hcurrent

theorem accounts_observe {runId : Uuid} {released : Time}
    {providerCallId : Text} {evidence : UsageEvidence} {observationId : Uuid}
    (ha : t.Accounts) (hleased : t.state.isLeased)
    (hcurrent : t.currentRunId = some runId)
    (hok : t.releaseReservations runId released = .ok t') :
    (t'.observe runId providerCallId evidence observationId).2.Accounts := by
  obtain ⟨hbalanced, hrows⟩ := balanced_release ha.balanced hok
  have hstate : t'.state = t.state := by
    unfold Task.releaseReservations at hok
    simp only [bind_eq_ok] at hok
    obtain ⟨_, _, hok⟩ := hok
    cases hok
    rfl
  -- the run had all of the open reservations
  have hnone : unreleased t'.reservations = [] := by
    rw [hrows, unreleased_releasedOf, List.filter_eq_nil_iff]
    intro b hb
    have hown := ha.owned hleased b hb
    rw [hcurrent] at hown
    simp [(Option.some.inj hown).symm]
  have hobserved : (t'.observe runId providerCallId evidence
        observationId).2.reservations = t'.reservations
      ∧ (t'.observe runId providerCallId evidence
        observationId).2.state = t'.state := by
    unfold Task.observe
    split
    · exact ⟨rfl, rfl⟩
    · exact ⟨rfl, rfl⟩
  refine ⟨balanced_observe hbalanced hnone, ?_, ?_⟩
  · intro _ b hb
    rw [hobserved.1, hnone] at hb
    cases hb
  · apply consistent_of_leased
    rw [hobserved.2, hstate]
    exact hleased

/-- A change keeps the accounts of a task. -/
theorem Change.accounts (change : Change h h') (ha : h.task.Accounts) :
    h'.task.Accounts := by
  cases change with
  | recorded _ =>
      refine SameAccounts.accounts ?_ ha
      unfold Task.record
      split
      · exact ⟨rfl, rfl, rfl, rfl⟩
      · exact ⟨rfl, rfl, rfl, rfl⟩
  | exhausted hqueued _ _ =>
      exact ha.left rfl rfl (.inl (ha.clean hqueued))
  | renewed =>
      refine SameAccounts.accounts (t := h.task) ?_ ha
      exact ⟨rfl, rfl, rfl, rfl⟩
  | phased hedge =>
      obtain ⟨hfrom, hto⟩ := leased_of_phaseEdge hedge
      exact ⟨ha.balanced, fun _ => ha.owned hfrom, consistent_of_leased hto⟩
  | @released grant r q outcome _ _ _ _ target _ _ _ htarget =>
      refine ha.left rfl (releaseTarget_free htarget) ?_
      obtain hclean | ⟨hfailure, hquarantined, rfl⟩ :=
        releaseTarget_accounts htarget
      · left
        refine ⟨?_, hclean.2⟩
        have hnot : h.task.quarantined = false := by
          rw [quarantined_eq, hclean.1, hclean.2]
          rfl
        show Option.getD (if outcome.isFailure && h.task.quarantined
          then some true else none) h.task.accountingBlocked = false
        rw [hnot, Bool.and_false]
        exact hclean.1
      · right
        refine ⟨?_, rfl, TaskStatus.noConfusion⟩
        show Option.getD (if outcome.isFailure && h.task.quarantined
          then some true else none) h.task.accountingBlocked = true
        rw [hfailure, hquarantined]
        rfl
  | @expired runId repairs =>
      refine SameAccounts.accounts ?_ ha
      unfold Task.expireRun
      split
      · exact ⟨rfl, rfl, rfl, rfl⟩
      · exact ⟨rfl, rfl, rfl, rfl⟩
  | closed hterminal hcloses =>
      obtain ⟨hbooks, hblocked, hstate⟩ := closeActiveLease_books hcloses
      have hreserves := (reserves_of_books hbooks).1
      refine ⟨?_, owned_of_free ?_, ?_⟩
      · rw [hbooks]
        exact ha.balanced
      · rw [hstate]
        exact free_of_terminal hterminal
      · unfold Task.isAccountingConsistent
        rw [hstate, hblocked, hreserves]
        exact ha.consistent
  | @terminated h₁ clock target hfinal hcloses _ =>
      obtain ⟨hbooks, _, _⟩ := closeActiveLease_books hcloses
      have htarget : target.isLeased = false ∧ target.isQueued = false
          ∧ target ≠ .readyForHuman := by
        obtain rfl | rfl := hfinal
        · simp [TaskStatus.isLeased, TaskStatus.isQueued]
        · simp [TaskStatus.isLeased, TaskStatus.isQueued]
      refine ha.left hbooks htarget.1 ?_
      obtain ⟨hnot, hnone⟩ | hquarantined := marked h₁.task
      · left
        rw [(reserves_of_books hbooks).1] at hnone
        exact ⟨hnot, hnone⟩
      · exact .inr ⟨hquarantined, htarget.2⟩
  | orphaned _ _ _ hcloses =>
      obtain ⟨_, _, _, rfl⟩ := closeRun_eq_ok.mp hcloses
      refine SameAccounts.accounts (t := h.task) ?_ ha
      exact ⟨rfl, rfl, rfl, rfl⟩
  | overdue hqueued =>
      have hclean := ha.clean hqueued
      have hnot : h.task.quarantined = false := by
        rw [quarantined_eq, hclean.1, hclean.2]
        rfl
      refine ha.left rfl ?_ (.inl ⟨hnot, hclean.2⟩)
      show (if h.task.quarantined then TaskStatus.needsHuman
        else .dead).isLeased = false
      rw [hnot]
      rfl
  | reserved hlocked hreserves =>
      obtain ⟨hleased, hcurrent⟩ := current_of_locked hlocked
      exact accounts_reserve ha hleased hcurrent hreserves
  | observed hlocked _ hreleases =>
      obtain ⟨hleased, hcurrent⟩ := current_of_locked hlocked
      exact accounts_observe ha hleased hcurrent hreleases
  | blocked hlocked =>
      obtain ⟨hleased, _⟩ := current_of_locked hlocked
      exact ⟨ha.balanced, ha.owned, consistent_of_leased hleased⟩
  | @finalized _ grant r clock terminal result _ hfound hstatus hcommits =>
      obtain ⟨q, state, _, _, rfl⟩ := finalizeCommit_eq hcommits
      obtain ⟨_, _, _, _, _, _, hcurrent, _, hleased, _⟩ := hfound
      have hleased' : h.task.state.isLeased := by
        rw [hleased]
        rfl
      have hbooks : ((h.resulted r terminal result).ended q state
          clock).task.books = h.task.books := by
        rw [books_ended, books_resulted]
      refine ha.left hbooks (m4Status_free hstatus) ?_
      have hblocked : (h.resulted r terminal result).task.accountingBlocked
          = (h.task.accountingBlocked || decide (terminal ≠ .completed
            ∧ (!h.task.settled ∨ h.task.runHasReservation r.runId))) := rfl
      obtain ⟨hnot, hnone⟩ | ⟨hhuman, hopen⟩ :=
        m4Status_accounts hleased' hcurrent ha.owned hstatus
      · left
        refine ⟨?_, hnone⟩
        show (h.resulted r terminal result).task.accountingBlocked = false
        have hsettled : h.task.settled ∧ h.task.hasReservation = false := by
          have hquarantined : h.task.quarantined = false := by
            rw [quarantined_eq, hnot, hnone]
            rfl
          unfold Task.quarantined at hquarantined
          simpa using hquarantined
        have hfree : h.task.runHasReservation r.runId = false := by
          have hrows := hasReservation_false_iff.mp hsettled.2
          unfold Task.runHasReservation
          rw [List.any_eq_false]
          intro b hb hmeets
          have hmem : b ∈ unreleased h.task.reservations :=
            List.mem_filter.mpr ⟨hb, decide_eq_true (of_decide_eq_true hmeets).2⟩
          rw [hrows] at hmem
          cases hmem
        rw [hblocked, hnot, hsettled.1, hfree]
        simp
      · right
        refine ⟨?_, ?_, ?_⟩
        · show (h.resulted r terminal result).task.accountingBlocked = true
          rw [hblocked, Bool.or_eq_true, decide_eq_true_eq]
          exact hopen
        · show result.m4Status.isQueued = false
          rw [hhuman]
          rfl
        · show result.m4Status ≠ .readyForHuman
          rw [hhuman]
          simp

-- ============================================================== every move

variable {digests : Digests} {call : Call} {db db' : Db}

/-- The accounts of the store. -/
def Db.Accounts (db : Db) : Prop := ∀ t ∈ db.tasks, t.Accounts

theorem Move.accounts (move : Move call db db') (ha : db.Accounts) :
    db'.Accounts := by
  cases move with
  | @changed t h found change =>
      intro t' ht'
      rcases mem_put ht' with rfl | ⟨ht', _⟩
      · exact change.accounts (ha t (task?_some found).1)
      · exact ha t' ht'
  | @leased t request reads hleft found queued settled free _ _ _ _ =>
      intro t' ht'
      rcases mem_put ht' with rfl | ⟨ht', _⟩
      · refine ⟨(ha t (task?_some found).1).balanced, ?_,
          consistent_of_leased rfl⟩
        intro _ b hb
        have hnone : unreleased t.reservations = [] :=
          hasReservation_false_iff.mp free
        change b ∈ unreleased t.reservations at hb
        rw [hnone] at hb
        cases hb
      · exact ha t' ht'
  | @created i reads generation t actor _ _ _ queued =>
      intro t' ht'
      rcases List.mem_append.mp ht' with ht' | ht'
      · exact ha t' ht'
      · obtain ⟨_, rfl⟩ := event_eq_ok.mp queued
        rw [List.mem_singleton.mp ht']
        refine SameAccounts.accounts (t := queuedTask i reads generation) ?_ ?_
        · unfold Task.record
          split
          · exact ⟨rfl, rfl, rfl, rfl⟩
          · exact ⟨rfl, rfl, rfl, rfl⟩
        · refine ⟨⟨rfl, rfl, rfl, rfl, rfl, Nat.zero_le _, Nat.zero_le _,
            Nat.zero_le _, Nat.zero_le _⟩, owned_of_free rfl, ?_⟩
          exact consistent_of_clean rfl rfl
  | recorded _ => exact ha
  | switched _ => exact ha

theorem reachable_accounts (hreach : Run.Reachable (step digests) {} db) :
    db.Accounts := by
  refine (reachable_preserves (I := Db.Accounts)
    (fun _ ha move => move.accounts ha) ?_ hreach).2
  intro t ht
  cases ht

/-- In every reachable state the reserved totals of a task are the sums over
its open reservations and the observed ones the sums over its observations,
and all of them are within the limits. -/
theorem budgets_add_up {digests : Digests} {db : Db}
    (hreach : Run.Reachable (step digests) {} db) :
    ∀ t ∈ db.tasks,
      t.costReserved = ((unreleased t.reservations).map Reservation.cost).sum
      ∧ t.tokensReserved
        = ((unreleased t.reservations).map Reservation.tokens).sum
      ∧ t.wallReserved = ((unreleased t.reservations).map Reservation.wall).sum
      ∧ t.costObserved = (t.observations.map fun u => u.evidence.cost).sum
      ∧ t.tokensObserved = (t.observations.map fun u => u.evidence.tokens).sum
      ∧ t.costReserved + t.costObserved ≤ t.costLimit
      ∧ t.tokensReserved + t.tokensObserved ≤ t.tokenLimit
      ∧ t.wallReserved ≤ t.wallLimit ∧ t.outputObserved ≤ t.outputLimit := by
  intro t ht
  have hb := (reachable_accounts hreach t ht).balanced
  exact ⟨hb.cost, hb.tokens, hb.wall, hb.costSeen, hb.tokensSeen,
    hb.costWithin, hb.tokensWithin, hb.wallWithin, hb.outputWithin⟩

/-- A reservation of the run of `sampleClaim`. -/
def sampleReserve : Call :=
  .reserveBudget
    { taskId := sampleId
      runId := sampleId
      owner := "worker".toList
      role := .reader
      fence := 1
      expiresAt := 30000000
      packetDigest := .genesis }
    { cost := 3, tokens := 4, wall := 5 } .genesis sampleKey sampleWorker
    sampleId sampleClock

/-- A task is queued and claimed, and its run reserves. -/
theorem sample_reserved :
    ∃ db t, Run.run (step sampleDigests) {}
        [sampleCall 2 (by decide), sampleClaim, sampleReserve] = some db
      ∧ t ∈ db.tasks ∧ t.costReserved = 3 :=
  ⟨_, _, rfl, List.Mem.head _, rfl⟩

theorem budgets_add_up_sample :
    ∃ db t, Run.Reachable (step sampleDigests) {} db ∧ t ∈ db.tasks
      ∧ t.costReserved = 3
      ∧ t.costReserved
        = ((unreleased t.reservations).map Reservation.cost).sum := by
  obtain ⟨db, t, hrun, ht, hcost⟩ := sample_reserved
  have hreach : Run.Reachable (step sampleDigests) {} db := ⟨_, hrun⟩
  exact ⟨db, t, hreach, ht, hcost, (budgets_add_up hreach t ht).1⟩

/-- The accounting the readiness report asks for is consistent in every
reachable state, and a leased task has open reservations of its run only. -/
theorem accounting_consistent {digests : Digests} {db : Db}
    (hreach : Run.Reachable (step digests) {} db) :
    db.isAccountingConsistent
      ∧ ∀ t ∈ db.tasks, t.state.isLeased → ∀ b ∈ unreleased t.reservations,
        t.currentRunId = some b.runId := by
  have ha := reachable_accounts hreach
  refine ⟨?_, fun t ht => (ha t ht).owned⟩
  unfold Db.isAccountingConsistent
  rw [List.all_eq_true]
  exact fun t ht => (ha t ht).consistent

theorem accounting_consistent_sample :
    ∃ db, Run.Reachable (step sampleDigests) {} db
      ∧ Run.run (step sampleDigests) {}
        [sampleCall 2 (by decide), sampleClaim, sampleReserve] = some db
      ∧ db.isAccountingConsistent := by
  obtain ⟨db, _, hrun, _, _⟩ := sample_reserved
  exact ⟨db, ⟨_, hrun⟩, hrun, (accounting_consistent ⟨_, hrun⟩).1⟩

end Exolon.Store
