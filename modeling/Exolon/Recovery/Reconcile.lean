/-
One round of execution recovery.

`reconcile` asks the store for a page of candidates, claims them one after
the other (fresh ones and retries in turn), releases the workspace of each
claim and records how that went. It answers the cursor from which the next
round lists its fresh candidates.

# What is left open

`World` has what the store, the workspace and the clock answer, from any
state of theirs; a call of them that raises is an answer as well. A clock
reading is an exact rational, and a cursor's time is an instant in
microseconds. `Call` is what the log of a round is made of.
-/
import Exolon.Lib.Text

namespace Exolon.Recovery

-- ================================================================= cursors

/-- `ExecutionRecoveryCursor` -/
structure Cursor where
  updatedAt : Int
  runId : Text
  deriving DecidableEq

/-- Cursors are ordered by their fields. -/
instance : LinearOrder Cursor :=
  LinearOrder.lift' (fun c => toLex (c.updatedAt, c.runId)) (by
    intro a b h
    cases a
    cases b
    cases h
    rfl)

/-- The larger of a cursor that may be missing and another. -/
def advance (safe : Option Cursor) (cursor : Cursor) : Cursor :=
  match safe with
  | none => cursor
  | some safe => max safe cursor

-- ============================================================== candidates

inductive Source where
  | fresh
  | cleanupRetry
  deriving DecidableEq

/-- `ExecutionRecoveryCandidate` -/
structure Candidate where
  taskId : Text
  runId : Text
  manifestDigest : Text
  workspaceHandle : Text
  updatedAt : Int
  source : Source
  deriving DecidableEq

def Candidate.cursor (c : Candidate) : Cursor := ⟨c.updatedAt, c.runId⟩

/-- The fresh candidates of a list. -/
def fresh (candidates : List Candidate) : List Candidate :=
  candidates.filter fun c => c.source = .fresh

/-- The candidates whose clean-up is tried again. -/
def retries (candidates : List Candidate) : List Candidate :=
  candidates.filter fun c => c.source = .cleanupRetry

inductive Transition where
  | orphaned
  | cancelled
  | cleanupRetry
  deriving DecidableEq

/-- `ExecutionRecoveryClaim` -/
structure Claim where
  candidate : Candidate
  claimToken : Text
  claimFence : Int
  transition : Transition
  advancesDiscoveryCursor : Bool
  deriving DecidableEq

structure WorkspaceHandle where
  taskId : Text
  runId : Text
  value : Text
  deriving DecidableEq

/-- The workspace that a claim is about. -/
def Claim.handle (claim : Claim) : WorkspaceHandle :=
  ⟨claim.candidate.taskId, claim.candidate.runId,
    claim.candidate.workspaceHandle⟩

/-- `ExecutionRecoveryNotDue` -/
structure NotDue where
  candidate : Candidate
  source : candidate.source = .fresh
  deriving DecidableEq

/-- What a call of `claim_execution_recovery` does: it raises, or it answers
`None`, that the candidate is not due, or a claim. -/
inductive Decision where
  | raised
  | absent
  | notDue (answer : NotDue)
  | claimed (claim : Claim)
  deriving DecidableEq

/-- `ExecutionRecoveryPage` -/
structure Page where
  candidates : List Candidate
  scannedThrough : Option Cursor
  exhausted : Bool
  runIds_nodup : (candidates.map Candidate.runId).Nodup
  manifestDigests_nodup : (candidates.map Candidate.manifestDigest).Nodup
  scannedThrough_eq :
    scannedThrough = ((fresh candidates).map Candidate.cursor).max?

/-- The order of a round: a fresh candidate, a retry, and so on. -/
def interleave {α : Type} : List α → List α → List α
  | [], retries => retries
  | fresh, [] => fresh
  | c :: fresh, r :: retries => c :: r :: interleave fresh retries

-- =================================================================== world

/-- A call that a round makes, with what it needs to know of the answer. -/
inductive Call where
  | claim (candidate : Candidate) (decision : Decision)
  | release (handle : WorkspaceHandle)
  | success (claim : Claim)
  | failure (claim : Claim)
  deriving DecidableEq

/-- The store, the workspace and the clock. `page` answers `none` where it
raises or gives no page, the last three `false` where they raise. -/
structure World (σ : Type) where
  page : Int → Option Cursor → σ → Option Page × σ
  monotonic : σ → ℚ × σ
  claim : Candidate → σ → Decision × σ
  release : WorkspaceHandle → ℚ → σ → Bool × σ
  recordSuccess : Claim → σ → Bool × σ
  recordFailure : Claim → σ → Bool × σ

/-- `_RECOVERY_BUDGET_SECONDS` -/
def recoveryBudgetSeconds : ℚ := 30

/-- `_RECOVERY_CYCLE_RESERVE_SECONDS` -/
def recoveryCycleReserveSeconds : ℚ := 12

/-- `_RECOVERY_OUTCOME_RESERVE_SECONDS` -/
def recoveryOutcomeReserveSeconds : ℚ := 7 / 2

-- ================================================================ progress

/-- The variables of the loop, and the calls it has made. -/
structure Progress where
  safeCursor : Option Cursor
  freshBlocked : Bool := false
  attempted : Nat := 0
  orphaned : Nat := 0
  cancelled : Nat := 0
  cleanupFailed : Nat := 0
  terminalizeFailed : Nat := 0
  log : List Call := []

namespace Progress

variable (p : Progress)

def called (call : Call) : Progress := { p with log := p.log ++ [call] }

/-- A candidate that could not be claimed. -/
def failed (candidate : Candidate) : Progress :=
  { p with
    terminalizeFailed := p.terminalizeFailed + 1
    freshBlocked := p.freshBlocked || candidate.source = .fresh }

/-- What an answer about a candidate does, and the claim it is. -/
def decided (candidate : Candidate) : Decision → Progress × Option Claim
  | .raised => (p.failed candidate, none)
  | .absent => (p.failed candidate, none)
  | .notDue answer =>
      if answer.candidate ≠ candidate then
        ({ p with
          terminalizeFailed := p.terminalizeFailed + 1
          freshBlocked := true }, none)
      else
        ({ p with
          safeCursor := some (advance p.safeCursor candidate.cursor) }, none)
  | .claimed claim =>
      if claim.candidate ≠ candidate then (p.failed candidate, none)
      else
        ({ p with
          orphaned := p.orphaned
            + if claim.transition = .orphaned then 1 else 0
          cancelled := p.cancelled
            + if claim.transition = .cancelled then 1 else 0
          safeCursor :=
            if claim.advancesDiscoveryCursor && !p.freshBlocked then
              some (advance p.safeCursor candidate.cursor)
            else p.safeCursor }, some claim)

end Progress

-- ================================================================= a round

section

variable {σ : Type} (world : World σ) (startedAt : ℚ)

/-- What is left of the budget. -/
def remaining (w : σ) : ℚ × σ :=
  let (now, w) := world.monotonic w
  (recoveryBudgetSeconds - (now - startedAt), w)

/-- A clean-up that has failed is recorded, if there is time. -/
def recordFailed (claim : Claim) (w : σ) (p : Progress) : σ × Progress :=
  let p := { p with cleanupFailed := p.cleanupFailed + 1 }
  let (left, w) := remaining world startedAt w
  if left < recoveryOutcomeReserveSeconds then
    (w, { p with terminalizeFailed := p.terminalizeFailed + 1 })
  else
    let (recorded, w) := world.recordFailure claim w
    let p := p.called (.failure claim)
    if recorded then (w, p)
    else (w, { p with terminalizeFailed := p.terminalizeFailed + 1 })

/-- A clean-up that has succeeded is recorded, if there is time. -/
def recordSucceeded (claim : Claim) (w : σ) (p : Progress) : σ × Progress :=
  let (left, w) := remaining world startedAt w
  if left < recoveryOutcomeReserveSeconds then
    (w, { p with cleanupFailed := p.cleanupFailed + 1 })
  else
    let (recorded, w) := world.recordSuccess claim w
    let p := p.called (.success claim)
    if recorded then (w, p)
    else (w, { p with cleanupFailed := p.cleanupFailed + 1 })

/-- The clean-up of a claim. -/
def cleanUp (claim : Claim) (w : σ) (p : Progress) : σ × Progress :=
  let (left, w) := remaining world startedAt w
  if left ≤ 5 + recoveryOutcomeReserveSeconds then
    recordFailed world startedAt claim w p
  else
    let (released, w) := world.release claim.handle
      (min 5 (left - recoveryOutcomeReserveSeconds)) w
    let p := p.called (.release claim.handle)
    if released then recordSucceeded world startedAt claim w p
    else recordFailed world startedAt claim w p

/-- The turn of a candidate that is claimed. -/
def turn (candidate : Candidate) (w : σ) (p : Progress) : σ × Progress :=
  let (decision, w) := world.claim candidate w
  let p := { p with attempted := p.attempted + 1 }
  match (p.called (.claim candidate decision)).decided candidate decision with
  | (p, some claim) => cleanUp world startedAt claim w p
  | (p, none) => (w, p)

/-- The loop of a round, and whether the page was consumed. -/
def loop : List Candidate → σ → Progress → σ × Progress × Bool
  | [], w, p => (w, p, true)
  | candidate :: ordered, w, p =>
      if candidate.source = .fresh ∧ p.freshBlocked = true then
        loop ordered w p
      else
        let (left, w) := remaining world startedAt w
        if left ≤ recoveryCycleReserveSeconds then (w, p, false)
        else
          let (w, p) := turn world startedAt candidate w p
          loop ordered w p

end

/-- What `reconcile` raises. -/
inductive RecoveryError where
  | invalidRecoveryLimit
  | noPage
  | invalidRecoveryPageWatermark
  deriving DecidableEq

/-- `ExecutionRecoveryResult` -/
structure Result where
  candidates : Nat
  orphaned : Nat
  cleanupFailed : Nat
  terminalizeFailed : Nat
  cursor : Option Cursor
  cancelled : Nat

/-- The answer of a round whose loop is over. -/
def Progress.result (p : Progress) (page : Page) (pageConsumed : Bool) :
    Except RecoveryError Result :=
  let settled := !p.freshBlocked && pageConsumed
  if settled && !page.exhausted && (page.scannedThrough.isNone
      || p.safeCursor ≠ page.scannedThrough) then
    .error .invalidRecoveryPageWatermark
  else
    .ok {
      candidates := p.attempted
      orphaned := p.orphaned
      cleanupFailed := p.cleanupFailed
      terminalizeFailed := p.terminalizeFailed
      cursor := if settled && page.exhausted then none else p.safeCursor
      cancelled := p.cancelled }

/-- The loop over a page. -/
def recover {σ : Type} (world : World σ) (startedAt : ℚ) (page : Page)
    (cursor : Option Cursor) (w : σ) : σ × Progress × Bool :=
  loop world startedAt
    (interleave (fresh page.candidates) (retries page.candidates)) w
    { safeCursor := cursor }

/-- `ExecutionRecovery.reconcile`, with the calls it makes. -/
def reconcile {σ : Type} (world : World σ) (limit : Int)
    (cursor : Option Cursor) (w : σ) :
    Except RecoveryError Result × List Call :=
  if !(2 ≤ limit && limit ≤ 100) then (.error .invalidRecoveryLimit, [])
  else
    let (startedAt, w) := world.monotonic w
    match world.page limit cursor w with
    | (none, _) => (.error .noPage, [])
    | (some page, w) =>
        let (_, p, pageConsumed) := recover world startedAt page cursor w
        (p.result page pageConsumed, p.log)

end Exolon.Recovery
