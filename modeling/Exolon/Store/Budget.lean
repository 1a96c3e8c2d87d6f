/-
Budgets: amounts are reserved, and the usage that is observed of a run
releases what it had reserved.

An observation beyond a limit is not counted; it blocks the accounting of
the task, and that is committed before the call raises.
-/
import Exolon.Store.Claim

namespace Exolon.Store

open Factory Contracts Transaction

variable (digests : Digests)

-- =============================================================== budgets

/-- The amounts of a reservation. -/
structure Amounts where
  cost : Nat
  tokens : Nat
  wall : Nat
  deriving DecidableEq

/-- `prior["reservation_id"]` -/
def reservationReplay : CommandResult → Except Failure Uuid
  | .reservation reservationId => .ok reservationId
  | _ => .error (.store "stored reservation command result is invalid")

/-- The reservation of a key, with its task. -/
def Db.reservation? (db : Db) (key : Digest) : Option (Uuid × Reservation) :=
  db.tasks.findSome? fun t =>
    (t.reservations.find? fun b => b.idempotencyKey = key).map fun b =>
      (t.taskId, b)

/-- The amounts are reserved, where the limits leave room for them. -/
def reserve (grant : LeaseGrant) (amounts : Amounts) (reasonDigest : Digest)
    (key : Digest) (reservationId : Uuid) (h : Held) :
    Except Failure (Uuid × Held) := do
  let t := h.task
  check (¬ (t.accountingBlocked
      ∨ t.costLimit < t.costReserved + t.costObserved + amounts.cost
      ∨ t.tokenLimit < t.tokensReserved + t.tokensObserved + amounts.tokens
      ∨ t.wallLimit < t.wallReserved + amounts.wall))
    (.budget "budget exceeded or accounting blocked")
  return (reservationId, { h with
    task := { t with
      reservations := t.reservations ++ [{
        reservationId := reservationId
        runId := grant.runId
        idempotencyKey := key
        cost := amounts.cost
        tokens := amounts.tokens
        wall := amounts.wall
        reasonDigest := reasonDigest }]
      costReserved := t.costReserved + amounts.cost
      tokensReserved := t.tokensReserved + amounts.tokens
      wallReserved := t.wallReserved + amounts.wall } })

/-- `reserve_budget` -/
def reserveBudget (grant : LeaseGrant) (amounts : Amounts)
    (reasonDigest key : Digest) (actor : Actor) (reservationId : Uuid)
    (clock : Clock) (db : Db) : Except Failure (Uuid × Db) :=
  db.keyed digests (some key) actor
    (.reserveBudget grant.taskId grant.runId grant.fence amounts.cost
      amounts.tokens amounts.wall reasonDigest)
    reservationReplay .reservation fun db => do
      let t ← fetch (db.task? grant.taskId) staleFence
      let _ ← t.lockGrant grant false clock
      match db.reservation? key with
      | some (taskId, b) => do
          check (taskId = grant.taskId ∧ b.runId = grant.runId
              ∧ (⟨b.cost, b.tokens, b.wall⟩ : Amounts) = amounts
              ∧ b.reasonDigest = reasonDigest)
            (.store "idempotency key reused with different budget request")
          return (b.reservationId, db)
      | none => do
          -- the primary key of `budget_reservations`
          check (∀ t' ∈ db.tasks, ∀ b ∈ t'.reservations,
              b.reservationId ≠ reservationId) .database
          let answer ← reserve grant amounts reasonDigest key reservationId
            (db.held t)
          return (answer.1, db.put answer.2)

/-- What a call reports of a provider call. -/
structure UsageReport where
  providerCallId : Text
  priceTableDigest : Option Text
  cost : Nat
  tokens : Nat
  output : Nat
  components : UsageComponents

/-- The text, where it is a digest. -/
def Digest.of? (text : Text) : Option Digest :=
  if h : text.length = 64
      ∧ ∀ c ∈ text, ('0' ≤ c ∧ c ≤ '9') ∨ ('a' ≤ c ∧ c ≤ 'f') then
    some ⟨text, Factory.Digest.length_of h, Factory.Digest.hex_of h⟩
  else none

/-- What `_observe_usage_locked` answers. -/
inductive Observed
  | counted (result : UsageResult)
  | blocked

/-- `prior` of `observe_usage` -/
def observedReplay : CommandResult → Except Failure Observed
  | .observation result => .ok (.counted result)
  | .accountingBlocked => .ok .blocked
  | _ => .error (.store "stored usage command result is invalid")

/-- An observation was inserted. -/
def Observed.created : Observed → Bool
  | .counted result => result.created
  | .blocked => false

def Observed.record : Observed → CommandResult
  | .counted result => .observation result
  | .blocked => .accountingBlocked

/-- The open reservations of a run. -/
def Task.openReservations (t : Task) (runId : Uuid) : List Reservation :=
  t.reservations.filter fun b => b.runId = runId ∧ b.releasedAt = none

/-- The open reservations of the run are released; a reserved total does not
go below zero. -/
def Task.releaseReservations (t : Task) (runId : Uuid) (released : Time) :
    Except Failure Task := do
  let reservations := t.openReservations runId
  let cost := (reservations.map Reservation.cost).sum
  let tokens := (reservations.map Reservation.tokens).sum
  let wall := (reservations.map Reservation.wall).sum
  check (cost ≤ t.costReserved ∧ tokens ≤ t.tokensReserved
    ∧ wall ≤ t.wallReserved) .database
  return { t with
    reservations := Table.update
      (fun b => b.runId = runId ∧ b.releasedAt = none)
      (fun b => { b with releasedAt := some released }) t.reservations
    costReserved := t.costReserved - cost
    tokensReserved := t.tokensReserved - tokens
    wallReserved := t.wallReserved - wall }

/-- `sum(output_bytes)` -/
def Task.outputObserved (t : Task) : Nat :=
  (t.observations.map fun u => u.evidence.output).sum

/-- The usage is counted, or blocks the accounting. -/
def Task.observe (t : Task) (runId : Uuid) (providerCallId : Text)
    (evidence : UsageEvidence) (observationId : Uuid) : Observed × Task :=
  if t.costLimit < t.costObserved + evidence.cost
      ∨ t.tokenLimit < t.tokensObserved + evidence.tokens
      ∨ t.outputLimit < t.outputObserved + evidence.output then
    (.blocked, { t with accountingBlocked := true })
  else
    (.counted { observationId := observationId, created := true }, { t with
      observations := t.observations ++ [{
        observationId := observationId
        runId := runId
        providerCallId := providerCallId
        evidence := evidence }]
      costObserved := t.costObserved + evidence.cost
      tokensObserved := t.tokensObserved + evidence.tokens })

/-- The body of `_observe_usage_locked`. -/
def observeHeld (grant : LeaseGrant) (report : UsageReport)
    (observationId : Uuid) (clock : Clock) (h : Held) :
    Except Failure (Observed × Held) := do
  let _ ← h.task.lockGrant grant false clock
  match report.priceTableDigest.bind Digest.of? with
  | none =>
      return (.blocked,
        { h with task := { h.task with accountingBlocked := true } })
  | some priceTableDigest =>
      let evidence : UsageEvidence := {
        priceTableDigest := priceTableDigest
        cost := report.cost
        tokens := report.tokens
        output := report.output
        components := report.components }
      match h.task.observations.find? fun u =>
          u.runId = grant.runId ∧ u.providerCallId = report.providerCallId with
      | some u => do
          check (u.evidence = evidence) (.store
            "provider call id reused with different usage evidence")
          return (.counted
            { observationId := u.observationId, created := false }, h)
      | none => do
          let t ← h.task.releaseReservations grant.runId (clock.read 0)
          let answer := t.observe grant.runId report.providerCallId evidence
            observationId
          return (answer.1, { h with task := answer.2 })

/-- `_observe_usage_locked` -/
def observeUsageLocked (grant : LeaseGrant) (report : UsageReport)
    (actor : Actor) (key : Option Digest) (observationId : Uuid)
    (clock : Clock) (db : Db) : Except Failure (Observed × Db) :=
  db.keyed digests key actor
    (.observeUsage grant.taskId grant.runId grant.fence report.providerCallId
      report.priceTableDigest report.cost report.tokens report.output
      report.components)
    observedReplay Observed.record fun db => do
      let answer ← db.onTask grant.taskId staleFence
        (observeHeld grant report observationId clock)
      -- the primary key of `usage_observations`
      check (answer.1.created → ∀ t ∈ db.tasks, ∀ u ∈ t.observations,
        u.observationId ≠ observationId) .database
      return answer

/-- The checks of `observe_usage`; without components, they are zero. -/
def usageReport (providerCallId : Text) (priceTableDigest : Option Text)
    (cost tokens output : Nat) (components : Option UsageComponents) :
    Except Failure UsageReport := do
  let bytes := (utf8 providerCallId).length
  check (1 ≤ bytes ∧ bytes ≤ 128) (.budget "invalid usage evidence")
  let components ← match components with
    | none => .ok {}
    | some c => do
        check (c.inputTokens + c.outputTokens + c.reasoningTokens
            + c.cachedInputTokens + c.cacheWriteTokens = tokens)
          (.budget "usage component total mismatch")
        pure c
  return {
    providerCallId := providerCallId
    priceTableDigest := priceTableDigest
    cost := cost
    tokens := tokens
    output := output
    components := components }

/-- `observe_usage`, before its refusal is raised. -/
def observeUsage (grant : LeaseGrant) (providerCallId : Text)
    (priceTableDigest : Option Text) (cost tokens output : Nat)
    (components : Option UsageComponents) (actor : Actor)
    (key : Option Digest) (observationId : Uuid) (clock : Clock) (db : Db) :
    Except Failure (Observed × Db) := do
  let report ← usageReport providerCallId priceTableDigest cost tokens output
    components
  observeUsageLocked digests grant report actor key observationId clock db

end Exolon.Store
