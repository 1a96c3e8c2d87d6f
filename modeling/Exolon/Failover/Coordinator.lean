/-
The failover coordinator: one durable ordered attempt a backend.

`submit` and `resume` are the source's, `drive` its loop over the backends,
`attemptBackend` the body of the loop with its five exception classes. The
record in memory is part of the state (`Sim.record`): it is changed before
it is saved, and a handler sees it as the exception left it.

# Effects and crashes

Clock, journal and backends answer from a list (`Sim.answers`), one answer
an effect. An answer may raise anything, and may be the crash of the
process, before the effect; a crash after it is the crash before the next
one. What a crash leaves is the journal's row and the history.

# The history

`Moment` is what a run is asked about: inputs accepted, rows written,
backends asked, inputs posted. A post keeps the row it found.
-/
import Exolon.Failover.Receipt
import Exolon.Lib.Proc
import Exolon.Lib.Run

namespace Exolon.Failover

-- ================================================================== state

inductive BackendCall where
  | factory | capability | observe
  deriving DecidableEq, Repr

inductive Moment where
  | created (input : Input)
  | saved (r : Record)
  | contact (ordinal : Nat) (call : BackendCall)
  | posted (ordinal : Nat) (childId : Text) (durable : Option Record)

/-- What outlives a process: the job's row and input, and the history. -/
structure World where
  row : Option (Record × Option (List UInt8)) := none
  history : List Moment := []

/-- One answer of the clock, the journal or a backend. -/
inductive Answer where
  | time (t : Int)
  | ok
  | capability (isExpected : Bool)
  | document (d : Document)
  | raises (e : Exn)
  | crash

/-- A call under way: the world, its record and the answers to come. -/
structure Sim where
  world : World
  record : Record
  answers : List Answer

abbrev Step := Proc Sim Exn

namespace World

def note (w : World) (moment : Moment) : World :=
  { w with history := w.history ++ [moment] }

/-- `UPDATE`: the row of the job, if there is one. -/
def write (w : World) (r : Record) (purge : Bool) : World :=
  match w.row with
  | none => w
  | some (_, payload) =>
      { w with row := some (r, if purge then none else payload) }.note
        (.saved r)

def insert (w : World) (r : Record) (input : Input) : World :=
  { w with row := some (r, some input.payload) }.note (.created input)

/-- Opening the journal forgets expired inputs. -/
def reopen (w : World) (now : Int) : World :=
  match w.row with
  | none => w
  | some (r, payload) =>
      { w with row := some (r, if r.expiresAt ≤ now then none else payload) }

end World

-- ================================================================ effects

open Proc (get modify raise tryCatch)

/-- An effect: the next answer, and the moment if the process lives. -/
def ask (moment : Option Moment) : Step Answer := fun s =>
  match s.answers with
  | [] => (.cut, s)
  | .crash :: rest => (.cut, { s with answers := rest })
  | .raises e :: rest =>
      (.raised e, { s with
        answers := rest
        world := moment.elim s.world s.world.note })
  | answer :: rest =>
      (.done answer, { s with
        answers := rest
        world := moment.elim s.world s.world.note })

/-- An answer of another kind than asked for ends the call. -/
def readTime : Answer → Step Int
  | .time t => pure t
  | _ => Proc.cut

def readCapability : Answer → Step Bool
  | .capability isExpected => pure isExpected
  | _ => Proc.cut

def readDocument : Answer → Step Document
  | .document d => pure d
  | _ => Proc.cut

def clock : Step Int := do
  readTime (← ask none)

def setRecord (f : Record → Record) : Step PUnit :=
  modify fun s => { s with record := f s.record }

def setAttempt (k : Nat) (f : Attempt → Attempt) : Step PUnit :=
  setRecord fun r => { r with attempts := r.attempts.modify k f }

def writeRecord (purge : Bool) : Step PUnit :=
  modify fun s => { s with world := s.world.write s.record purge }

section Caller

variable (cfg : Caller)

/-- `journal.save`: the size is tested before the write; a purge ends with
a checkpoint. -/
def save (purge : Bool) : Step PUnit := do
  let s ← get
  if cfg.fits s.record then
    let _ ← ask none
    writeRecord purge
    if purge then
      let _ ← ask none
  else raise .settingsError

inductive Flow where
  | finished | next

def finish (state : JobState) (reason : Reason) (purge : Bool) :
    Step Flow := do
  setRecord fun r => { r with state := state, reason := some reason }
  save cfg purge
  pure .finished

-- ============================================================ one attempt

/-- The state of the attempt at `k`. -/
def stateAt (r : Record) (k : Nat) : Option AttemptState :=
  r.attempts[k]?.map Attempt.state

/-- The winner a ready receipt names. -/
def winnerOf (backend : BackendSpec) (childId : Text) (receipt : Receipt) :
    Option Winner :=
  match receipt.artifact, receipt.observation with
  | some artifact, some observation => some {
      profileId := backend.profileId
      childId := childId
      providerId := observation.evidence.providerId
      modelId := observation.evidence.modelId
      profileDigest := backend.profileDigest
      inputDigest := observation.evidence.inputDigest
      socketPath := backend.socketPath
      artifactDigest := artifact.artifactDigest
      providerEvidenceDigest := receipt.providerEvidenceDigest }
  | _, _ => none

def select (backend : BackendSpec) (childId : Text) (receipt : Receipt) :
    Step Flow :=
  match winnerOf backend childId receipt with
  | none => raise .other
  | some winner => do
      setRecord fun r => { r with winner := some winner }
      finish cfg .artifactReady .selected true

/-- The failure is a provider's, and another one may be tried. -/
def eligible (receipt : Receipt) : Bool :=
  receipt.phase = .provider && receipt.artifact.isNone
    && (receipt.state = .providerUnavailable
      || receipt.state = .needsHuman)
    && receipt.observation.any fun o => decide (o.category
      ∈ fallbackCategories)

/-- What a bound receipt decides. -/
def conclude (k : Nat) (backend : BackendSpec) (childId : Text)
    (receipt : Receipt) : Step Flow :=
  if receipt.state = .artifactReady && receipt.artifact.isSome then
    select cfg backend childId receipt
  else if !receipt.terminal || receipt.observation.isNone then
    finish cfg .needsHuman .outcomeUnknown false
  else if eligible receipt then do
    setAttempt k fun a => { a with state := .eligibleFailure }
    save cfg false
    pure .next
  else finish cfg .stopped .ineligibleOutcome true

/-- Bind what was observed of an attempt, keep it, and conclude. -/
def bindAndConclude (k : Nat) (backend : BackendSpec)
    (document : Document) : Step Flow := do
  let s ← get
  match s.record.attempts[k]? with
  | none => Proc.cut
  | some attempt =>
      match cfg.bindReceipt s.record.request attempt document with
      | .error e => raise e
      | .ok receipt => do
          setAttempt k fun a => { a with receipt := some receipt }
          save cfg false
          conclude cfg k backend attempt.childId receipt

def observeAttempt (k : Nat) (backend : BackendSpec) : Step Flow := do
  let document ← readDocument (← ask (some (.contact k .observe)))
  bindAndConclude cfg k backend document

/-- The POST, with the row it finds. -/
def post (k : Nat) : Step PUnit := do
  let s ← get
  match s.record.attempts[k]? with
  | none => Proc.cut
  | some attempt =>
      let _ ← ask (some (.posted k attempt.childId
        (s.world.row.map Prod.fst)))

/-- Only the same child may be observed after an ambiguous POST. -/
def tolerateAmbiguous : Exn → Step PUnit
  | .backendAmbiguous => pure ⟨⟩
  | e => raise e

/-- The dispatching state is durable before any POST. -/
def sendInput (k : Nat) (backend : BackendSpec) : Step Flow := do
  setAttempt k fun a => { a with state := .dispatching }
  save cfg false
  tryCatch (post k) tolerateAmbiguous
  observeAttempt cfg k backend

/-- A planned attempt: the backend is the one expected, and the input is
still there. -/
def dispatch (k : Nat) (backend : BackendSpec)
    (payload : Option (List UInt8)) : Step Flow := do
  let isExpected ← readCapability (← ask (some (.contact k .capability)))
  let s ← get
  if !isExpected then finish cfg .stopped .backendIdentity true
  else if payload.all fun p =>
      cfg.sha256 p != s.record.request.contentSha256 then
    finish cfg .stopped .inputUnavailable true
  else sendInput cfg k backend

def attemptBody (k : Nat) (backend : BackendSpec)
    (payload : Option (List UInt8)) : Step Flow := do
  let _ ← clock
  let _ ← ask (some (.contact k .factory))
  let s ← get
  if stateAt s.record k = some .planned then dispatch cfg k backend payload
  else observeAttempt cfg k backend

/-- The handlers of an attempt. -/
def rescue (k : Nat) (e : Exn) : Step Flow := do
  let s ← get
  match e with
  | .backendUnavailable =>
      if stateAt s.record k ≠ some .planned then
        finish cfg .needsHuman .outcomeUnknown false
      else do
        setAttempt k fun a => { a with state := .notSubmitted }
        save cfg false
        pure .next
  | .backendAmbiguous => finish cfg .needsHuman .outcomeUnknown false
  | .backendRejected | .settingsError | .landingContractError | .osError
  | .valueError => finish cfg .stopped .backendRejected true
  | .other => raise e

def attemptBackend (k : Nat) (backend : BackendSpec)
    (payload : Option (List UInt8)) : Step Flow :=
  tryCatch (attemptBody cfg k backend payload) (rescue cfg k)

-- =============================================================== the loop

/-- A new attempt is durable before its backend is asked. -/
def planAttempt (k : Nat) (backend : BackendSpec) : Step PUnit := do
  let s ← get
  if (stateAt s.record k).isNone then
    setRecord fun r => { r with
      attempts := r.attempts ++ [cfg.planned r.parentDigest k backend] }
    save cfg false

def driveFrom (payload : Option (List UInt8)) :
    Nat → List BackendSpec → Step Flow
  | _, [] => finish cfg .exhausted .providersUnavailable true
  | k, backend :: rest => do
      let s ← get
      if (stateAt s.record k).any AttemptState.settled then
        driveFrom payload (k + 1) rest
      else
        let now ← clock
        if now ≥ s.record.deadlineAt
            ∧ stateAt s.record k ≠ some .dispatching then
          finish cfg .stopped .deadline true
        else
          planAttempt cfg k backend
          match ← attemptBackend cfg k backend payload with
          | .finished => pure .finished
          | .next => driveFrom payload (k + 1) rest

/-- A record that is decided is only looked at. -/
def Record.decided (r : Record) : Bool :=
  r.winner.isSome || r.state = .exhausted || r.state = .stopped
    || r.state = .expired

def drive (payload : Option (List UInt8)) : Step Flow := do
  let s ← get
  if s.record.decided then pure .finished
  else
    let now ← clock
    if now < s.record.createdAt ∨ now ≥ s.record.expiresAt then
      finish cfg .expired .retentionExpired true
    else driveFrom cfg payload 0 cfg.backends

-- ================================================================== calls

/-- A row is loaded, when it is this caller's, and driven. -/
def driveRow (r : Record) (payload : Option (List UInt8)) : Step Flow :=
  if cfg.recordValid r then do
    setRecord fun _ => r
    drive cfg payload
  else raise .settingsError

def newRecord (input : Input) (now : Int) : Record where
  request := cfg.request input
  parentDigest := cfg.requestDigest (cfg.request input)
  createdAt := now
  deadlineAt := now + cfg.deadlineSeconds
  expiresAt := now + cfg.retentionSeconds
  attempts := []
  winner := none
  state := .running
  reason := none

/-- `journal.create`, which may find no room. -/
def create (input : Input) (now : Int) : Step PUnit := do
  let _ ← ask none
  modify fun s => { s with
    record := newRecord cfg input now
    world := s.world.insert (newRecord cfg input now) input }

def submit (input : Input) : Step Flow :=
  match cfg.checkInput input with
  | some e => raise e
  | none => do
      let s ← get
      match s.world.row with
      | some (prior, payload) =>
          if cfg.recordValid prior && prior.request ≠ cfg.request input then
            raise .settingsError
          else driveRow cfg prior payload
      | none => do
          let now ← clock
          create cfg input now
          drive cfg (some input.payload)

def resume : Step Flow := do
  let s ← get
  match s.world.row with
  | none => raise .settingsError
  | some (prior, payload) => driveRow cfg prior payload

-- =================================================================== runs

/-- What can happen to a job: calls with their answers, and the journal
opened by a new process. -/
inductive Action where
  | submit (input : Input) (answers : List Answer)
  | resume (answers : List Answer)
  | reopen (now : Int)

/-- The record of a call that has loaded none. -/
def blank : Record where
  request := ⟨[], [], [], [], [], [], 0, [], []⟩
  parentDigest := []
  createdAt := 0
  deadlineAt := 0
  expiresAt := 0
  attempts := []
  winner := none
  state := .running
  reason := none

/-- What a call leaves, however it ended. -/
def leave (call : Step Flow) (w : World) (answers : List Answer) : World :=
  (call ⟨w, blank, answers⟩).2.world

def step (w : World) : Action → Option World
  | .submit input answers => some (leave (submit cfg input) w answers)
  | .resume answers => some (leave (resume cfg) w answers)
  | .reopen now => some (w.reopen now)

end Caller

end Exolon.Failover
