/-
Landing jobs and the two stores that keep them.

A job is one record that moves through `JobState`; a store keeps the record
of every job and the commands that were given for it. `inMemory` keeps them
in dictionaries, `sqlite` in a database: it checks every record it reads or
writes, and demotes a finished one whose files no longer match. A call that
raises leaves the tables as they were, so a call is a function to an answer
with the new tables, or an error.

The rows of the database are the records themselves; what the files on disk
say is an argument, as it may change between two calls.
-/
import Exolon.Failover.Receipt
import Exolon.Lib.PyJson

namespace Exolon.Landing

open Failover (LandingInput Category)

-- ================================================================ errors

/-- What a call of a store or of the service raises: a
`LandingServiceError`, the `LandingProviderError` of a provider or a
builder, an exception that no handler of `Exception` stops, or any other
one. -/
inductive JobError where
  | service (code : String) (status : Nat)
  | provider
  | interrupt
  | other
  deriving DecidableEq

/-- Raise where the condition holds. -/
def failIf (condition : Bool) (code : String) (status : Nat) :
    Except JobError Unit :=
  if condition then .error (.service code status) else .ok ()

theorem failIf_ok {condition : Bool} {code : String} {status : Nat}
    {u : Unit} : failIf condition code status = .ok u
      ↔ condition = false := by
  cases condition with
  | false => exact iff_of_true rfl rfl
  | true =>
      constructor
      · intro h
        cases h
      · intro h
        cases h

-- ================================================================ states

/-- `LANDING_STATES` -/
inductive JobState where
  | accepted
  | normalizing
  | generating
  | evaluating
  | artifactReady
  | providerUnavailable
  | rejected
  | cancelled
  | needsHuman
  deriving DecidableEq

namespace JobState

/-- `_TERMINAL_STATES` -/
def terminalStates : List JobState :=
  [.artifactReady, .providerUnavailable, .rejected, .needsHuman]

/-- `_TRANSITIONS` -/
def transitions : JobState → List JobState
  | .accepted =>
      [.normalizing, .providerUnavailable, .rejected, .needsHuman,
        .cancelled]
  | .normalizing =>
      [.generating, .providerUnavailable, .rejected, .needsHuman,
        .cancelled]
  | .generating => [.evaluating, .artifactReady, .needsHuman, .cancelled]
  | .evaluating => [.artifactReady, .needsHuman, .cancelled]
  | .artifactReady => [.cancelled]
  | .providerUnavailable => [.cancelled]
  | .rejected => [.cancelled]
  | .needsHuman => [.cancelled]
  | .cancelled => []

end JobState

/-- `_validate_transition` -/
def validateTransition (current target : JobState) : Except JobError Unit :=
  failIf (current ≠ target && target ∉ current.transitions)
    "state_transition" 409

-- =============================================================== patterns

def isHexDigit (c : Char) : Bool :=
  ('0' ≤ c && c ≤ '9') || ('a' ≤ c && c ≤ 'f')

/-- `HEX64` -/
def isHex64 (text : Text) : Bool := text.length = 64 && text.all isHexDigit

/-- A letter or a digit. -/
def isAlphanumeric (p : CodePoint) : Bool :=
  (48 ≤ p.val && p.val ≤ 57) || (65 ≤ p.val && p.val ≤ 90)
    || (97 ≤ p.val && p.val ≤ 122)

/-- `_IDENTIFIER` -/
def isIdentifier : PyStr → Bool
  | [] => false
  | first :: rest =>
      isAlphanumeric first && rest.length ≤ 127
        && rest.all fun p => isAlphanumeric p || p ∈ py "._:/@+-"

-- ================================================================ records

/-- `SiteArtifactV1` -/
structure SiteArtifact where
  siteId : Text
  canonicalOrigin : Text
  sourceSha : Text
  sourceTree : Text
  candidateSha : Text
  candidateTree : Text
  inputDigest : Text
  specDigest : Text
  profileDigest : Text
  attemptDigest : Text
  evaluationDigest : Text
  manifestDigest : Text
  zipSha256 : Text
  sidecarSha256 : Text
  memberCount : Nat
  byteLength : Nat
  disposition : Text
  artifactDigest : Text
  deriving DecidableEq

inductive EvidenceVersion where
  | v1
  | v2
  deriving DecidableEq

/-- `LandingProviderEvidenceV1` and `V2`; the digest is of all of it. -/
structure LandingProviderEvidence where
  version : EvidenceVersion
  inputDigest : Text
  profileDigest : Text
  disposition : Text
  providerEvidenceDigest : Text
  deriving DecidableEq

/-- `LandingProviderObservation`: its evidence is parsed again when it is
made, which checks the digest. -/
structure LandingProviderObservation where
  evidence : LandingProviderEvidence
  category : Category
  evidence_hex : isHex64 evidence.providerEvidenceDigest = true
  deriving DecidableEq

/-- `RetainedLandingArtifact`; `contents` stands for its names, its bytes, its
attempt and its evaluation, which only `validate` reads. -/
structure RetainedLandingArtifact where
  artifact : SiteArtifact
  providerEvidence : LandingProviderEvidence
  contents : Text
  deriving DecidableEq

/-- `RetainedLandingArtifact.validate`: what the files say now. -/
abbrev Files := RetainedLandingArtifact → LandingInput → Bool

/-- A job by its tenant, its repository and its id. -/
abbrev Identity := Text × Text × Text

def identityOf (source : LandingInput) : Identity :=
  (source.tenantId, source.repositoryId, source.jobId)

/-- `LandingJobRecord` -/
structure LandingJobRecord where
  source : LandingInput
  state : JobState
  artifact : Option SiteArtifact := none
  providerEvidenceDigest : Option Text := none
  reasonCode : Option Text := none
  revision : Nat := 0
  sealedArtifact : Option RetainedLandingArtifact := none
  observation : Option LandingProviderObservation := none
  deriving DecidableEq

namespace LandingJobRecord

def identity (record : LandingJobRecord) : Identity :=
  identityOf record.source

/-- The observation is of this input and this evidence. -/
def observationBound (record : LandingJobRecord) : Bool :=
  match record.observation with
  | none => true
  | some observation =>
      observation.evidence.inputDigest = record.source.inputDigest
        && some observation.evidence.providerEvidenceDigest
          = record.providerEvidenceDigest

/-- The sealed copy is of this artifact, this evidence and this source. -/
def sealBound (record : LandingJobRecord) (artifact : SiteArtifact) : Bool :=
  match record.sealedArtifact with
  | none => false
  | some retained =>
      retained.artifact = artifact
        && record.providerEvidenceDigest
          = some retained.providerEvidence.providerEvidenceDigest
        && artifact.siteId = record.source.siteId
        && artifact.sourceSha = record.source.exactBaseSha
        && artifact.sourceTree = record.source.exactBaseTree
        && artifact.inputDigest = record.source.inputDigest

/-- The files of a finished job are what was sealed. -/
def filesMatch (files : Files) (record : LandingJobRecord) : Bool :=
  match record.sealedArtifact with
  | none => true
  | some retained =>
      record.state ≠ .artifactReady || files retained record.source

/-- The checks of an artifact that is there; `files` is there where the
files are validated. -/
def checkArtifact (files : Option Files) (record : LandingJobRecord) :
    Except JobError Unit :=
  match record.artifact with
  | none => .ok ()
  | some artifact => do
      failIf (record.state ∉
          [JobState.artifactReady, .needsHuman, .cancelled])
        "artifact_binding" 500
      failIf (!record.sealBound artifact) "artifact_integrity" 500
      failIf ((files.map fun files => !record.filesMatch files).getD false)
        "artifact_integrity" 500

/-- `_validate_record` -/
def validate (files : Option Files) (record : LandingJobRecord) :
    Except JobError Unit := do
  failIf ((record.providerEvidenceDigest.map fun digest =>
      !isHex64 digest).getD false) "provider_binding" 500
  failIf (!record.observationBound) "provider_binding" 500
  failIf (record.state = .artifactReady
      && (record.artifact.isNone || record.sealedArtifact.isNone))
    "artifact_binding" 500
  failIf (record.artifact.isNone ≠ record.sealedArtifact.isNone)
    "artifact_integrity" 500
  if record.state = .needsHuman
      ∧ record.reasonCode = some "artifact_integrity".toList then .ok ()
  else record.checkArtifact files

end LandingJobRecord

-- ================================================================= tables

inductive Action where
  | submit
  | cancel
  deriving DecidableEq

/-- What a store keeps: the record of every job, and for every command its
request and the input it was given for. -/
@[ext] structure Tables where
  records : Identity → Option LandingJobRecord := fun _ => none
  commands : Identity × Action × PyStr → Option (Text × Text) :=
    fun _ => none

namespace Tables

def setRecord (t : Tables) (record : LandingJobRecord) : Tables :=
  { t with records :=
      Function.update t.records record.identity (some record) }

def setCommand (t : Tables) (id : Identity) (action : Action)
    (key : PyStr) (command : Text × Text) : Tables :=
  { t with commands :=
      Function.update t.commands (id, action, key) (some command) }

end Tables

/-- A call of a store: an answer and the new tables, or an error. -/
abbrev Call (α : Type) := Tables → Except JobError (α × Tables)

/-- `LandingJobStore` -/
structure LandingJobStore where
  get : Identity → Call LandingJobRecord
  find : Identity → Call (Option LandingJobRecord)
  createOrReplay : LandingJobRecord → PyStr → Text →
    Call (LandingJobRecord × Bool)
  put : LandingJobRecord → Call LandingJobRecord
  cancelOrReplay : LandingJobRecord → PyStr → Text → Call LandingJobRecord

def conflict {α : Type} : Except JobError α :=
  .error (.service "idempotency_conflict" 409)

def notFound {α : Type} : Except JobError α :=
  .error (.service "not_found" 404)

/-- The record as it is stored over `current`. -/
def succeed (current record : LandingJobRecord) :
    Except JobError LandingJobRecord := do
  failIf (current.source ≠ record.source
    || current.revision ≠ record.revision) "stale_job" 409
  validateTransition current.state record.state
  .ok { record with revision := record.revision + 1 }

-- ============================================================ in memory

namespace InMemoryLandingJobStore

def get (id : Identity) : Call LandingJobRecord := fun t =>
  match t.records id with
  | none => notFound
  | some record => .ok (record, t)

def find (id : Identity) : Call (Option LandingJobRecord) := fun t =>
  .ok (t.records id, t)

/-- `_validate_command` -/
def validateCommand (key : PyStr) (digest : Text) : Except JobError Unit :=
  failIf (!(isIdentifier key && isHex64 digest)) "idempotency" 422

/-- `create_or_replay`; a command without its record would be a
`KeyError`. -/
def createOrReplay (record : LandingJobRecord) (key : PyStr)
    (digest : Text) : Call (LandingJobRecord × Bool) := fun t => do
  validateCommand key digest
  let command := (digest, record.source.inputDigest)
  match t.commands (record.identity, .submit, key) with
  | some prior =>
      if prior ≠ command then conflict
      else
        match t.records record.identity with
        | none => .error .other
        | some current => .ok ((current, false), t)
  | none =>
      match t.records record.identity with
      | some current =>
          if current.source ≠ record.source then conflict
          else .ok ((current, false),
            t.setCommand record.identity .submit key command)
      | none => .ok ((record, true), (t.setRecord record).setCommand
          record.identity .submit key command)

/-- `put` -/
def put (record : LandingJobRecord) : Call LandingJobRecord := fun t =>
  match t.records record.identity with
  | none => .ok (record, t.setRecord record)
  | some current => do
      let stored ← succeed current record
      .ok (stored, t.setRecord stored)

/-- `cancel_or_replay` -/
def cancelOrReplay (record : LandingJobRecord) (key : PyStr)
    (digest : Text) : Call LandingJobRecord := fun t => do
  validateCommand key digest
  let command := (digest, record.source.inputDigest)
  match t.records record.identity with
  | none => notFound
  | some current =>
      match t.commands (record.identity, .cancel, key) with
      | some prior =>
          if prior ≠ command then conflict else .ok (current, t)
      | none => do
          let (cancelled, t) ← put { current with
            state := .cancelled
            reasonCode := some "cancelled".toList } t
          .ok (cancelled,
            t.setCommand record.identity .cancel key command)

end InMemoryLandingJobStore

/-- `InMemoryLandingJobStore` -/
def inMemory : LandingJobStore where
  get := InMemoryLandingJobStore.get
  find := InMemoryLandingJobStore.find
  createOrReplay := InMemoryLandingJobStore.createOrReplay
  put := InMemoryLandingJobStore.put
  cancelOrReplay := InMemoryLandingJobStore.cancelOrReplay

-- =============================================================== database

namespace SQLiteLandingJobStore

variable (files : Files)

/-- The record of a finished job whose files no longer match. -/
def demoted (record : LandingJobRecord) : LandingJobRecord :=
  { record with
    state := .needsHuman
    reasonCode := some "artifact_integrity".toList
    revision := record.revision + 1 }

/-- `_select_record` -/
def selectRecord (id : Identity) : Call (Option LandingJobRecord) := fun t =>
  match t.records id with
  | none => .ok (none, t)
  | some record =>
      match record.validate (some files) with
      | .ok _ => .ok (some record, t)
      | .error e =>
          if e ≠ .service "artifact_integrity" 500
              ∨ record.state ≠ .artifactReady then .error e
          else .ok (some (demoted record), t.setRecord (demoted record))

def find (id : Identity) : Call (Option LandingJobRecord) :=
  selectRecord files id

def get (id : Identity) : Call LandingJobRecord := fun t => do
  let (found, t) ← find files id t
  match found with
  | none => notFound
  | some record => .ok (record, t)

/-- `_validate_command`; a key with a surrogate has no encoding. -/
def validateCommand (key : PyStr) (digest : Text) : Except JobError Unit :=
  match key.encode? with
  | none => .error .other
  | some encoded =>
      failIf (!(encoded ≠ [] && encoded.length ≤ 128 && isHex64 digest))
        "idempotency" 422

/-- `create_or_replay` -/
def createOrReplay (record : LandingJobRecord) (key : PyStr)
    (digest : Text) : Call (LandingJobRecord × Bool) := fun t => do
  record.validate none
  validateCommand key digest
  let command := t.commands (record.identity, .submit, key)
  let (found, t) ← selectRecord files record.identity t
  match command, found with
  | some _, none => conflict
  | some command, some current =>
      if current.source ≠ record.source
          ∨ command ≠ (digest, current.source.inputDigest) then conflict
      else .ok ((current, false), t)
  | none, some current =>
      if current.source ≠ record.source then conflict
      else .ok ((current, false), t.setCommand record.identity .submit key
        (digest, record.source.inputDigest))
  | none, none =>
      .ok ((record, true), (t.setRecord record).setCommand record.identity
        .submit key (digest, record.source.inputDigest))

/-- `put` -/
def put (record : LandingJobRecord) : Call LandingJobRecord := fun t => do
  record.validate (some files)
  let (found, t) ← selectRecord files record.identity t
  match found with
  | none => notFound
  | some current => do
      let stored ← succeed current record
      .ok (stored, t.setRecord stored)

/-- `cancel_or_replay` -/
def cancelOrReplay (record : LandingJobRecord) (key : PyStr)
    (digest : Text) : Call LandingJobRecord := fun t => do
  record.validate none
  validateCommand key digest
  let (found, t) ← selectRecord files record.identity t
  match found with
  | none => notFound
  | some current =>
      if current.source ≠ record.source then conflict
      else
        match t.commands (record.identity, .cancel, key) with
        | some command =>
            if command ≠ (digest, current.source.inputDigest) then conflict
            else .ok (current, t)
        | none => do
            validateTransition current.state .cancelled
            let cancelled := { current with
              state := .cancelled
              reasonCode := some "cancelled".toList
              revision := current.revision + 1 }
            .ok (cancelled, (t.setRecord cancelled).setCommand
              record.identity .cancel key
              (digest, record.source.inputDigest))

end SQLiteLandingJobStore

/-- `SQLiteLandingJobStore`, over what the files say at the call. -/
def sqlite (files : Files) : LandingJobStore where
  get := SQLiteLandingJobStore.get files
  find := SQLiteLandingJobStore.find files
  createOrReplay := SQLiteLandingJobStore.createOrReplay files
  put := SQLiteLandingJobStore.put files
  cancelOrReplay := SQLiteLandingJobStore.cancelOrReplay files

end Exolon.Landing
