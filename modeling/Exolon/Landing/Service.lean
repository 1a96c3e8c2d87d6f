/-
The landing service: one job from its input to its end.

`submit` takes the input in, creates the job and works it off. `process` is
the work: the provider normalizes the input, the builder builds, and the
record it answers is the one to store last. Whatever the provider or the
builder raises is turned into a last record by a handler, and that record
is put outside of every handler.

A provider or a builder is a function to what it returns or raises; a value
of a wrong type is what the check after the call makes of it.
-/
import Exolon.Landing.Jobs

namespace Exolon.Landing

open Failover (LandingInput Category)

-- ============================================================== the calls

/-- What a provider or a builder does: return, raise `LandingProviderError`,
raise another `Exception`, or raise what `except Exception` does not
stop. -/
inductive Answer (α : Type) where
  | returned (a : α)
  | raisedProvider
  | raised
  | interrupted

/-- `StaticLandingSpecV1`, as far as the service reads it. -/
structure StaticLandingSpec where
  inputDigest : Text
  specDigest : Text

inductive OutcomeState where
  | normalized
  | providerUnavailable
  | needsHuman
  | rejected
  deriving DecidableEq

/-- `LandingNormalizationOutcome` -/
structure LandingNormalizationOutcome where
  spec : Option StaticLandingSpec
  evidence : LandingProviderEvidence
  state : OutcomeState
  reasonCode : Text
  observation : Option LandingProviderObservation

namespace LandingNormalizationOutcome

/-- The disposition that evidence of the outcome has. -/
def expectedDisposition (outcome : LandingNormalizationOutcome) : Text :=
  match outcome.state with
  | .normalized =>
      match outcome.evidence.version with
      | .v1 => "fixture_ready".toList
      | .v2 => "normalized".toList
  | .providerUnavailable => "provider_unavailable".toList
  | .needsHuman => "provider_unavailable".toList
  | .rejected => "rejected".toList

/-- `validate_landing_normalization_outcome` -/
def valid (outcome : LandingNormalizationOutcome) : Bool :=
  isIdentifier (outcome.reasonCode.map codePoint)
    && (outcome.state = .normalized) = outcome.spec.isSome
    && outcome.evidence.disposition = outcome.expectedDisposition
    && match outcome.observation with
      | none => true
      | some observation =>
          observation.evidence = outcome.evidence
            && (observation.category = .normalized)
              = (outcome.state = .normalized)

end LandingNormalizationOutcome

/-- What the service reads of a builder's result: its artifact, if it is
one, and its retained copy, if it is one. -/
structure Built where
  artifact : Option SiteArtifact
  retained : Option RetainedLandingArtifact

-- ============================================================ the service

/-- `Actor`, as far as the service reads it. -/
structure Actor where
  actorId : Text
  repositories : List Text

/-- The arguments of `submit`, its chunks apart. -/
structure Submission where
  jobId : Text
  repositoryId : Text
  exactBaseSha : Text
  exactBaseTree : Text
  mediaType : Text
  actor : Actor

def Submission.identity (request : Submission) : Identity :=
  (request.actor.actorId, request.repositoryId, request.jobId)

/-- `PrivateLandingBlobStore.accept` of the chunks of this submission: the
input, or the code of a `LandingContractError`. The input is of the job it
was asked for, with the times it was given, and its digests are digests. -/
structure Intake where
  accept : Submission → Int → Int → Except String LandingInput
  accepted : ∀ {request received expires source},
    accept request received expires = .ok source →
      identityOf source = request.identity ∧ source.receivedAt = received
        ∧ source.expiresAt = expires
        ∧ isIdentifier (source.jobId.map codePoint) = true
        ∧ isHex64 source.inputDigest = true

/-- What a `LandingApplicationService` is made with. -/
structure LandingApplicationService where
  store : LandingJobStore
  provider : LandingInput → Text → Answer LandingNormalizationOutcome
  artifactBuilder : Option (LandingInput → StaticLandingSpec →
    LandingProviderEvidence → Answer Built)
  profileDigest : Text
  intake : Intake
  clock : Option Int

/-- The tables of the store and the quarantined inputs. -/
structure World where
  tables : Tables
  blobs : Identity → Option LandingInput

namespace LandingApplicationService

def targetRepositoryId : Text :=
  "github.com/Dimkox/ai-dark-factory-landing".toList

def targetBaseSha : Text :=
  "fde60e040167c10975b00d11f578c4da6763069a".toList

def targetBaseTree : Text :=
  "21817e70e079b772e1f3114a80dfc0320d1ada91".toList

/-- `MEDIA_TYPES` -/
def mediaTypes : List (String × List String) := [
  ("text", ["text/plain"]),
  ("audio", ["audio/wav", "audio/mpeg", "audio/ogg"]),
  ("image", ["image/png", "image/jpeg", "image/webp"]),
  ("pdf", ["application/pdf"]),
  ("docx", ["application/vnd.openxmlformats-officedocument."
    ++ "wordprocessingml.document"])]

/-- `_media_kind` -/
def mediaKind (mediaType : Text) : Except JobError String :=
  match mediaTypes.find? fun kind => kind.2.any (·.toList = mediaType) with
  | some kind => .ok kind.1
  | none => .error (.service "media_type" 415)

/-- `_authorize` -/
def authorize (actor : Actor) (repositoryId : Text) :
    Except JobError Unit := do
  failIf (repositoryId ≠ targetRepositoryId) "repository" 403
  failIf ("*".toList ∉ actor.repositories
    && repositoryId ∉ actor.repositories) "authorization" 403

/-- `_service_error` -/
def serviceError (code : String) : JobError :=
  if code = "input_too_large" then .service code 413
  else if code = "media_type" then .service code 415
  else if code = "idempotency_conflict" ∨ code = "quarantine_collision" then
    .service code 409
  else .service code 422

/-- `_purge` -/
def purge (source : LandingInput) (w : World) : Except JobError World :=
  let id := identityOf source
  if w.blobs id ≠ none ∧ w.blobs id ≠ some source then
    .error (.service "purge_failed" 500)
  else .ok { w with blobs := Function.update w.blobs id none }

/-- `_validate_artifact` -/
def artifactBound (source : LandingInput) (spec : StaticLandingSpec)
    (evidence : LandingProviderEvidence) : Option SiteArtifact → Bool
  | none => false
  | some artifact =>
      artifact.sourceSha = source.exactBaseSha
        && artifact.sourceTree = source.exactBaseTree
        && artifact.inputDigest = source.inputDigest
        && artifact.specDigest = spec.specDigest
        && artifact.profileDigest = evidence.profileDigest
        && artifact.disposition = "artifact_ready".toList

variable (service : LandingApplicationService)

/-- The record of a `LandingProviderError`. -/
def providerFailed (processing : LandingJobRecord) : LandingJobRecord :=
  { processing with
    state := .providerUnavailable
    artifact := none
    providerEvidenceDigest := none
    reasonCode := some "provider_error".toList }

/-- The record of an outcome nothing is built of. -/
def closed (processing : LandingJobRecord)
    (outcome : LandingNormalizationOutcome) (state : JobState)
    (reason : Text) : LandingJobRecord :=
  { processing with
    state := state
    providerEvidenceDigest := some outcome.evidence.providerEvidenceDigest
    reasonCode := some reason
    observation := outcome.observation }

/-- The record of an outcome that is built. -/
def generating (processing : LandingJobRecord)
    (outcome : LandingNormalizationOutcome) : LandingJobRecord :=
  { processing with
    state := .generating
    providerEvidenceDigest := some outcome.evidence.providerEvidenceDigest
    observation := outcome.observation }

/-- The record of a build. -/
def ready (processing : LandingJobRecord)
    (outcome : LandingNormalizationOutcome) (built : Built) :
    LandingJobRecord :=
  { processing with
    state := .artifactReady
    artifact := built.artifact
    providerEvidenceDigest := some outcome.evidence.providerEvidenceDigest
    sealedArtifact := built.retained }

/-- What `_process` does once a build was called for. -/
def build (source : LandingInput) (outcome : LandingNormalizationOutcome)
    (spec : StaticLandingSpec) (builder : LandingInput →
      StaticLandingSpec → LandingProviderEvidence → Answer Built)
    (processing : LandingJobRecord) (t : Tables) :
    Except JobError LandingJobRecord × Tables :=
  match service.store.put (generating processing outcome) t with
  | .error e => (.error e, t)
  | .ok (processing, t) =>
      match builder source spec outcome.evidence with
      | .interrupted => (.error .interrupt, t)
      | .raised => (.error .other, t)
      | .raisedProvider => (.ok (providerFailed processing), t)
      | .returned built =>
          if artifactBound source spec outcome.evidence built.artifact then
            (.ok (ready processing outcome built), t)
          else (.error (.service "artifact_binding" 500), t)

/-- `_process` -/
def process (accepted : LandingJobRecord) (t : Tables) :
    Except JobError LandingJobRecord × Tables :=
  let source := accepted.source
  match service.store.put { accepted with state := .normalizing } t with
  | .error e => (.error e, t)
  | .ok (processing, t) =>
      match service.provider source service.profileDigest with
      | .interrupted => (.error .interrupt, t)
      | .raised => (.error .other, t)
      | .raisedProvider => (.ok (providerFailed processing), t)
      | .returned outcome =>
          if !outcome.valid then (.ok (providerFailed processing), t)
          else if outcome.evidence.inputDigest ≠ source.inputDigest
              ∨ outcome.evidence.profileDigest ≠ service.profileDigest then
            (.error (.service "provider_binding" 500), t)
          else
            match outcome.state, outcome.spec with
            | .normalized, some spec =>
                match service.artifactBuilder with
                | some builder =>
                    if spec.inputDigest ≠ source.inputDigest then
                      (.ok (closed processing outcome .needsHuman
                        "artifact_builder_unavailable".toList), t)
                    else build service source outcome spec builder
                      processing t
                | none => (.ok (closed processing outcome .needsHuman
                    "artifact_builder_unavailable".toList), t)
            | .providerUnavailable, _ => (.ok (closed processing outcome
                .providerUnavailable outcome.reasonCode), t)
            | .needsHuman, _ => (.ok (closed processing outcome
                .needsHuman outcome.reasonCode), t)
            | .rejected, _ => (.ok (closed processing outcome
                .rejected outcome.reasonCode), t)
            -- a valid outcome that is normalized has a spec
            | .normalized, none => (.error .other, t)

/-- The record of a failure that is no `LandingProviderError`. -/
def failed (current : LandingJobRecord) : LandingJobRecord :=
  { current with
    state := .needsHuman
    reasonCode := some "internal_failure".toList }

/-- The last `put` of a created job, and its purge. -/
def conclude (source : LandingInput) (final : LandingJobRecord)
    (w : World) : Except JobError LandingJobRecord × World :=
  match service.store.put final w.tables with
  | .error e => (.error e, w)
  | .ok (final, t) =>
      match purge source { w with tables := t } with
      | .error e => (.error e, { w with tables := t })
      | .ok w => (.ok final, w)

/-- The handler of `submit`: the job is read again and needs a human. -/
def recover (source : LandingInput) (w : World) :
    Except JobError LandingJobRecord × World :=
  match service.store.get (identityOf source) w.tables with
  | .error e => (.error e, w)
  | .ok (current, t) =>
      conclude service source (failed current) { w with tables := t }

/-- What `submit` does with a job it has created. -/
def workOff (accepted : LandingJobRecord) (w : World) :
    Except JobError LandingJobRecord × World :=
  let source := accepted.source
  match process service accepted w.tables with
  | (.ok final, t) => conclude service source final { w with tables := t }
  | (.error .interrupt, t) => (.error .interrupt, { w with tables := t })
  | (.error _, t) => recover service source { w with tables := t }

/-- The times of the input: those of the job it is sent for again, or a day
from now. -/
def times (existing : Option LandingJobRecord) :
    Except JobError (Int × Int) :=
  match existing with
  | some record => .ok (record.source.receivedAt, record.source.expiresAt)
  | none =>
      match service.clock with
      | none => .error (.service "clock" 500)
      | some now => .ok (now, now + 86400000000)

/-- `accept` has put the input into quarantine. -/
def quarantine (source : LandingInput) (w : World) : World :=
  { w with blobs :=
      Function.update w.blobs (identityOf source) (some source) }

/-- The checks of `submit` before anything is read. -/
def checkSubmission (request : Submission) : Except JobError Unit := do
  authorize request.actor request.repositoryId
  failIf (request.exactBaseSha ≠ targetBaseSha
    || request.exactBaseTree ≠ targetBaseTree) "source_identity" 409
  let _ ← mediaKind request.mediaType

/-- What `submit` does with an input it has taken in. -/
def createJob (request : Submission) (source : LandingInput) (w : World) :
    Except JobError (LandingJobRecord × Bool) × World :=
  match service.store.createOrReplay
      { source := source, state := .accepted }
      (request.jobId.map codePoint) source.inputDigest w.tables with
  | .ok (answer, t) => (.ok answer, { w with tables := t })
  | .error e =>
      match purge source w with
      | .error e => (.error e, w)
      | .ok w => (.error e, w)

/-- `submit` up to the job: its input, its record, and whether it was
created. -/
def openJob (request : Submission) (w : World) :
    Except JobError (LandingInput × LandingJobRecord × Bool) × World :=
  match checkSubmission request with
  | .error e => (.error e, w)
  | .ok _ =>
      match service.store.find request.identity w.tables with
      | .error e => (.error e, w)
      | .ok (existing, t) =>
          let w := { w with tables := t }
          match times service existing with
          | .error e => (.error e, w)
          | .ok (received, expires) =>
              match service.intake.accept request received expires with
              | .error code => (.error (serviceError code), w)
              | .ok source =>
                  match createJob service request source
                      (quarantine source w) with
                  | (.error e, w) => (.error e, w)
                  | (.ok (record, created), w) =>
                      (.ok (source, record, created), w)

/-- `submit` -/
def submit (request : Submission) (w : World) :
    Except JobError (LandingJobRecord × Bool) × World :=
  match openJob service request w with
  | (.error e, w) => (.error e, w)
  | (.ok (source, record, false), w) =>
      match purge source w with
      | .error e => (.error e, w)
      | .ok w => (.ok (record, false), w)
  | (.ok (_, record, true), w) =>
      match workOff service record w with
      | (.error e, w) => (.error e, w)
      | (.ok final, w) => (.ok (final, true), w)

/-- `get` -/
def get (jobId repositoryId : Text) (actor : Actor) (w : World) :
    Except JobError LandingJobRecord × World :=
  match authorize actor repositoryId with
  | .error e => (.error e, w)
  | .ok _ =>
      match service.store.get (actor.actorId, repositoryId, jobId)
          w.tables with
      | .error e => (.error e, w)
      | .ok (record, t) => (.ok record, { w with tables := t })

/-- `result` -/
def result (jobId repositoryId : Text) (actor : Actor) (w : World) :
    Except JobError LandingJobRecord × World :=
  match get service jobId repositoryId actor w with
  | (.error e, w) => (.error e, w)
  | (.ok record, w) =>
      if record.state ∈ [JobState.accepted, .normalizing, .generating,
          .evaluating] then
        (.error (.service "not_terminal" 409), w)
      else (.ok record, w)

/-- `cancel`; `digest` is the digest of the command. -/
def cancel (digest : Identity → Text) (jobId repositoryId : Text)
    (idempotencyKey : PyStr) (actor : Actor) (w : World) :
    Except JobError LandingJobRecord × World :=
  let id := (actor.actorId, repositoryId, jobId)
  match authorize actor repositoryId with
  | .error e => (.error e, w)
  | .ok _ =>
      match service.store.get id w.tables with
      | .error e => (.error e, w)
      | .ok (current, t) =>
          let w := { w with tables := t }
          match service.store.cancelOrReplay current idempotencyKey
              (digest id) w.tables with
          | .error e => (.error e, w)
          | .ok (cancelled, t) =>
              match purge cancelled.source { w with tables := t } with
              | .error e => (.error e, { w with tables := t })
              | .ok w => (.ok cancelled, w)

end LandingApplicationService

end Exolon.Landing
