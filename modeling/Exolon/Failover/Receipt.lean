/-
What the durable caller of the landing backends keeps and is told.

A backend answers with a receipt of one attempt. `validateReceipt` is its
own consistency, `bindReceipt` its tie to the attempt it is asked about.
A document that is no sealed receipt, or whose source, observation or
artifact does not parse, is `malformed`, with the exception its parser
raises: the parsers are closed field checks and are not repeated here.

`Record` is the row of one job in the caller's journal, less its seal,
which every write computes anew.
-/
import Exolon.Lib.Text

namespace Exolon.Failover

-- ============================================================== receipts

/-- The exceptions `_drive` tells apart. -/
inductive Exn where
  | backendUnavailable
  | backendAmbiguous
  | backendRejected
  | settingsError
  | landingContractError
  | osError
  | valueError
  | other
  deriving DecidableEq, Repr

/-- The input a backend says it works on. -/
structure LandingInput where
  jobId : Text
  tenantId : Text
  repositoryId : Text
  exactBaseSha : Text
  exactBaseTree : Text
  siteId : Text
  mediaKind : Text
  mediaType : Text
  byteLength : Nat
  contentSha256 : Text
  quarantineRefDigest : Text
  receivedAt : Int
  expiresAt : Int
  inputDigest : Text
  deriving DecidableEq, Repr

/-- Who produced a result, and of what. -/
structure LandingProviderEvidence where
  providerId : Text
  modelId : Text
  adapterId : Text
  adapterVersion : Text
  decoderDigest : Text
  profileDigest : Text
  inputDigest : Text
  providerEvidenceDigest : Text
  deriving DecidableEq, Repr

inductive Category where
  | normalized | authentication | rateLimit | unavailable | transport
  | deadline | policy | permission | accounting | protocol | draft | input
  | configuration | unknown
  deriving DecidableEq, Repr

/-- Failures of a provider that another one may be tried after. -/
def fallbackCategories : List Category :=
  [.authentication, .rateLimit, .unavailable, .transport, .deadline]

structure LandingProviderObservation where
  evidence : LandingProviderEvidence
  category : Category
  deriving DecidableEq, Repr

structure SiteArtifact where
  inputDigest : Text
  profileDigest : Text
  sourceSha : Text
  sourceTree : Text
  artifactDigest : Text
  deriving DecidableEq, Repr

/-- The states of a backend's job; `other` is any other text. -/
inductive ReceiptState where
  | artifactReady | providerUnavailable | rejected | needsHuman | cancelled
  | accepted | normalizing | generating | evaluating
  | other (name : Text)
  deriving DecidableEq, Repr

namespace ReceiptState

def terminalStates : List ReceiptState :=
  [.artifactReady, .providerUnavailable, .rejected, .needsHuman, .cancelled]

def states : List ReceiptState :=
  terminalStates ++ [.accepted, .normalizing, .generating, .evaluating]

end ReceiptState

inductive Phase where
  | provider | artifact | unknown
  | other (name : Text)
  deriving DecidableEq, Repr

structure Receipt where
  source : LandingInput
  state : ReceiptState
  revision : Int
  reasonCode : Text
  phase : Phase
  terminal : Bool
  artifact : Option SiteArtifact
  providerEvidenceDigest : Option Text
  observation : Option LandingProviderObservation
  deriving DecidableEq, Repr

/-- What `observe` returned. -/
inductive Document where
  | malformed (e : Exn)
  | receipt (r : Receipt)

/-- The state, its finality and the phase are of the closed sets. -/
def Receipt.stateValid (r : Receipt) : Bool :=
  decide (r.state ∈ ReceiptState.states) && decide (0 ≤ r.revision)
    && r.terminal == decide (r.state ∈ ReceiptState.terminalStates)
    && (r.phase = .provider || r.phase = .artifact || r.phase = .unknown)

/-- An observation is of this input, and sealed by the receipt. -/
def Receipt.observationBound (r : Receipt) : Bool :=
  match r.observation with
  | none => true
  | some observation =>
      observation.evidence.inputDigest == r.source.inputDigest
        && some observation.evidence.providerEvidenceDigest
          == r.providerEvidenceDigest

/-- An artifact is of a normalized observation, this input and source. -/
def Receipt.artifactBound (r : Receipt) : Bool :=
  match r.artifact, r.observation with
  | none, _ => true
  | some _, none => false
  | some artifact, some observation =>
      observation.category == .normalized && r.phase == .artifact
        && artifact.inputDigest == r.source.inputDigest
        && artifact.profileDigest == observation.evidence.profileDigest
        && artifact.sourceSha == r.source.exactBaseSha
        && artifact.sourceTree == r.source.exactBaseTree

/-- A ready job has an artifact, and a provider's failure has none. -/
def Receipt.phaseBound (r : Receipt) : Bool :=
  (r.state != .artifactReady || r.artifact.isSome)
    && (r.phase != .provider || (r.artifact.isNone
      && r.observation.any fun o => o.category != .normalized))

def validateReceipt : Document → Except Exn Receipt
  | .malformed e => .error e
  | .receipt r =>
      if r.stateValid && r.observationBound && r.artifactBound
          && r.phaseBound then .ok r
      else .error .landingContractError

-- ================================================================ records

/-- What identifies a caller's job: its name, its input and the caller. -/
structure Request where
  jobId : Text
  actorId : Text
  repositoryId : Text
  exactBaseSha : Text
  exactBaseTree : Text
  mediaType : Text
  byteLength : Nat
  contentSha256 : Text
  configDigest : Text
  deriving DecidableEq, Repr

inductive AttemptState where
  | planned | dispatching | notSubmitted | eligibleFailure
  deriving DecidableEq, Repr

/-- The loop is past the attempt. -/
def AttemptState.settled : AttemptState → Bool
  | .notSubmitted | .eligibleFailure => true
  | .planned | .dispatching => false

structure Attempt where
  ordinal : Nat
  profileId : Text
  profileDigest : Text
  childId : Text
  state : AttemptState
  receipt : Option Receipt
  deriving DecidableEq, Repr

structure Winner where
  profileId : Text
  childId : Text
  providerId : Text
  modelId : Text
  profileDigest : Text
  inputDigest : Text
  socketPath : Text
  artifactDigest : Text
  providerEvidenceDigest : Option Text
  deriving DecidableEq, Repr

inductive JobState where
  | running | artifactReady | needsHuman | stopped | exhausted | expired
  deriving DecidableEq, Repr

inductive Reason where
  | retentionExpired | deadline | backendIdentity | inputUnavailable
  | selected | outcomeUnknown | ineligibleOutcome | backendRejected
  | providersUnavailable
  deriving DecidableEq, Repr

structure Record where
  request : Request
  parentDigest : Text
  createdAt : Int
  deadlineAt : Int
  expiresAt : Int
  attempts : List Attempt
  winner : Option Winner
  state : JobState
  reason : Option Reason
  deriving DecidableEq, Repr

-- ================================================================= config

structure BackendSpec where
  profileId : Text
  socketPath : Text
  profileDigest : Text

/-- What a profile's evidence must carry. -/
structure ProfileIdentity where
  providerId : Text
  modelId : Text
  adapterId : Text
  adapterVersion : Text
  decoderDigest : Text
  deriving DecidableEq

/-- What a caller hands over. -/
structure Input where
  payload : List UInt8
  mediaType : Text

/-- The caller of one job: its configuration, the digests it computes, and
what its checks of an input and of a record's size say. -/
structure Caller where
  jobId : Text
  actorId : Text
  repositoryId : Text
  exactBaseSha : Text
  exactBaseTree : Text
  deadlineSeconds : Int
  retentionSeconds : Int
  backends : List BackendSpec
  digest : Text
  profile : Text → ProfileIdentity
  sha256 : List UInt8 → Text
  requestDigest : Request → Text
  /-- The child of a parent, an ordinal and a profile. -/
  childDigest : Text → Nat → Text → Text
  checkInput : Input → Option Exn
  /-- The canonical record has at most 131,072 bytes. -/
  fits : Record → Bool

namespace Caller

variable (cfg : Caller)

def request (input : Input) : Request where
  jobId := cfg.jobId
  actorId := cfg.actorId
  repositoryId := cfg.repositoryId
  exactBaseSha := cfg.exactBaseSha
  exactBaseTree := cfg.exactBaseTree
  mediaType := input.mediaType
  byteLength := input.payload.length
  contentSha256 := cfg.sha256 input.payload
  configDigest := cfg.digest

/-- The attempt a backend starts with. -/
def planned (parent : Text) (ordinal : Nat) (backend : BackendSpec) :
    Attempt where
  ordinal := ordinal
  profileId := backend.profileId
  profileDigest := backend.profileDigest
  childId := cfg.childDigest parent ordinal backend.profileDigest
  state := .planned
  receipt := none

/-- The attempt is the one its place in the list makes it. -/
def identified (parent : Text) (ordinal : Nat) (backend : BackendSpec)
    (attempt : Attempt) : Bool :=
  attempt.ordinal == ordinal && attempt.profileId == backend.profileId
    && attempt.profileDigest == backend.profileDigest
    && attempt.childId
      == cfg.childDigest parent ordinal backend.profileDigest

/-- The identities of attempts, by the backends from `ordinal` on. -/
def attemptsValid (parent : Text) :
    Nat → List BackendSpec → List Attempt → Bool
  | _, _, [] => true
  | _, [], _ :: _ => false
  | ordinal, backend :: backends, attempt :: attempts =>
      cfg.identified parent ordinal backend attempt
        && attemptsValid parent (ordinal + 1) backends attempts

/-- What `load` demands of a row. -/
def recordValid (r : Record) : Bool :=
  r.parentDigest == cfg.requestDigest r.request
    && cfg.attemptsValid r.parentDigest 0 cfg.backends r.attempts
    && r.request.jobId == cfg.jobId && r.request.configDigest == cfg.digest

-- ======================================================== bound receipts

/-- The source is the job's input, under the attempt's child. -/
def sourceBound (request : Request) (attempt : Attempt)
    (source : LandingInput) : Bool :=
  source.tenantId == request.actorId
    && source.repositoryId == request.repositoryId
    && source.exactBaseSha == request.exactBaseSha
    && source.exactBaseTree == request.exactBaseTree
    && source.mediaType == request.mediaType
    && source.byteLength == request.byteLength
    && source.contentSha256 == request.contentSha256
    && source.jobId == attempt.childId

/-- An observation is of the attempt's profile and provider. -/
def providerBound (attempt : Attempt) (r : Receipt) : Bool :=
  match r.observation with
  | none => true
  | some observation =>
      observation.evidence.profileDigest == attempt.profileDigest
        && observation.evidence.providerId
          == (cfg.profile attempt.profileId).providerId
        && observation.evidence.modelId
          == (cfg.profile attempt.profileId).modelId
        && observation.evidence.adapterId
          == (cfg.profile attempt.profileId).adapterId
        && observation.evidence.adapterVersion
          == (cfg.profile attempt.profileId).adapterVersion
        && observation.evidence.decoderDigest
          == (cfg.profile attempt.profileId).decoderDigest

/-- A receipt does not go back behind the one before it. -/
def followsReceipt (attempt : Attempt) (r : Receipt) : Bool :=
  match attempt.receipt with
  | none => true
  | some prior =>
      decide (prior.revision ≤ r.revision) && r.source == prior.source

/-- A receipt of this attempt of this request. -/
def bindReceipt (request : Request) (attempt : Attempt)
    (document : Document) : Except Exn Receipt :=
  match validateReceipt document with
  | .error e => .error e
  | .ok r =>
      if sourceBound request attempt r.source && cfg.providerBound attempt r
          && followsReceipt attempt r then .ok r
      else .error .landingContractError

/-- What "bound" means: a valid receipt of this input, child, profile and
provider. -/
structure Bound (request : Request) (attempt : Attempt) (r : Receipt) :
    Prop where
  valid : validateReceipt (.receipt r) = .ok r
  source : sourceBound request attempt r.source = true
  provider : cfg.providerBound attempt r = true

variable {cfg}

theorem bound_of_bindReceipt {request : Request} {attempt : Attempt}
    {document : Document} {r : Receipt}
    (h : cfg.bindReceipt request attempt document = .ok r) :
    cfg.Bound request attempt r := by
  unfold bindReceipt at h
  cases document with
  | malformed e => cases h
  | receipt s =>
      by_cases hvalid : (s.stateValid && s.observationBound
          && s.artifactBound && s.phaseBound) = true
      · have hok : validateReceipt (.receipt s) = .ok s := if_pos hvalid
        rw [hok] at h
        simp only at h
        split at h
        case isFalse => cases h
        case isTrue hbound =>
          obtain rfl := Except.ok.inj h
          simp only [Bool.and_eq_true] at hbound
          exact ⟨hok, hbound.1.1, hbound.1.2⟩
      · have herror : validateReceipt (.receipt s)
            = .error .landingContractError := if_neg hvalid
        rw [herror] at h
        cases h

/-- Only identity of the attempt matters for a receipt to be bound. -/
theorem Bound.of_identity {request : Request} {attempt attempt' : Attempt}
    {r : Receipt} (h : cfg.Bound request attempt r)
    (hchild : attempt'.childId = attempt.childId)
    (hid : attempt'.profileId = attempt.profileId)
    (hdigest : attempt'.profileDigest = attempt.profileDigest) :
    cfg.Bound request attempt' r := by
  refine ⟨h.valid, ?_, ?_⟩
  · have hsource := h.source
    unfold sourceBound at hsource ⊢
    rw [hchild]
    exact hsource
  · have hprovider := h.provider
    unfold providerBound at hprovider ⊢
    rw [hid, hdigest]
    exact hprovider

end Caller

end Exolon.Failover
