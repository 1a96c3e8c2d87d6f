/-
The quarantine of landing inputs: `accept`, `read` and `purge`.

A record is filed under its tenant, repository and job; the file of its
bytes is named by a digest of these and of the content. `accept` and `read`
sweep what has expired first. A file is written under a temporary name and
then moved to its own, all at once.

# What is left open

`Host` has SHA-256, the Unicode normal form and the checks of text, PDF and
DOCX payloads. `Io` says which calls of the system raise, and is any; a
directory that only the store writes has no symbolic links. A clock reading
or a time of a caller is its instant in microseconds, or none if it has no
zone. A record's `input_digest` is a digest of its other fields, and two
records that agree in these are equal.
-/
import Exolon.Lib.Proc
import Exolon.Landing.Media
import Exolon.Semantic.Contracts

namespace Exolon.Landing.Blobs

open Media (Bytes LandingContractError)
open Semantic (contractJson isHex)
open Transaction (check)

structure Host extends Semantic.Runtime where
  others : Media.Others

-- ================================================================ records

structure Key where
  tenantId : Text
  repositoryId : Text
  jobId : Text
  deriving DecidableEq

/-- What a reference is a digest of. -/
structure ReferenceFacts where
  jobId : Text
  tenantId : Text
  repositoryId : Text
  exactBaseSha : Text
  exactBaseTree : Text
  mediaKind : String
  mediaType : String
  byteLength : Nat
  contentSha256 : Text
  deriving DecidableEq

namespace ReferenceFacts

def key (f : ReferenceFacts) : Key := ⟨f.tenantId, f.repositoryId, f.jobId⟩

def fields : List (Member ReferenceFacts) := [
  .of "job_id" jobId,
  .of "tenant_id" tenantId,
  .of "repository_id" repositoryId,
  .of "exact_base_sha" exactBaseSha,
  .of "exact_base_tree" exactBaseTree,
  .of "media_kind" fun f => f.mediaKind.toList,
  .of "media_type" fun f => f.mediaType.toList,
  .of "byte_length" byteLength,
  .of "content_sha256" contentSha256]

/-- What is hashed. -/
def message (f : ReferenceFacts) : Bytes :=
  Factory.utf8 (Factory.canonicalJson
    (contractJson "adaptive-factory.landing-quarantine-ref/v1" fields f))

/-- `landing_digest("quarantine-ref", …)` -/
def digest (host : Host) (f : ReferenceFacts) : Text :=
  (host.sha256 f.message).text

end ReferenceFacts

/-- `LandingInputV1` -/
structure LandingInput extends ReferenceFacts where
  siteId : Text
  quarantineRefDigest : Text
  receivedAt : Int
  expiresAt : Int
  deriving DecidableEq

-- ================================================================= checks

/-- `SITE_ID` -/
def siteId : Text := "therealaidarkfactory.online".toList

/-- `MEDIA_TYPES` -/
def mediaTypes : String → List String
  | "text" => ["text/plain"]
  | "audio" => ["audio/wav", "audio/mpeg", "audio/ogg"]
  | "image" => ["image/png", "image/jpeg", "image/webp"]
  | "pdf" => ["application/pdf"]
  | "docx" =>
      ["application/vnd.openxmlformats-officedocument.wordprocessingml.document"]
  | _ => []

/-- `MAX_INPUT_BYTES` -/
def maxInputBytes : String → Nat
  | "text" => 1048576
  | "audio" => 25 * 1048576
  | "image" => 10 * 1048576
  | "pdf" => 20 * 1048576
  | "docx" => 10 * 1048576
  | _ => 0

/-- `MAX_QUARANTINE_ENTRIES` -/
def maxQuarantineEntries : Nat := 4096

/-- `_PURGE_REASONS` -/
def purgeReasons : List String := ["cancelled", "normalized", "rejected", "expired"]

/-- `_IDENTIFIER` -/
def isIdentifier : Text → Bool
  | [] => false
  | c :: cs => c.isAlphanum && cs.length ≤ 127
      && cs.all fun c => c.isAlphanum || "._:/@+-".toList.contains c

/-- `_text` -/
def text (host : Host) (maximum : Nat) (t : Text) :
    Except LandingContractError Unit :=
  check (t ≠ [] ∧ (Factory.utf8 t).length ≤ maximum ∧ host.isNfc t = true
    ∧ t.all (fun c => 32 ≤ c.toNat || c = '\n' || c = '\t') = true)
    ⟨"invalid_text"⟩

/-- `_identifier` -/
def identifier (host : Host) (t : Text) : Except LandingContractError Unit := do
  text host 128 t
  check (isIdentifier t = true) ⟨"invalid_identifier"⟩

/-- `_hex`, of a commit or a tree -/
def sha (t : Text) : Except LandingContractError Unit :=
  check (isHex 40 t = true) ⟨"invalid_sha"⟩

/-- `_hex`, of a digest -/
def hexDigest (t : Text) : Except LandingContractError Unit :=
  check (isHex 64 t = true) ⟨"invalid_digest"⟩

/-- `LandingInputV1.from_facts` -/
def LandingInput.fromFacts (host : Host) (r : LandingInput) :
    Except LandingContractError LandingInput := do
  check (r.mediaType ∈ mediaTypes r.mediaKind) ⟨"media_type"⟩
  check (1 ≤ r.byteLength ∧ r.byteLength ≤ maxInputBytes r.mediaKind)
    ⟨"invalid_integer"⟩
  check (0 < r.expiresAt - r.receivedAt
    ∧ r.expiresAt - r.receivedAt ≤ 86400 * 1000000) ⟨"input_expiry"⟩
  identifier host r.jobId
  identifier host r.tenantId
  identifier host r.repositoryId
  sha r.exactBaseSha
  sha r.exactBaseTree
  identifier host r.siteId
  hexDigest r.contentSha256
  hexDigest r.quarantineRefDigest
  check (r.siteId = Blobs.siteId) ⟨"site_id"⟩
  .ok r

-- ================================================================== state

/-- The records of the store in the order they came, and the blob files by
the references they are named by. -/
structure Quarantine where
  records : List (Key × LandingInput)
  blobs : Text → Option Bytes

/-- The store: its quarantine, and the temporary file of a call. One that
could not be removed has a name that no later call meets. -/
structure BlobStore extends Quarantine where
  temporary : Option Bytes

namespace Quarantine

variable (q : Quarantine)

def empty : Quarantine := ⟨[], fun _ => none⟩

/-- `self._records.get(key)` -/
def find (key : Key) : Option LandingInput := q.records.lookup key

/-- The records that are live. -/
def live : List LandingInput := q.records.map Prod.snd

/-- `self._records.pop(key, None)` -/
def pop (key : Key) : Quarantine :=
  { q with records := q.records.filter fun p => p.1 ≠ key }

/-- `path.unlink()` -/
def unlink (reference : Text) : Quarantine :=
  { q with blobs := Function.update q.blobs reference none }

/-- `os.replace(temporary, target)` -/
def place (reference : Text) (payload : Bytes) : Quarantine :=
  { q with blobs := Function.update q.blobs reference (some payload) }

/-- `self._records[key] = record`, of a key without a record -/
def insert (key : Key) (record : LandingInput) : Quarantine :=
  { q with records := q.records ++ [(key, record)] }

end Quarantine

-- ================================================================= system

/-- What a call raises: its own error, one of the system, or one of the
caller's iterable. -/
inductive Failure where
  | contract (error : LandingContractError)
  | os
  | caller
  deriving DecidableEq

/-- A call of the system: the second removal of a temporary file is that of
`finally`. A blob is inspected, removed or read under its reference. -/
inductive Point where
  | create
  | prepare
  | write (written : Nat)
  | close
  | inspect (reference : Text)
  | removeTemporary
  | replace
  | settle
  | unlink (reference : Text)
  | settleUnlink (reference : Text)
  | readBlob
  | cleanTemporary
  deriving DecidableEq

/-- The calls of the system that raise. -/
abbrev Io := Point → Bool

abbrev Action (α : Type) := Proc BlobStore Failure α

def raise {α : Type} (code : String) : Action α := Proc.raise (.contract ⟨code⟩)

def lift {α : Type} (x : Except LandingContractError α) : Action α :=
  Proc.ofExcept (x.mapError .contract)

section Calls

variable (host : Host) (io : Io)

def attempt (point : Point) : Action PUnit :=
  if io point then Proc.raise .os else pure ⟨⟩

def change (f : Quarantine → Quarantine) : Action PUnit :=
  Proc.modify fun s => { s with toQuarantine := f s.toQuarantine }

def setTemporary (file : Option Bytes) : Action PUnit :=
  Proc.modify fun s => { s with temporary := file }

/-- `_now`, or a time of the caller -/
def zoned (now : Option Int) : Action Int :=
  match now with
  | none => raise "invalid_time"
  | some now => pure now

-- ================================================================== purge

/-- `purge` -/
def purge (record : LandingInput) (reason : String) : Action String :=
  if reason ∉ purgeReasons then raise "purge_reason"
  else do
    let s ← Proc.get
    if (s.find record.key).any (· ≠ record) then raise "blob_access_denied"
    else do
      attempt io (.inspect record.quarantineRefDigest)
      if (s.blobs record.quarantineRefDigest).isSome then do
        attempt io (.unlink record.quarantineRefDigest)
        change (·.unlink record.quarantineRefDigest)
        change (·.pop record.key)
        attempt io (.settleUnlink record.quarantineRefDigest)
        pure "purged"
      else do
        change (·.pop record.key)
        pure "already_absent"

/-- The loop of `_sweep_expired`. -/
def purgeAll : List LandingInput → Action PUnit
  | [] => pure ⟨⟩
  | record :: records => do
      let _ ← purge io record "expired"
      purgeAll records

/-- `_sweep_expired` -/
def sweepExpired (now : Int) : Action PUnit := do
  let s ← Proc.get
  purgeAll io (s.live.filter fun r => r.expiresAt ≤ now)

-- ================================================================= accept

/-- What the iterable of `accept` gives: some bytes, something else, or it
raises. -/
inductive Chunk where
  | bytes (value : Bytes)
  | invalid
  | raises

/-- The arguments of `accept`. -/
structure Upload where
  jobId : Text
  tenantId : Text
  repositoryId : Text
  exactBaseSha : Text
  exactBaseTree : Text
  siteId : Text
  mediaKind : String
  mediaType : String
  chunks : List Chunk
  receivedAt : Option Int
  expiresAt : Option Int

namespace Upload

variable (u : Upload)

def key : Key := ⟨u.tenantId, u.repositoryId, u.jobId⟩

/-- The facts of a reference to some bytes. -/
def facts (payload : Bytes) : ReferenceFacts where
  jobId := u.jobId
  tenantId := u.tenantId
  repositoryId := u.repositoryId
  exactBaseSha := u.exactBaseSha
  exactBaseTree := u.exactBaseTree
  mediaKind := u.mediaKind
  mediaType := u.mediaType
  byteLength := payload.length
  contentSha256 := (host.sha256 payload).text

/-- The record of some bytes. -/
def record (payload : Bytes) : Action LandingInput := do
  let receivedAt ← zoned u.receivedAt
  let expiresAt ← zoned u.expiresAt
  lift (LandingInput.fromFacts host {
    u.facts host payload with
    siteId := u.siteId
    quarantineRefDigest := (u.facts host payload).digest host
    receivedAt := receivedAt
    expiresAt := expiresAt })

end Upload

/-- The loop over the chunks, which writes them to the temporary file. -/
def receive (maximum : Nat) (written : Bytes) : List Chunk → Action Bytes
  | [] => do
      attempt io .close
      pure written
  | .raises :: _ => Proc.raise .caller
  | .invalid :: _ => raise "invalid_input_chunk"
  | .bytes value :: chunks =>
      if maximum < written.length + value.length then raise "input_too_large"
      else do
        attempt io (.write written.length)
        setTemporary (some (written ++ value))
        receive maximum (written ++ value) chunks

/-- The bytes under the name of their reference. -/
def keep (reference : Text) (payload : Bytes) : Action PUnit := do
  let s ← Proc.get
  attempt io (.inspect reference)
  match s.blobs reference with
  | some blob =>
      if blob ≠ payload then raise "quarantine_collision"
      else do
        attempt io .removeTemporary
        setTemporary none
  | none => do
      attempt io .replace
      change (·.place reference payload)
      setTemporary none
      attempt io .settle

/-- A record that is made of some bytes is filed, if its key has none. -/
def file (key : Key) (record : LandingInput) (payload : Bytes) :
    Action LandingInput := do
  let s ← Proc.get
  match s.find key with
  | some existing =>
      if existing ≠ record then raise "idempotency_conflict"
      else pure existing
  | none => do
      keep io record.quarantineRefDigest payload
      change (·.insert key record)
      pure record

/-- What `accept` does under `try`. -/
def stage (u : Upload) : Action LandingInput := do
  attempt io .prepare
  let payload ← receive io (maxInputBytes u.mediaKind) [] u.chunks
  if payload = [] then raise "input_empty"
  else do
    lift (Media.validateShape host.others u.mediaKind u.mediaType payload)
    let record ← u.record host payload
    file io u.key record payload

/-- What it does under `finally`. -/
def clean : Action PUnit := do
  let s ← Proc.get
  if s.temporary.isSome then do
    attempt io .cleanTemporary
    setTemporary none
  else pure ⟨⟩

/-- `accept` -/
def accept (now : Option Int) (u : Upload) : Action LandingInput :=
  if u.mediaType ∉ mediaTypes u.mediaKind then raise "media_type"
  else do
    let now ← zoned now
    sweepExpired io now
    let s ← Proc.get
    if s.find u.key = none ∧ maxQuarantineEntries ≤ s.records.length then
      raise "quarantine_capacity"
    else do
      attempt io .create
      setTemporary (some [])
      Proc.andFinally (stage host io u) (clean io)

-- =================================================================== read

/-- `read` -/
def read (now : Option Int) (record : LandingInput) (key : Key) : Action Bytes :=
  if key ≠ record.key then raise "blob_access_denied"
  else do
    let s ← Proc.get
    if s.find key ≠ some record then raise "blob_unavailable"
    else do
      let now ← zoned now
      if record.expiresAt ≤ now then do
        let _ ← purge io record "expired"
        raise "blob_expired"
      else do
        sweepExpired io now
        let s ← Proc.get
        match s.blobs record.quarantineRefDigest with
        | none => raise "blob_unavailable"
        | some payload => do
            attempt io .readBlob
            if payload.length ≠ record.byteLength
                ∨ (host.sha256 payload).text ≠ record.contentSha256 then
              raise "blob_digest_mismatch"
            else pure payload

end Calls

-- =================================================================== runs

/-- A call of the store, with the clock's reading and what the system does. -/
inductive Call where
  | accept (io : Io) (now : Option Int) (upload : Upload)
  | read (io : Io) (now : Option Int) (record : LandingInput) (key : Key)
  | purge (io : Io) (record : LandingInput) (reason : String)

/-- What a call answers. -/
inductive Answer where
  | accepted (record : LandingInput)
  | payload (bytes : Bytes)
  | purged (result : String)
  deriving DecidableEq

/-- The call, on a store. -/
def Call.perform (host : Host) : Call → Action Answer
  | .accept io now u => do
      let record ← Blobs.accept host io now u
      pure (.accepted record)
  | .read io now record key => do
      let payload ← Blobs.read host io now record key
      pure (.payload payload)
  | .purge io record reason => do
      let result ← Blobs.purge io record reason
      pure (.purged result)

/-- The store after some calls, from an empty one. -/
def after (host : Host) (calls : List Call) : BlobStore :=
  calls.foldl (fun s call => (call.perform host s).2)
    { Quarantine.empty with temporary := none }

end Exolon.Landing.Blobs
