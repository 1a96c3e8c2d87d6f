/-
The audit log of the factory and the verification of its chains.

`AuditStore.audit` is `_audit`: it hashes an envelope of the entry and of
the task's last digest, and moves the task's head. `verifyAuditChain` reads
a task's rows in the order of their ids and hashes them again, with an
older envelope for rows of version 1; it builds the envelope by itself.

`chain_exact` says what it accepts: the rows that were written, and with
the head as they left it no other rows.

# What is assumed of SHA-256

`CollisionFree` speaks of the messages of two lists of rows: none of one
has the digest of another one of the second list, and none has the digest
of sixty-four zeros, which stands for "no entry before".
-/
import Exolon.Factory.Values
import Exolon.Lib.Chain

namespace Exolon.Factory

-- ================================================================== rows

inductive DigestVersion where
  | one | two
  deriving DecidableEq, Repr

/-- What is hashed of a row. -/
structure AuditEntry where
  taskId : Uuid
  runId : Option Uuid
  correlationId : Text
  actorId : Text
  action : Text
  resource : Text
  reason : Text
  createdAt : Timestamp
  metadata : Jsonb
  digestVersion : DigestVersion

/-- The columns `verify_audit_chain` selects. -/
structure ChainRow where
  previousDigest : Digest
  currentDigest : Digest
  entry : AuditEntry

/-- A row of `factory.audit_log`. -/
structure AuditRow where
  auditId : Nat
  columns : ChainRow

/-- The log and the heads; `lastId` is the sequence of the ids. -/
structure AuditStore where
  log : List AuditRow := []
  heads : Uuid → Option Digest := fun _ => none
  lastId : Nat := 0

/-- What a caller hands to `_audit`, the time the database answers, and how
many ids the sequence skipped before. -/
structure AuditCall where
  taskId : Uuid
  actor : Text
  action : Text
  resource : Text
  reason : Text
  correlationId : Text
  metadata : Option Metadata
  runId : Option Uuid
  receivedAt : Timestamp
  skipped : Nat

-- ============================================================= envelopes

/-- `canonical_digest` -/
def canonicalDigest (sha256 : List UInt8 → Digest) (v : Json) : Digest :=
  sha256 (utf8 (canonicalJson v))

def uuidOrNull : Option Uuid → Json
  | none => .null
  | some u => .str u.text

section Digests

variable (sha256 : List UInt8 → Digest)

/-- The envelope `_audit` hashes. -/
def writtenEnvelope (previous : Digest) (call : AuditCall) : Json :=
  .obj [
    ("digest_version".toList, .int 2),
    ("previous_digest".toList, .str previous.text),
    ("task_id".toList, .str call.taskId.text),
    ("run_id".toList, uuidOrNull call.runId),
    ("correlation_id".toList, .str call.correlationId),
    ("actor".toList, .str call.actor),
    ("action".toList, .str call.action),
    ("resource".toList, .str call.resource),
    ("reason".toList, .str call.reason),
    ("received_at".toList, .str call.receivedAt.isoformat),
    ("metadata_digest".toList, .str (canonicalDigest sha256
      (call.metadata.getD .empty).value).text)]

/-- What the envelope of version 2 adds. -/
def versionMembers (entry : AuditEntry) : List (Text × Json) :=
  match entry.digestVersion with
  | .one => []
  | .two => [
    ("digest_version".toList, .int 2),
    ("task_id".toList, .str entry.taskId.text),
    ("run_id".toList, uuidOrNull entry.runId),
    ("correlation_id".toList, .str entry.correlationId)]

def metadataDigest (entry : AuditEntry) : Digest :=
  canonicalDigest sha256 entry.metadata.value

/-- The envelope `verify_audit_chain` hashes. -/
def envelope (previous : Digest) (entry : AuditEntry) : Json :=
  .obj ([
    ("previous_digest".toList, .str previous.text),
    ("actor".toList, .str entry.actorId),
    ("action".toList, .str entry.action),
    ("resource".toList, .str entry.resource),
    ("reason".toList, .str entry.reason),
    ("received_at".toList, .str entry.createdAt.isoformat),
    ("metadata_digest".toList, .str (metadataDigest sha256 entry).text)]
      ++ versionMembers entry)

/-- The digest of an entry after another one. -/
def link (previous : Digest) (entry : AuditEntry) : Digest :=
  canonicalDigest sha256 (envelope sha256 previous entry)

end Digests

-- =============================================================== the log

/-- The row `_audit` inserts. -/
def AuditCall.entry (call : AuditCall) : AuditEntry where
  taskId := call.taskId
  runId := call.runId
  correlationId := call.correlationId
  actorId := call.actor
  action := call.action
  resource := call.resource
  reason := call.reason
  createdAt := call.receivedAt
  metadata := (call.metadata.getD .empty).stored
  digestVersion := .two

namespace AuditStore

variable (sha256 : List UInt8 → Digest)

/-- `_audit` -/
def audit (s : AuditStore) (call : AuditCall) : AuditStore :=
  let previous := (s.heads call.taskId).getD .genesis
  let digest :=
    canonicalDigest sha256 (writtenEnvelope sha256 previous call)
  let auditId := s.lastId + 1 + call.skipped
  { log := s.log ++ [⟨auditId, previous, digest, call.entry⟩]
    heads := Function.update s.heads call.taskId (some digest)
    lastId := auditId }

/-- What a sequence of writes leaves. -/
def written (calls : List AuditCall) : AuditStore :=
  calls.foldl (audit sha256) {}

end AuditStore

-- ========================================================== verification

/-- `SELECT ... WHERE task_id=%s ORDER BY audit_id` -/
def selectChain (log : List AuditRow) (taskId : Uuid) : List ChainRow :=
  ((log.filter fun row => decide (row.columns.entry.taskId = taskId)).insertionSort
    fun a b => a.auditId ≤ b.auditId).map AuditRow.columns

section Verify

variable (sha256 : List UInt8 → Digest)

/-- The loop over the rows: the last digest, if all are as recorded. -/
def verifyRows : Digest → List ChainRow → Option Digest
  | previous, [] => some previous
  | previous, row :: rows =>
      if row.previousDigest ≠ previous then none
      else
        let expected := link sha256 previous row.entry
        if row.currentDigest ≠ expected then none
        else verifyRows expected rows

def verifyAuditChain (s : AuditStore) (taskId : Uuid) : Bool :=
  let rows := (selectChain s.log taskId).take 100001
  if rows.isEmpty || decide (100000 < rows.length) then false
  else
    match verifyRows sha256 .genesis rows with
    | none => false
    | some previous => decide (s.heads taskId = some previous)

end Verify

-- ===================================================== the two envelopes

section Envelopes

variable {sha256 : List UInt8 → Digest}

/-- The members the writer puts first, the verifier puts last. -/
theorem perm_versionLast {α : Type} (version previous : α)
    (added rest : List α) :
    (version :: previous :: (added ++ rest)).Perm
      ((previous :: rest) ++ version :: added) := by
  have hmiddle : (version :: previous :: (added ++ rest)).Perm
      ((version :: added) ++ previous :: rest) :=
    List.perm_middle.symm.cons version
  exact hmiddle.trans List.perm_append_comm

/-- The writer's envelope and the verifier's are hashed alike. -/
theorem canonicalDigest_writtenEnvelope (previous : Digest)
    (call : AuditCall) :
    canonicalDigest sha256 (writtenEnvelope sha256 previous call)
      = link sha256 previous call.entry := by
  have hmetadata : metadataDigest sha256 call.entry
      = canonicalDigest sha256 (call.metadata.getD .empty).value :=
    congrArg (fun text => sha256 (utf8 text))
      (canonicalJson_stored (call.metadata.getD .empty))
  unfold link canonicalDigest canonicalJson
  congr 3
  unfold writtenEnvelope envelope
  rw [hmetadata]
  refine Json.reorder_perm Function.injective_id
    (perm_versionLast _ _ [_, _, _] [_, _, _, _, _, _]) ?_
  show (["digest_version", "previous_digest", "task_id", "run_id",
    "correlation_id", "actor", "action", "resource", "reason",
    "received_at", "metadata_digest"].map String.toList).Nodup
  decide +kernel

/-- What is read of an envelope under a name. -/
def AuditEntry.member (sha256 : List UInt8 → Digest) (previous : Digest)
    (entry : AuditEntry) (name : String) : Option Json :=
  (envelope sha256 previous entry).get? name.toList

theorem envelope_plain (previous : Digest) (entry : AuditEntry) :
    (envelope sha256 previous entry).Plain := by
  have hrun : (uuidOrNull entry.runId).Plain := by
    cases entry.runId <;> trivial
  unfold envelope versionMembers
  rw [Json.Plain, Json.plainMembers_iff]
  cases entry.digestVersion with
  | one => simp [Json.Plain]
  | two => simp [Json.Plain, hrun]

theorem envelope_names (sha256 : List UInt8 → Digest) (previous : Digest)
    (entry : AuditEntry) :
    ∃ members, envelope sha256 previous entry = .obj members
      ∧ (members.map Prod.fst).Nodup := by
  refine ⟨_, rfl, ?_⟩
  rw [List.map_append]
  unfold versionMembers
  cases entry.digestVersion with
  | one =>
      show (["previous_digest", "actor", "action", "resource", "reason",
        "received_at", "metadata_digest"].map String.toList).Nodup
      decide +kernel
  | two =>
      show (["previous_digest", "actor", "action", "resource", "reason",
        "received_at", "metadata_digest", "digest_version", "task_id",
        "run_id", "correlation_id"].map String.toList).Nodup
      decide +kernel

/-- Envelopes with one canonical form agree under every name. -/
theorem member_reorder {previous previous' : Digest}
    {entry entry' : AuditEntry}
    (h : canonicalJson (envelope sha256 previous entry)
      = canonicalJson (envelope sha256 previous' entry')) (name : String) :
    (entry.member sha256 previous name).map (Json.reorder id)
      = (entry'.member sha256 previous' name).map (Json.reorder id) := by
  have horder := Json.reorder_inj_of_write (envelope_plain previous entry)
    (envelope_plain previous' entry') h
  obtain ⟨members, hmembers, hnodup⟩ := envelope_names sha256 previous entry
  obtain ⟨members', hmembers', hnodup'⟩ :=
    envelope_names sha256 previous' entry'
  unfold AuditEntry.member
  rw [hmembers, hmembers'] at horder ⊢
  rw [← Json.get?_reorder hnodup, ← Json.get?_reorder hnodup', horder]

/-- A member both versions have. -/
theorem member_text {previous previous' : Digest} {entry entry' : AuditEntry}
    (h : canonicalJson (envelope sha256 previous entry)
      = canonicalJson (envelope sha256 previous' entry')) (name : String)
    {text text' : Text}
    (hmember : entry.member sha256 previous name = some (.str text))
    (hmember' : entry'.member sha256 previous' name = some (.str text')) :
    text = text' := by
  have hboth := member_reorder h name
  rw [hmember, hmember'] at hboth
  simpa [Json.reorder] using hboth

/-- An envelope of version 2 has the canonical form of no other entry with
this metadata digest. -/
theorem envelope_inj {previous previous' : Digest}
    {entry entry' : AuditEntry} (hversion : entry.digestVersion = .two)
    (hmetadata : metadataDigest sha256 entry = metadataDigest sha256 entry' →
      entry.metadata = entry'.metadata)
    (h : canonicalJson (envelope sha256 previous entry)
      = canonicalJson (envelope sha256 previous' entry')) :
    previous = previous' ∧ entry = entry' := by
  have hversion' : entry'.digestVersion = .two := by
    cases hone : entry'.digestVersion with
    | two => rfl
    | one =>
        have hboth := member_reorder h "digest_version"
        simp [AuditEntry.member, envelope, Json.get?, List.lookup_cons,
          versionMembers, hversion, hone] at hboth
  have htask : entry.taskId.text = entry'.taskId.text := by
    refine member_text h "task_id" ?_ ?_ <;>
      simp [AuditEntry.member, envelope, Json.get?, List.lookup_cons,
        versionMembers, hversion, hversion']
  have hcorrelation : entry.correlationId = entry'.correlationId := by
    refine member_text h "correlation_id" ?_ ?_ <;>
      simp [AuditEntry.member, envelope, Json.get?, List.lookup_cons,
        versionMembers, hversion, hversion']
  have hrun : entry.runId = entry'.runId := by
    have hboth := member_reorder h "run_id"
    simp only [AuditEntry.member, envelope, Json.get?, versionMembers,
      hversion, hversion'] at hboth
    cases hid : entry.runId with
    | none =>
        cases hid' : entry'.runId with
        | none => rfl
        | some u =>
            simp [List.lookup_cons, uuidOrNull, Json.reorder, hid, hid']
              at hboth
    | some u =>
        cases hid' : entry'.runId with
        | none =>
            simp [List.lookup_cons, uuidOrNull, Json.reorder, hid, hid']
              at hboth
        | some u' =>
            simp [List.lookup_cons, uuidOrNull, Json.reorder, hid, hid']
              at hboth
            rw [Uuid.ext_text hboth]
  have hprevious : previous.text = previous'.text :=
    member_text h "previous_digest" rfl rfl
  have hactor : entry.actorId = entry'.actorId :=
    member_text h "actor" rfl rfl
  have haction : entry.action = entry'.action :=
    member_text h "action" rfl rfl
  have hresource : entry.resource = entry'.resource :=
    member_text h "resource" rfl rfl
  have hreason : entry.reason = entry'.reason :=
    member_text h "reason" rfl rfl
  have htime : entry.createdAt.isoformat = entry'.createdAt.isoformat :=
    member_text h "received_at" rfl rfl
  have hdigest : (metadataDigest sha256 entry).text
      = (metadataDigest sha256 entry').text :=
    member_text h "metadata_digest" rfl rfl
  have hmeta := hmetadata (Digest.ext_text hdigest)
  refine ⟨Digest.ext_text hprevious, ?_⟩
  cases entry
  cases entry'
  cases Uuid.ext_text htask
  cases hcorrelation
  cases hrun
  cases hactor
  cases haction
  cases hresource
  cases hreason
  cases Timestamp.isoformat_inj htime
  cases hmeta
  cases hversion
  cases hversion'
  rfl

end Envelopes

-- ================================================================ chains

section Chains

variable (sha256 : List UInt8 → Digest)

/-- The rows of a chain of entries, with the digests that belong there. -/
def sealRows : Digest → List AuditEntry → List ChainRow
  | _, [] => []
  | previous, entry :: entries =>
      ⟨previous, link sha256 previous entry, entry⟩
        :: sealRows (link sha256 previous entry) entries

variable {sha256}

theorem sealRows_eq_map (previous : Digest) (entries : List AuditEntry) :
    sealRows sha256 previous entries
      = (Chain.links (link sha256) previous entries).map fun l =>
        ⟨l.1, link sha256 l.1 l.2, l.2⟩ := by
  induction entries generalizing previous with
  | nil => rfl
  | cons entry entries ih =>
      rw [sealRows, Chain.links, List.map_cons, ih]

theorem sealRows_concat (previous : Digest) (entries : List AuditEntry)
    (entry : AuditEntry) :
    sealRows sha256 previous (entries ++ [entry])
      = sealRows sha256 previous entries
        ++ [⟨Chain.tip (link sha256) previous entries,
          link sha256 (Chain.tip (link sha256) previous entries) entry,
          entry⟩] := by
  rw [sealRows_eq_map, Chain.links_concat, List.map_append,
    ← sealRows_eq_map]
  rfl

theorem map_entry_sealRows (sha256 : List UInt8 → Digest)
    (previous : Digest) (entries : List AuditEntry) :
    (sealRows sha256 previous entries).map ChainRow.entry = entries := by
  induction entries generalizing previous with
  | nil => rfl
  | cons entry entries ih => rw [sealRows, List.map_cons, ih]

/-- The loop accepts the rows that carry the digests of their chain, and
ends at its tip. -/
theorem verifyRows_eq_some {previous last : Digest} {rows : List ChainRow} :
    verifyRows sha256 previous rows = some last ↔
      rows = sealRows sha256 previous (rows.map ChainRow.entry)
        ∧ last = Chain.tip (link sha256) previous
          (rows.map ChainRow.entry) := by
  induction rows generalizing previous with
  | nil =>
      constructor
      · intro h
        exact ⟨rfl, (Option.some.inj h).symm⟩
      · intro h
        exact congrArg some h.2.symm
  | cons row rows ih =>
      obtain ⟨recorded, current, entry⟩ := row
      rw [verifyRows, List.map_cons, sealRows, List.cons.injEq]
      by_cases hprevious : recorded = previous
      · subst hprevious
        by_cases hcurrent : current = link sha256 recorded entry
        · subst hcurrent
          simp only [ne_eq, not_true_eq_false, if_false, ih, true_and]
          rfl
        · simp [hcurrent]
      · simp [hprevious]

/-- `verify_audit_chain` over any rows: they carry their chain's digests,
there are some and not too many, and the head is the tip. -/
theorem verifyAuditChain_iff {s : AuditStore} {taskId : Uuid} :
    verifyAuditChain sha256 s taskId = true ↔
      0 < (selectChain s.log taskId).length
        ∧ (selectChain s.log taskId).length ≤ 100000
        ∧ ∃ entries, selectChain s.log taskId
            = sealRows sha256 .genesis entries
          ∧ s.heads taskId
            = some (Chain.tip (link sha256) .genesis entries) := by
  unfold verifyAuditChain
  by_cases hmany : (selectChain s.log taskId).length ≤ 100000
  · have htake : (selectChain s.log taskId).take 100001
        = selectChain s.log taskId :=
      List.take_of_length_le (by omega)
    rw [htake]
    generalize selectChain s.log taskId = rows at *
    have hfew : ¬100000 < rows.length := by omega
    cases rows with
    | nil => simp
    | cons row rows =>
        simp only [List.isEmpty_cons, hfew, decide_false, Bool.or_self,
          Bool.false_eq_true, if_false]
        constructor
        · intro h
          cases hverify : verifyRows sha256 .genesis (row :: rows) with
          | none =>
              rw [hverify] at h
              cases h
          | some last =>
              rw [hverify] at h
              obtain ⟨hrows, hlast⟩ := verifyRows_eq_some.mp hverify
              refine ⟨Nat.succ_pos _, hmany, _, hrows, ?_⟩
              rw [← hlast]
              exact of_decide_eq_true h
        · rintro ⟨_, _, entries, hrows, hhead⟩
          have hentries : (row :: rows).map ChainRow.entry = entries := by
            rw [hrows, map_entry_sealRows]
          have hverify : verifyRows sha256 .genesis (row :: rows)
              = some (Chain.tip (link sha256) .genesis entries) :=
            verifyRows_eq_some.mpr
              ⟨by rw [hentries]; exact hrows, by rw [hentries]⟩
          rw [hverify]
          exact decide_eq_true hhead
  · have hlong : ((selectChain s.log taskId).take 100001).length
        = 100001 := by
      rw [List.length_take]
      omega
    simp [hlong, hmany]

end Chains

-- =========================================================== what is written

section Written

variable {sha256 : List UInt8 → Digest}

/-- The entries a sequence of writes made for a task. -/
def entriesOf (calls : List AuditCall) (taskId : Uuid) : List AuditEntry :=
  (calls.filter fun call => decide (call.taskId = taskId)).map
    AuditCall.entry

theorem entriesOf_concat (calls : List AuditCall) (call : AuditCall) :
    entriesOf (calls ++ [call]) call.taskId
      = entriesOf calls call.taskId ++ [call.entry] := by
  unfold entriesOf
  simp

theorem entriesOf_concat_of_ne {call : AuditCall} {taskId : Uuid}
    (h : call.taskId ≠ taskId) (calls : List AuditCall) :
    entriesOf (calls ++ [call]) taskId = entriesOf calls taskId := by
  unfold entriesOf
  simp [h]

/-- The digest a write comes after. -/
def AuditStore.previous (s : AuditStore) (taskId : Uuid) : Digest :=
  (s.heads taskId).getD .genesis

theorem audit_log (s : AuditStore) (call : AuditCall) :
    (s.audit sha256 call).log = s.log ++ [⟨s.lastId + 1 + call.skipped,
      s.previous call.taskId,
      link sha256 (s.previous call.taskId) call.entry, call.entry⟩] := by
  rw [← canonicalDigest_writtenEnvelope]
  rfl

theorem audit_heads (s : AuditStore) (call : AuditCall) :
    (s.audit sha256 call).heads = Function.update s.heads call.taskId
      (some (link sha256 (s.previous call.taskId) call.entry)) := by
  rw [← canonicalDigest_writtenEnvelope]
  rfl

/-- The rows of a task, in the order they were inserted. -/
def rowsOf (log : List AuditRow) (taskId : Uuid) : List ChainRow :=
  (log.filter fun row => decide (row.columns.entry.taskId = taskId)).map
    AuditRow.columns

/-- What holds after a sequence of writes. -/
structure Kept (sha256 : List UInt8 → Digest) (calls : List AuditCall)
    (s : AuditStore) : Prop where
  ordered : s.log.Pairwise fun a b => a.auditId < b.auditId
  last : ∀ row ∈ s.log, row.auditId ≤ s.lastId
  rows : ∀ taskId, rowsOf s.log taskId
    = sealRows sha256 .genesis (entriesOf calls taskId)
  tip : ∀ taskId, s.previous taskId
    = Chain.tip (link sha256) .genesis (entriesOf calls taskId)
  head : ∀ taskId, entriesOf calls taskId ≠ [] →
    (s.heads taskId).isSome = true

/-- One more write is one more row of its task, at the end. -/
theorem Kept.audit {calls : List AuditCall} {s : AuditStore}
    (h : Kept sha256 calls s) (call : AuditCall) :
    Kept sha256 (calls ++ [call]) (s.audit sha256 call) where
  ordered := by
    rw [audit_log, List.pairwise_append]
    refine ⟨h.ordered, List.pairwise_singleton _ _, ?_⟩
    intro row hrow row' hrow'
    rw [List.mem_singleton.mp hrow']
    have hlast := h.last row hrow
    show row.auditId < s.lastId + 1 + call.skipped
    omega
  last := by
    intro row hrow
    rw [audit_log] at hrow
    show row.auditId ≤ s.lastId + 1 + call.skipped
    rcases List.mem_append.mp hrow with hrow | hrow
    · have hlast := h.last row hrow
      omega
    · rw [List.mem_singleton.mp hrow]
  rows := by
    intro taskId
    unfold rowsOf
    rw [audit_log, List.filter_append, List.map_append]
    show rowsOf s.log taskId ++ _ = _
    by_cases htask : call.taskId = taskId
    · subst htask
      rw [h.rows, entriesOf_concat, sealRows_concat, ← h.tip]
      simp [AuditCall.entry]
    · rw [h.rows, entriesOf_concat_of_ne htask]
      simp [AuditCall.entry, htask]
  tip := by
    intro taskId
    unfold AuditStore.previous
    rw [audit_heads]
    by_cases htask : call.taskId = taskId
    · subst htask
      rw [Function.update_self, entriesOf_concat, Chain.tip_concat, ← h.tip]
      rfl
    · rw [Function.update_of_ne (Ne.symm htask),
        entriesOf_concat_of_ne htask]
      exact h.tip taskId
  head := by
    intro taskId hne
    rw [audit_heads]
    by_cases htask : call.taskId = taskId
    · subst htask
      rw [Function.update_self]
      rfl
    · rw [entriesOf_concat_of_ne htask] at hne
      rw [Function.update_of_ne (Ne.symm htask)]
      exact h.head taskId hne

theorem kept_written (sha256 : List UInt8 → Digest) (calls : List AuditCall) :
    Kept sha256 calls (AuditStore.written sha256 calls) := by
  induction calls using List.reverseRecOn with
  | nil =>
      refine ⟨List.Pairwise.nil, ?_, fun _ => rfl, fun _ => rfl, ?_⟩
      · intro row hrow
        cases hrow
      · intro _ hne
        exact absurd rfl hne
  | append_singleton calls call ih =>
      unfold AuditStore.written
      rw [List.foldl_append]
      exact ih.audit call

/-- The rows of a task are the chain of its entries. -/
theorem select_written (sha256 : List UInt8 → Digest)
    (calls : List AuditCall) (taskId : Uuid) :
    selectChain (AuditStore.written sha256 calls).log taskId
      = sealRows sha256 .genesis (entriesOf calls taskId) := by
  have hkept := kept_written sha256 calls
  unfold selectChain
  rw [List.Pairwise.insertionSort_eq]
  · exact hkept.rows taskId
  · refine (hkept.ordered.filter _).imp ?_
    intro a b hlt
    exact le_of_lt hlt

-- ======================================================= no collisions

/-- What is hashed for a row: its metadata and its envelope. -/
def messages (sha256 : List UInt8 → Digest) (row : ChainRow) :
    List (List UInt8) :=
  [utf8 (canonicalJson row.entry.metadata.value),
    utf8 (canonicalJson (envelope sha256 row.previousDigest row.entry))]

/-- SHA-256 tells the messages of two lists of rows apart, and gives none
of them the digest of sixty-four zeros. -/
structure CollisionFree (sha256 : List UInt8 → Digest)
    (rows rows' : List ChainRow) : Prop where
  inj : ∀ m ∈ rows.flatMap (messages sha256),
    ∀ m' ∈ rows'.flatMap (messages sha256), sha256 m = sha256 m' → m = m'
  genesis : ∀ m ∈ (rows ++ rows').flatMap (messages sha256),
    sha256 m ≠ .genesis

/-- A link of a chain is a row of it. -/
theorem message_of_link {entries : List AuditEntry} {l : Digest × AuditEntry}
    (hl : l ∈ Chain.links (link sha256) .genesis entries) :
    utf8 (canonicalJson l.2.metadata.value)
        ∈ (sealRows sha256 .genesis entries).flatMap (messages sha256)
      ∧ utf8 (canonicalJson (envelope sha256 l.1 l.2))
        ∈ (sealRows sha256 .genesis entries).flatMap (messages sha256) := by
  have hrow : ⟨l.1, link sha256 l.1 l.2, l.2⟩
      ∈ sealRows sha256 .genesis entries := by
    rw [sealRows_eq_map]
    exact List.mem_map_of_mem hl
  refine ⟨List.mem_flatMap.mpr ⟨_, hrow, ?_⟩,
    List.mem_flatMap.mpr ⟨_, hrow, ?_⟩⟩
  · exact List.mem_cons_self
  · exact List.mem_cons_of_mem _ (List.mem_singleton_self _)

theorem version_of_link {calls : List AuditCall} {taskId : Uuid}
    {l : Digest × AuditEntry}
    (hl : l ∈ Chain.links (link sha256) .genesis (entriesOf calls taskId)) :
    l.2.digestVersion = .two := by
  have hentry : l.2 ∈ entriesOf calls taskId := by
    rw [← map_entry_sealRows sha256 .genesis
      (entriesOf calls taskId), sealRows_eq_map, List.map_map]
    exact List.mem_map_of_mem hl
  obtain ⟨call, _, hcall⟩ := List.mem_map.mp hentry
  rw [← hcall]
  rfl

/-- Chains whose messages do not collide are apart. -/
theorem CollisionFree.apart {calls : List AuditCall} {taskId : Uuid}
    {entries : List AuditEntry}
    (h : CollisionFree sha256
      (sealRows sha256 .genesis (entriesOf calls taskId))
      (sealRows sha256 .genesis entries)) :
    Chain.Apart (link sha256) .genesis (entriesOf calls taskId) entries where
  inj := by
    intro l hl l' hl' heq
    obtain ⟨hmeta, henvelope⟩ := message_of_link hl
    obtain ⟨hmeta', henvelope'⟩ := message_of_link hl'
    have htext := utf8_inj (h.inj _ henvelope _ henvelope' heq)
    obtain ⟨hprevious, hentry⟩ := envelope_inj (version_of_link hl)
      (fun hdigest => canonicalJson_inj
        (utf8_inj (h.inj _ hmeta _ hmeta' hdigest))) htext
    exact Prod.ext hprevious hentry
  fresh := by
    intro l hl
    refine h.genesis _ ?_
    rw [List.flatMap_append]
    exact List.mem_append_left _ (message_of_link hl).2
  fresh' := by
    intro l hl
    refine h.genesis _ ?_
    rw [List.flatMap_append]
    exact List.mem_append_right _ (message_of_link hl).2

/-- A task's chain is accepted as it was written; with its head intact, any
other rows are refused. -/
theorem chain_exact (sha256 : List UInt8 → Digest) (calls : List AuditCall)
    (taskId : Uuid)
    (hsome : 1 ≤ (calls.filter fun call =>
      decide (call.taskId = taskId)).length)
    (hfew : (calls.filter fun call =>
      decide (call.taskId = taskId)).length ≤ 100000) :
    verifyAuditChain sha256 (AuditStore.written sha256 calls) taskId = true
      ∧ ∀ log', CollisionFree sha256
          (selectChain (AuditStore.written sha256 calls).log taskId)
          (selectChain log' taskId) →
        (verifyAuditChain sha256
            { AuditStore.written sha256 calls with log := log' } taskId
          = true ↔ selectChain log' taskId
            = selectChain (AuditStore.written sha256 calls).log taskId) := by
  have hrows := select_written sha256 calls taskId
  have hkept := kept_written sha256 calls
  have hlength : (selectChain (AuditStore.written sha256 calls).log
      taskId).length = (calls.filter fun call =>
        decide (call.taskId = taskId)).length := by
    rw [hrows, ← List.length_map (f := ChainRow.entry), map_entry_sealRows]
    exact List.length_map _
  have hne : entriesOf calls taskId ≠ [] := by
    intro hnil
    have hzero := congrArg List.length hnil
    rw [entriesOf, List.length_map] at hzero
    rw [hzero] at hsome
    cases hsome
  have hhead : (AuditStore.written sha256 calls).heads taskId
      = some (Chain.tip (link sha256) .genesis
        (entriesOf calls taskId)) := by
    obtain ⟨head, hhead⟩ := Option.isSome_iff_exists.mp
      (hkept.head taskId hne)
    have htip := hkept.tip taskId
    unfold AuditStore.previous at htip
    rw [hhead] at htip ⊢
    exact congrArg some htip
  have hwritten : verifyAuditChain sha256
      (AuditStore.written sha256 calls) taskId = true :=
    verifyAuditChain_iff.mpr
      ⟨by omega, by omega, entriesOf calls taskId, hrows, hhead⟩
  refine ⟨hwritten, fun log' hfree => ⟨fun haccepted => ?_, fun hsame => ?_⟩⟩
  · obtain ⟨_, _, entries, hentries, htip⟩ :=
      verifyAuditChain_iff.mp haccepted
    rw [hrows, hentries] at hfree ⊢
    rw [Chain.tip_inj hfree.apart
      (Option.some.inj (hhead.symm.trans htip))]
  · refine verifyAuditChain_iff.mpr ⟨?_, ?_, entriesOf calls taskId, ?_,
      hhead⟩
    · show 0 < (selectChain log' taskId).length
      rw [hsame]
      omega
    · show (selectChain log' taskId).length ≤ 100000
      rw [hsame]
      omega
    · show selectChain log' taskId = _
      rw [hsame, hrows]

end Written

-- ============================================================ one write

def intakeTask : Uuid where
  text := "5f0c6c7e-2f0e-4c55-9a57-0d2f5c1b7a10".toList
  canonical := by decide +kernel

/-- An intake by an operator. -/
def intakeCall : AuditCall where
  taskId := intakeTask
  actor := "operator".toList
  action := "intake".toList
  resource := "task:5f0c6c7e-2f0e-4c55-9a57-0d2f5c1b7a10".toList
  reason := "accepted".toList
  correlationId := "req-1".toList
  metadata := none
  runId := none
  receivedAt := ⟨2026, 1, 2, 3, 4, 5, 0, by decide, by decide⟩
  skipped := 0

/-- The digest of `{}`. -/
def emptyDigest : Digest where
  text :=
    "44136fa355b3678a1146ad16f7e8649e94fb4fc21fe77e8310c060f61caaff8a".toList
  length_eq := by decide +kernel
  hex := by decide +kernel

/-- The digest of the operator's envelope. -/
def operatorDigest : Digest where
  text :=
    "b78482f93041ffecb8ff428868b96af03c4f35f3ce50298711480dac4721ae9c".toList
  length_eq := by decide +kernel
  hex := by decide +kernel

/-- The digest of the same envelope with another actor. -/
def intruderDigest : Digest where
  text :=
    "b129f4b6fe2fbbd911d6936beadc84dbd75bf4fe42f6b2b3ef0560d70727a21e".toList
  length_eq := by decide +kernel
  hex := by decide +kernel

/-- SHA-256 of the three messages there are: their actors' first letters
are the bytes 111 and 105. -/
def threeDigests (message : List UInt8) : Digest :=
  if message.length = 2 then emptyDigest
  else if message[28]? = some 111 then operatorDigest
  else intruderDigest

example : canonicalJson (writtenEnvelope threeDigests .genesis intakeCall) =
    "\x7b\"action\":\"intake\",\"actor\":\"operator\",".toList ++
    "\"correlation_id\":\"req-1\",\"digest_version\":2,".toList ++
    "\"metadata_digest\":\"44136fa355b3678a1146ad16f7e8649e".toList ++
    "94fb4fc21fe77e8310c060f61caaff8a\",".toList ++
    "\"previous_digest\":\"00000000000000000000000000000000".toList ++
    "00000000000000000000000000000000\",".toList ++
    "\"reason\":\"accepted\",".toList ++
    "\"received_at\":\"2026-01-02T03:04:05Z\",".toList ++
    "\"resource\":\"task:5f0c6c7e-2f0e-4c55-9a57-0d2f5c1b7a10\",".toList ++
    "\"run_id\":null,".toList ++
    "\"task_id\":\"5f0c6c7e-2f0e-4c55-9a57-0d2f5c1b7a10\"\x7d".toList := by
  decide +kernel

/-- The row of the intake, with another actor. -/
def intruderLog : List AuditRow :=
  [⟨1, .genesis, operatorDigest,
    { intakeCall.entry with actorId := "intruder".toList }⟩]

/-- The written row is accepted, and not with another actor. -/
theorem chain_exact_intruder :
    verifyAuditChain threeDigests
        (AuditStore.written threeDigests [intakeCall]) intakeTask = true
      ∧ verifyAuditChain threeDigests
        { AuditStore.written threeDigests [intakeCall] with
          log := intruderLog } intakeTask = false := by
  obtain ⟨haccepted, hexact⟩ := chain_exact threeDigests [intakeCall]
    intakeTask (by decide +kernel) (by decide +kernel)
  have hfree : CollisionFree threeDigests
      (selectChain (AuditStore.written threeDigests [intakeCall]).log
        intakeTask) (selectChain intruderLog intakeTask) :=
    ⟨by decide +kernel, by decide +kernel⟩
  refine ⟨haccepted, ?_⟩
  rw [← Bool.not_eq_true, hexact intruderLog hfree]
  intro hsame
  have hactors := congrArg
    (fun rows => rows.map fun row : ChainRow => row.entry.actorId) hsame
  revert hactors
  decide +kernel

end Exolon.Factory
