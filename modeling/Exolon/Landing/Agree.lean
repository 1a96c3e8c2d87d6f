/-
Where the two stores agree.

`inMemory` checks no record and takes fewer command keys than `sqlite`, so
the same call may end differently. `StoreCall.Agrees` is the condition on a
call of a store, and `Visit.Agrees` the one on a call of the service, under
which both stores answer it alike and keep the same tables;
`stores_agree` carries both over every history.

What is kept on the way is `Sound`: every record passes the check of the
database, and every command is of the input of its job.
-/
import Exolon.Landing.Finish

namespace Exolon.Landing

open Failover (LandingInput Category)
open Factory (bind_ok)

-- ============================================================= the check

namespace LandingJobRecord

/-- What the check of a record asks of its artifact, apart from files. -/
theorem checkArtifact_files {files : Files} {record : LandingJobRecord}
    (h : record.checkArtifact none = .ok ())
    (hmatch : record.filesMatch files = true) :
    record.checkArtifact (some files) = .ok () := by
  unfold checkArtifact at h ⊢
  cases hartifact : record.artifact with
  | none => rfl
  | some artifact =>
      rw [hartifact] at h
      dsimp only at h ⊢
      obtain ⟨_, hstate, h⟩ := bind_ok.mp h
      obtain ⟨_, hseal, _⟩ := bind_ok.mp h
      refine bind_ok.mpr ⟨(), hstate, bind_ok.mpr ⟨(), hseal, ?_⟩⟩
      exact failIf_ok.mpr (by simp [hmatch])

theorem checkArtifact_none {files : Option Files}
    {record : LandingJobRecord}
    (h : record.checkArtifact files = .ok ()) :
    record.checkArtifact none = .ok () := by
  unfold checkArtifact at h ⊢
  cases hartifact : record.artifact with
  | none => rfl
  | some artifact =>
      rw [hartifact] at h
      dsimp only at h ⊢
      obtain ⟨_, hstate, h⟩ := bind_ok.mp h
      obtain ⟨_, hseal, _⟩ := bind_ok.mp h
      exact bind_ok.mpr ⟨(), hstate, bind_ok.mpr ⟨(), hseal, rfl⟩⟩

/-- The check of a record only reads the files for its artifact. -/
theorem validate_mono {files other : Option Files}
    {record : LandingJobRecord}
    (hmono : record.checkArtifact files = .ok () →
      record.checkArtifact other = .ok ())
    (h : record.validate files = .ok ()) :
    record.validate other = .ok () := by
  unfold validate at h ⊢
  obtain ⟨_, hdigest, h⟩ := bind_ok.mp h
  obtain ⟨_, hbound, h⟩ := bind_ok.mp h
  obtain ⟨_, hready, h⟩ := bind_ok.mp h
  obtain ⟨_, hpair, h⟩ := bind_ok.mp h
  refine bind_ok.mpr ⟨(), hdigest, bind_ok.mpr ⟨(), hbound,
    bind_ok.mpr ⟨(), hready, bind_ok.mpr ⟨(), hpair, ?_⟩⟩⟩⟩
  by_cases hdemoted : record.state = .needsHuman
      ∧ record.reasonCode = some "artifact_integrity".toList
  · rw [if_pos hdemoted]
  · rw [if_neg hdemoted] at h ⊢
    exact hmono h

/-- The check does not read the revision. -/
theorem validate_revision (files : Option Files) (record : LandingJobRecord)
    (revision : Nat) :
    validate files { record with revision := revision }
      = validate files record := rfl

theorem checkArtifact_revision (files : Option Files)
    (record : LandingJobRecord) (revision : Nat) :
    checkArtifact files { record with revision := revision }
      = checkArtifact files record := rfl

/-- A record as both stores may keep it. -/
structure Kept (record : LandingJobRecord) : Prop where
  checked : record.validate none = .ok ()
  sealed_ : record.checkArtifact none = .ok ()

/-- A kept record whose files match reads well. -/
theorem Kept.validate {files : Files} {record : LandingJobRecord}
    (h : record.Kept) (hmatch : record.filesMatch files = true) :
    record.validate (some files) = .ok () :=
  validate_mono (fun hnone => checkArtifact_files hnone hmatch) h.checked

/-- A kept record may be cancelled. -/
theorem Kept.cancelled {record : LandingJobRecord} (h : record.Kept)
    (reason : Option Text) (revision : Nat) :
    Kept { record with
      state := .cancelled
      reasonCode := reason
      revision := revision } := by
  have hartifact : checkArtifact none { record with
      state := .cancelled
      reasonCode := reason
      revision := revision } = .ok () := by
    have hsealed := h.sealed_
    unfold checkArtifact at hsealed ⊢
    cases hartifact : record.artifact with
    | none => rfl
    | some artifact =>
        rw [hartifact] at hsealed
        obtain ⟨_, _, hsealed⟩ := bind_ok.mp hsealed
        obtain ⟨_, hseal, _⟩ := bind_ok.mp hsealed
        exact bind_ok.mpr ⟨(), rfl, bind_ok.mpr ⟨(), hseal, rfl⟩⟩
  refine ⟨?_, hartifact⟩
  have hchecked := h.checked
  unfold LandingJobRecord.validate at hchecked ⊢
  obtain ⟨_, hdigest, hchecked⟩ := bind_ok.mp hchecked
  obtain ⟨_, hbound, hchecked⟩ := bind_ok.mp hchecked
  obtain ⟨_, _, hchecked⟩ := bind_ok.mp hchecked
  obtain ⟨_, hpair, _⟩ := bind_ok.mp hchecked
  refine bind_ok.mpr ⟨(), hdigest, bind_ok.mpr ⟨(), hbound,
    bind_ok.mpr ⟨(), rfl, bind_ok.mpr ⟨(), hpair, ?_⟩⟩⟩⟩
  rw [if_neg (by simp)]
  exact hartifact

/-- A record that is written, unless it is one of a demotion. -/
theorem kept_of_validate {files : Option Files} {record : LandingJobRecord}
    (h : record.validate files = .ok ())
    (hplain : record.artifact = none ∨ record.state ≠ .needsHuman) :
    record.Kept := by
  have hnone : record.validate none = .ok () :=
    validate_mono checkArtifact_none h
  refine ⟨hnone, ?_⟩
  rcases hplain with hartifact | hstate
  · unfold checkArtifact
    rw [hartifact]
  · unfold LandingJobRecord.validate at hnone
    obtain ⟨_, _, hnone⟩ := bind_ok.mp hnone
    obtain ⟨_, _, hnone⟩ := bind_ok.mp hnone
    obtain ⟨_, _, hnone⟩ := bind_ok.mp hnone
    obtain ⟨_, _, hnone⟩ := bind_ok.mp hnone
    rw [if_neg (fun hdemoted => hstate hdemoted.1)] at hnone
    exact hnone

end LandingJobRecord

-- ============================================================= the tables

/-- Every record is kept under its identity, and every command is of the
input of its job. -/
structure Sound (t : Tables) : Prop where
  identity : ∀ {id record}, t.records id = some record →
    record.identity = id
  kept : ∀ {id record}, t.records id = some record → record.Kept
  command : ∀ {id action key command},
    t.commands (id, action, key) = some command →
    ∃ record, t.records id = some record
      ∧ command.2 = record.source.inputDigest

theorem sound_empty : Sound {} where
  identity := fun h => by cases h
  kept := fun h => by cases h
  command := fun h => by cases h

/-- A record over one of the same source. -/
theorem Sound.setRecord {t : Tables} (h : Sound t)
    {record : LandingJobRecord} (hkept : record.Kept)
    (hsource : ∀ {current}, t.records record.identity = some current →
      current.source = record.source) : Sound (t.setRecord record) := by
  have hcases : ∀ {id r}, (t.setRecord record).records id = some r →
      (id = record.identity ∧ r = record) ∨ t.records id = some r := by
    intro id r hr
    by_cases hid : id = record.identity
    · left
      refine ⟨hid, ?_⟩
      rw [hid, Tables.setRecord_records t record rfl] at hr
      exact (Option.some.inj hr).symm
    · right
      rw [← hr]
      exact (Function.update_of_ne hid ..).symm
  constructor
  · intro id r hr
    rcases hcases hr with ⟨hid, hrecord⟩ | hold
    · rw [hid, hrecord]
    · exact h.identity hold
  · intro id r hr
    rcases hcases hr with ⟨_, hrecord⟩ | hold
    · rw [hrecord]
      exact hkept
    · exact h.kept hold
  · intro id action key command hcommand
    obtain ⟨r, hr, hdigest⟩ := h.command hcommand
    by_cases hid : id = record.identity
    · refine ⟨record, ?_, ?_⟩
      · rw [hid]
        exact Tables.setRecord_records t record rfl
      · rw [hid] at hr
        rw [hdigest, hsource hr]
    · refine ⟨r, ?_, hdigest⟩
      rw [← hr]
      exact Function.update_of_ne hid ..

/-- A command of a job that is there. -/
theorem Sound.setCommand {t : Tables} (h : Sound t) {id : Identity}
    {record : LandingJobRecord} (hrecord : t.records id = some record)
    (action : Action) (key : PyStr) {command : Text × Text}
    (hdigest : command.2 = record.source.inputDigest) :
    Sound (t.setCommand id action key command) where
  identity := fun hr => h.identity hr
  kept := fun hr => h.kept hr
  command := by
    intro id' action' key' command' hcommand
    by_cases hkey : (id', action', key') = (id, action, key)
    · change Function.update t.commands (id, action, key) (some command)
        (id', action', key') = some command' at hcommand
      rw [hkey, Function.update_self] at hcommand
      cases hkey
      cases hcommand
      exact ⟨record, hrecord, hdigest⟩
    · change Function.update t.commands (id, action, key) (some command)
        (id', action', key') = some command' at hcommand
      rw [Function.update_of_ne hkey] at hcommand
      exact h.command hcommand

-- ========================================================== command keys

/-- A code point of ASCII is one byte. -/
theorem scalar_ascii {p : CodePoint} (h : p.val < 128) :
    ∃ c, PyStr.scalar? p = some c
      ∧ (String.utf8EncodeChar c).length = 1 := by
  refine ⟨Char.ofNat p.val, ?_, ?_⟩
  · unfold PyStr.scalar?
    rw [if_neg (by omega)]
  · have hvalid : Nat.isValidChar p.val := by
      unfold Nat.isValidChar
      omega
    have hval : (Char.ofNat p.val).val.toNat = p.val := by
      rw [Char.ofNat, dif_pos hvalid]
      rfl
    rw [String.length_utf8EncodeChar, Char.utf8Size_eq_one_iff,
      UInt32.le_iff_toNat_le, hval]
    show p.val ≤ 127
    omega

theorem encode_ascii {s : PyStr} (h : ∀ p ∈ s, p.val < 128) :
    ∃ bytes, PyStr.encode? s = some bytes ∧ bytes.length = s.length := by
  induction s with
  | nil => exact ⟨[], rfl, rfl⟩
  | cons p s ih =>
      rw [List.forall_mem_cons] at h
      obtain ⟨c, hc, hone⟩ := scalar_ascii h.1
      obtain ⟨bytes, hbytes, hlength⟩ := ih h.2
      obtain ⟨text, htext, heq⟩ := Option.map_eq_some_iff.mp hbytes
      refine ⟨String.utf8EncodeChar c ++ bytes, ?_, ?_⟩
      · unfold PyStr.encode? PyStr.text?
        rw [List.mapM_cons, hc]
        change s.mapM PyStr.scalar? = some text at htext
        rw [htext, ← heq]
        rfl
      · rw [List.length_append, hone, hlength, List.length_cons,
          Nat.add_comm]

theorem isAlphanumeric_lt {p : CodePoint} (h : isAlphanumeric p = true) :
    p.val < 128 := by
  unfold isAlphanumeric at h
  simp only [Bool.or_eq_true, Bool.and_eq_true, decide_eq_true_eq] at h
  omega

theorem isIdentifier_ascii {key : PyStr} (h : isIdentifier key = true) :
    key ≠ [] ∧ key.length ≤ 128 ∧ ∀ p ∈ key, p.val < 128 := by
  cases key with
  | nil => cases h
  | cons first rest =>
      unfold isIdentifier at h
      simp only [Bool.and_eq_true, decide_eq_true_eq, List.all_eq_true,
        Bool.or_eq_true] at h
      obtain ⟨⟨hfirst, hlength⟩, hrest⟩ := h
      refine ⟨List.cons_ne_nil _ _, ?_, ?_⟩
      · rw [List.length_cons]
        omega
      · intro p hp
        rcases List.mem_cons.mp hp with heq | hmem
        · rw [heq]
          exact isAlphanumeric_lt hfirst
        · rcases hrest p hmem with halnum | hpunct
          · exact isAlphanumeric_lt halnum
          · have hall : (py "._:/@+-").all (fun q => q.val < 128) = true := by
              decide +kernel
            simpa using List.all_eq_true.mp hall p hpunct

/-- A key that both stores take, or that both refuse. -/
def KeyAgrees (key : PyStr) : Prop :=
  isIdentifier key = true
    ∨ isIdentifier key = false
      ∧ ∃ bytes, key.encode? = some bytes
        ∧ (bytes = [] ∨ 128 < bytes.length)

theorem validateCommand_agrees {key : PyStr} (h : KeyAgrees key)
    {digest : Text} (hdigest : isHex64 digest = true) :
    SQLiteLandingJobStore.validateCommand key digest
      = InMemoryLandingJobStore.validateCommand key digest := by
  unfold SQLiteLandingJobStore.validateCommand
    InMemoryLandingJobStore.validateCommand
  rw [hdigest]
  rcases h with hkey | ⟨hkey, bytes, hbytes, hbad⟩
  · obtain ⟨hne, hlength, hascii⟩ := isIdentifier_ascii hkey
    obtain ⟨bytes, hbytes, hsame⟩ := encode_ascii hascii
    have hnonempty : bytes ≠ [] := by
      intro heq
      rw [heq] at hsame
      exact hne (List.length_eq_zero_iff.mp hsame.symm)
    rw [hkey, hbytes]
    simp [hnonempty, hsame, hlength]
  · rw [hkey, hbytes]
    rcases hbad with hempty | hlong
    · simp [hempty]
    · simp [Nat.not_le_of_lt hlong]

-- ============================================================= the calls

section Calls

variable {files : Files} {t : Tables}

/-- The files of what is stored under an identity match. -/
def FilesMatch (files : Files) (t : Tables) (id : Identity) : Prop :=
  ∀ record, t.records id = some record → record.filesMatch files = true

theorem find_agrees (hsound : Sound t) {id : Identity}
    (hfiles : FilesMatch files t id) :
    (sqlite files).find id t = inMemory.find id t := by
  show SQLiteLandingJobStore.selectRecord files id t = .ok (t.records id, t)
  cases hrecord : t.records id with
  | none =>
      unfold SQLiteLandingJobStore.selectRecord
      rw [hrecord]
  | some record =>
      exact StoreKind.selectRecord_eq hrecord
        ((hsound.kept hrecord).validate (hfiles record hrecord))

theorem get_agrees (hsound : Sound t) {id : Identity}
    (hfiles : FilesMatch files t id) :
    (sqlite files).get id t = inMemory.get id t := by
  have hfind := find_agrees hsound hfiles
  change SQLiteLandingJobStore.find files id t = .ok (t.records id, t)
    at hfind
  show SQLiteLandingJobStore.get files id t
    = InMemoryLandingJobStore.get id t
  unfold SQLiteLandingJobStore.get InMemoryLandingJobStore.get
  rw [hfind]
  cases t.records id with
  | none => rfl
  | some record => rfl

/-- The record a job starts with. -/
def acceptedRecord (source : LandingInput) : LandingJobRecord where
  source := source
  state := .accepted

theorem create_agrees (hsound : Sound t) {source : LandingInput}
    (hfiles : FilesMatch files t (identityOf source))
    (hcollision : ∀ current, t.records (identityOf source) = some current →
      current.source.inputDigest = source.inputDigest →
      current.source = source)
    {key : PyStr} (hkey : isIdentifier key = true)
    (hdigest : isHex64 source.inputDigest = true) :
    (sqlite files).createOrReplay (acceptedRecord source) key
        source.inputDigest t
      = inMemory.createOrReplay (acceptedRecord source) key
        source.inputDigest t := by
  have hselect := find_agrees hsound hfiles
  change SQLiteLandingJobStore.selectRecord files (identityOf source) t
    = .ok (t.records (identityOf source), t) at hselect
  have hvalid : (acceptedRecord source).validate none = .ok () :=
    (LandingJobRecord.validate_plain rfl rfl
      (by simp [acceptedRecord])).mpr
        ⟨fun digest h => (Option.some_ne_none digest h.symm).elim, rfl⟩
  show SQLiteLandingJobStore.createOrReplay files (acceptedRecord source)
      key source.inputDigest t
    = InMemoryLandingJobStore.createOrReplay (acceptedRecord source) key
      source.inputDigest t
  unfold SQLiteLandingJobStore.createOrReplay
    InMemoryLandingJobStore.createOrReplay
  have hid : (acceptedRecord source).identity = identityOf source := rfl
  have hsource : (acceptedRecord source).source = source := rfl
  rw [hid, hsource, hvalid, validateCommand_agrees (.inl hkey) hdigest,
    hselect]
  cases InMemoryLandingJobStore.validateCommand key source.inputDigest with
  | error e => rfl
  | ok u =>
  dsimp only [bind, Except.bind]
  cases hcommand : t.commands (identityOf source, .submit, key) with
  | none =>
      cases t.records (identityOf source) with
      | none => rfl
      | some current => rfl
  | some prior =>
      obtain ⟨current, hcurrent, hprior⟩ := hsound.command hcommand
      rw [hcurrent]
      dsimp only
      by_cases hsame : current.source = source
      · rw [hsame]
        simp
      · have hother : prior ≠ (source.inputDigest, source.inputDigest) := by
          intro heq
          apply hsame
          apply hcollision current hcurrent
          rw [← hprior, heq]
        rw [if_pos hother, if_pos (.inl hsame)]

/-- A record that is cancelled. -/
def cancelledRecord (current : LandingJobRecord) : LandingJobRecord :=
  { current with
    state := .cancelled
    reasonCode := some "cancelled".toList
    revision := current.revision + 1 }

theorem cancel_agrees (hsound : Sound t) {current : LandingJobRecord}
    (hcurrent : t.records current.identity = some current)
    (hfiles : FilesMatch files t current.identity) {key : PyStr}
    (hkey : KeyAgrees key) {digest : Text}
    (hdigest : isHex64 digest = true) :
    (sqlite files).cancelOrReplay current key digest t
      = inMemory.cancelOrReplay current key digest t := by
  have hselect : SQLiteLandingJobStore.selectRecord files current.identity t
      = .ok (some current, t) := StoreKind.selectRecord_eq hcurrent
    ((hsound.kept hcurrent).validate (hfiles current hcurrent))
  show SQLiteLandingJobStore.cancelOrReplay files current key digest t
    = InMemoryLandingJobStore.cancelOrReplay current key digest t
  unfold SQLiteLandingJobStore.cancelOrReplay
    InMemoryLandingJobStore.cancelOrReplay
  rw [(hsound.kept hcurrent).checked, validateCommand_agrees hkey hdigest,
    hselect, hcurrent]
  cases InMemoryLandingJobStore.validateCommand key digest with
  | error e => rfl
  | ok u =>
  dsimp only [bind, Except.bind]
  rw [if_neg (not_not_intro rfl)]
  cases t.commands (current.identity, .cancel, key) with
  | some prior => rfl
  | none =>
      have hput : InMemoryLandingJobStore.put { current with
          state := .cancelled
          reasonCode := some "cancelled".toList } t
          = (do
            validateTransition current.state .cancelled
            .ok (cancelledRecord current,
              t.setRecord (cancelledRecord current))) := by
        have hidentity : t.records { current with
            state := .cancelled
            reasonCode := some "cancelled".toList }.identity
            = some current := hcurrent
        unfold InMemoryLandingJobStore.put
        rw [hidentity]
        unfold succeed
        simp only [failIf, ne_eq, not_true_eq_false, decide_false,
          Bool.or_self, Bool.false_eq_true, if_false]
        dsimp only [bind, Except.bind]
        cases validateTransition current.state .cancelled with
        | error e => rfl
        | ok u => rfl
      rw [hput]
      dsimp only [bind, Except.bind]
      cases validateTransition current.state .cancelled with
      | error e => rfl
      | ok u => rfl

/-- What a creation leaves. -/
theorem create_sound (hsound : Sound t) {source : LandingInput}
    {key : PyStr} {answer : LandingJobRecord × Bool} {t' : Tables}
    (h : inMemory.createOrReplay (acceptedRecord source) key
      source.inputDigest t = .ok (answer, t')) : Sound t' := by
  change InMemoryLandingJobStore.createOrReplay (acceptedRecord source) key
    source.inputDigest t = _ at h
  have hid : (acceptedRecord source).identity = identityOf source := rfl
  have hsource : (acceptedRecord source).source = source := rfl
  unfold InMemoryLandingJobStore.createOrReplay at h
  rw [hid, hsource] at h
  obtain ⟨_, _, h⟩ := bind_ok.mp h
  dsimp only at h
  split at h
  · split at h
    · cases h
    · split at h
      · cases h
      · cases h
        exact hsound
  · split at h
    next current hcurrent =>
      by_cases hother : current.source ≠ source
      · rw [if_pos hother] at h
        cases h
      · rw [if_neg hother] at h
        cases h
        refine hsound.setCommand hcurrent .submit key ?_
        rw [not_not.mp hother]
    next hnone =>
      cases h
      have hvalid : (acceptedRecord source).validate none = .ok () := by
        refine (LandingJobRecord.validate_plain rfl rfl
          (by simp [acceptedRecord])).mpr ⟨?_, rfl⟩
        intro digest hdigest
        cases hdigest
      have hkept := LandingJobRecord.kept_of_validate hvalid (.inl rfl)
      refine (hsound.setRecord hkept ?_).setCommand
        (Tables.setRecord_records t _ rfl) .submit key rfl
      intro current hcurrent
      rw [hid, hnone] at hcurrent
      cases hcurrent

/-- A job is only created where there was none. -/
theorem create_fresh {source : LandingInput} {key : PyStr} {digest : Text}
    {record : LandingJobRecord} {t' : Tables}
    (h : inMemory.createOrReplay (acceptedRecord source) key digest t
      = .ok ((record, true), t')) : t.records (identityOf source) = none := by
  change InMemoryLandingJobStore.createOrReplay (acceptedRecord source) key
    digest t = _ at h
  unfold InMemoryLandingJobStore.createOrReplay at h
  obtain ⟨_, _, h⟩ := bind_ok.mp h
  dsimp only at h
  split at h
  · split at h
    · cases h
    · split at h
      · cases h
      · cases h
  · split at h
    · split at h
      · cases h
      · cases h
    next hnone => exact hnone

/-- What a cancellation leaves. -/
theorem cancel_sound (hsound : Sound t) {current : LandingJobRecord}
    (hcurrent : t.records current.identity = some current) {key : PyStr}
    {digest : Text} {answer : LandingJobRecord} {t' : Tables}
    (h : (sqlite files).cancelOrReplay current key digest t
      = .ok (answer, t')) (hfiles : FilesMatch files t current.identity) :
    Sound t' ∧ answer.source = current.source := by
  change SQLiteLandingJobStore.cancelOrReplay files current key digest t
    = _ at h
  have hselect : SQLiteLandingJobStore.selectRecord files current.identity t
      = .ok (some current, t) := StoreKind.selectRecord_eq hcurrent
    ((hsound.kept hcurrent).validate (hfiles current hcurrent))
  unfold SQLiteLandingJobStore.cancelOrReplay at h
  obtain ⟨_, _, h⟩ := bind_ok.mp h
  obtain ⟨_, _, h⟩ := bind_ok.mp h
  rw [hselect] at h
  obtain ⟨_, hfound, h⟩ := bind_ok.mp h
  cases hfound
  dsimp only at h
  rw [if_neg (not_not_intro rfl)] at h
  split at h
  · split at h
    · cases h
    · cases h
      exact ⟨hsound, rfl⟩
  · obtain ⟨_, _, h⟩ := bind_ok.mp h
    cases h
    refine ⟨?_, rfl⟩
    have hkept : (cancelledRecord current).Kept :=
      (hsound.kept hcurrent).cancelled _ _
    refine (hsound.setRecord hkept ?_).setCommand
        (Tables.setRecord_records t _ rfl) .cancel key rfl
    intro other hother
    change t.records current.identity = some other at hother
    rw [hcurrent] at hother
    cases hother
    rfl

end Calls

-- ============================================================ the service

namespace LandingApplicationService

/-- The service over another store. -/
def withStore (service : LandingApplicationService) (store : LandingJobStore) :
    LandingApplicationService :=
  { service with store := store }

/-- Every record that a build puts passes the check of the database. -/
def BuildAgrees (files : Files) (source : LandingInput)
    (outcome : LandingNormalizationOutcome) (spec : StaticLandingSpec) :
    Answer Built → Prop
  | .interrupted => True
  | .raised => True
  | .raisedProvider => (StoreKind.sqlite files).check
      (providerFailed (generatingRecord source outcome)) = .ok ()
  | .returned built =>
      artifactBound source spec outcome.evidence built.artifact = false
        ∨ (StoreKind.sqlite files).check
          (ready (generatingRecord source outcome) outcome built) = .ok ()

/-- Every record that a job of this course puts does. -/
def CourseAgrees (files : Files) (source : LandingInput) : Course → Prop
  | .interrupted => True
  | .failed => True
  | .providerFailed => True
  | .closes outcome state reason => (StoreKind.sqlite files).check
      (closed (normalizingRecord source) outcome state reason) = .ok ()
  | .builds outcome spec answer =>
      (StoreKind.sqlite files).check
          (generating (normalizingRecord source) outcome) = .ok ()
        ∧ BuildAgrees files source outcome spec answer

variable {service : LandingApplicationService} {files : Files}

theorem withStore_sqlite : (service.withStore (sqlite files)).store
    = (StoreKind.sqlite files).store := rfl

theorem withStore_memory : (service.withStore inMemory).store
    = StoreKind.memory.store := rfl

theorem process_agrees {source : LandingInput} {t : Tables}
    (hcreated : t.records (identityOf source)
      = some (acceptedRecord source))
    (hcourse : CourseAgrees files source (course service source)) :
    process (service.withStore (sqlite files)) (acceptedRecord source) t
      = process (service.withStore inMemory) (acceptedRecord source) t := by
  have hrecord : (t.setRecord (normalizingRecord source)).records
      (identityOf source) = some (normalizingRecord source) :=
    Tables.setRecord_records t _ rfl
  have hdatabase : (service.withStore (sqlite files)).store.put
      { acceptedRecord source with state := .normalizing } t
      = .ok (normalizingRecord source,
        t.setRecord (normalizingRecord source)) :=
    put_normalizing withStore_sqlite hcreated
  have hmemory : (service.withStore inMemory).store.put
      { acceptedRecord source with state := .normalizing } t
      = .ok (normalizingRecord source,
        t.setRecord (normalizingRecord source)) :=
    put_normalizing withStore_memory hcreated
  unfold process
  unfold course at hcourse
  dsimp only
  rw [hdatabase, hmemory]
  have hsource : (acceptedRecord source).source = source := rfl
  have hprovider : ∀ store, (service.withStore store).provider
      = service.provider := fun _ => rfl
  have hprofile : ∀ store, (service.withStore store).profileDigest
      = service.profileDigest := fun _ => rfl
  have hbuilders : ∀ store, (service.withStore store).artifactBuilder
      = service.artifactBuilder := fun _ => rfl
  simp only [hsource, hprovider, hprofile, hbuilders]
  cases hanswer : service.provider source service.profileDigest with
  | interrupted => rfl
  | raised => rfl
  | raisedProvider => rfl
  | returned outcome =>
      rw [hanswer] at hcourse
      dsimp only at hcourse ⊢
      by_cases hvalid : (!outcome.valid) = true
      · rw [if_pos hvalid, if_pos hvalid]
      rw [if_neg hvalid] at hcourse
      rw [if_neg hvalid, if_neg hvalid]
      by_cases hforeign : outcome.evidence.inputDigest ≠ source.inputDigest
          ∨ outcome.evidence.profileDigest ≠ service.profileDigest
      · rw [if_pos hforeign, if_pos hforeign]
      rw [if_neg hforeign] at hcourse
      rw [if_neg hforeign, if_neg hforeign]
      cases hstate : outcome.state with
      | providerUnavailable => rfl
      | needsHuman => rfl
      | rejected => rfl
      | normalized =>
          cases hspec : outcome.spec with
          | none => rfl
          | some spec =>
              cases hbuilder : service.artifactBuilder with
              | none => rfl
              | some builder =>
                  rw [hstate, hspec, hbuilder] at hcourse
                  dsimp only at hcourse ⊢
                  by_cases hother : spec.inputDigest ≠ source.inputDigest
                  · rw [if_pos hother, if_pos hother]
                  rw [if_neg hother] at hcourse
                  rw [if_neg hother, if_neg hother]
                  unfold build
                  rw [put_generating withStore_sqlite hrecord,
                    put_generating withStore_memory hrecord, hcourse.1]
                  rfl

theorem conclude_agrees {source : LandingInput}
    {current final : LandingJobRecord} {w : World}
    (h : Pending (.sqlite files) source current w)
    (hsource : final.source = source)
    (hchecked : (StoreKind.sqlite files).check final = .ok ()) :
    conclude (service.withStore (sqlite files)) source final w
      = conclude (service.withStore inMemory) source final w := by
  have hcurrent : w.tables.records final.identity = some current := by
    unfold LandingJobRecord.identity
    rw [hsource]
    exact h.stored
  unfold conclude
  rw [withStore_sqlite, withStore_memory, StoreKind.put_eq _ hcurrent h.checked,
    StoreKind.put_eq .memory hcurrent rfl, hchecked]
  rfl

/-- A purge leaves the tables as they are. -/
theorem purge_tables {source : LandingInput} {w w' : World}
    (h : purge source w = .ok w') : w'.tables = w.tables := by
  unfold purge at h
  dsimp only at h
  split at h
  · cases h
  · cases h
    rfl

/-- What the last put leaves. -/
theorem conclude_sound {source : LandingInput}
    {current final : LandingJobRecord} {w : World}
    (h : Pending (.sqlite files) source current w)
    (hsound : Sound w.tables) (hsource : final.source = source)
    (hchecked : (StoreKind.sqlite files).check final = .ok ())
    (hplain : final.artifact = none ∨ final.state ≠ .needsHuman) :
    Sound (conclude (service.withStore (sqlite files)) source final w).2.tables
    := by
  have hid : final.identity = identityOf source := by
    unfold LandingJobRecord.identity
    rw [hsource]
  unfold conclude
  rw [withStore_sqlite]
  cases hput : (StoreKind.sqlite files).store.put final w.tables with
  | error e => exact hsound
  | ok answer =>
      have hkept : Sound answer.2 := by
        rw [StoreKind.put_eq _ (by rw [hid]; exact h.stored) h.checked,
          hchecked] at hput
        obtain ⟨_, _, hput⟩ := bind_ok.mp hput
        obtain ⟨stored, hsucceed, hput⟩ := bind_ok.mp hput
        obtain ⟨_, _, hsucceed⟩ := bind_ok.mp hsucceed
        obtain ⟨_, _, hsucceed⟩ := bind_ok.mp hsucceed
        cases hput
        cases hsucceed
        obtain ⟨hvalid, hsealed⟩ :=
          LandingJobRecord.kept_of_validate hchecked hplain
        refine hsound.setRecord ⟨hvalid, hsealed⟩ ?_
        intro other hother
        change w.tables.records final.identity = some other at hother
        rw [hid, h.stored] at hother
        cases hother
        rw [h.source_eq]
        exact hsource.symm
      dsimp only
      cases hpurge : purge source { w with tables := answer.2 } with
      | error e => exact hkept
      | ok w' =>
          show Sound w'.tables
          rw [purge_tables hpurge]
          exact hkept

/-- The handler of a failure: both stores read the job and end it. -/
theorem recover_agrees {source : LandingInput} {current : LandingJobRecord}
    {w : World} (h : Pending (.sqlite files) source current w)
    (hsound : Sound w.tables)
    (hplain : current.artifact = none ∧ current.sealedArtifact = none) :
    recover (service.withStore (sqlite files)) source w
        = recover (service.withStore inMemory) source w
      ∧ Sound (recover (service.withStore (sqlite files)) source w).2.tables
    := by
  have hnotready : current.state ≠ .artifactReady := by
    intro heq
    apply h.open_
    rw [heq]
    decide
  have hchecked : (StoreKind.sqlite files).check (failed current) = .ok () :=
    StoreKind.check_congr _ h.checked ⟨hplain.1, hplain.1⟩
      ⟨hplain.2, hplain.2⟩ ⟨hnotready, by simp [failed]⟩ rfl rfl rfl
  unfold recover
  rw [withStore_sqlite, withStore_memory,
    StoreKind.get_eq _ h.stored h.checked,
    StoreKind.get_eq .memory h.stored rfl]
  exact ⟨conclude_agrees h h.source_eq hchecked,
    conclude_sound h hsound h.source_eq hchecked (.inl hplain.1)⟩

theorem kept_normalizing (source : LandingInput) :
    (normalizingRecord source).Kept := by
  have hvalid : (normalizingRecord source).validate none = .ok () := by
    refine (LandingJobRecord.validate_plain rfl rfl
      (by simp [normalizingRecord])).mpr ⟨?_, rfl⟩
    intro digest hdigest
    cases hdigest
  exact LandingJobRecord.kept_of_validate hvalid (.inl rfl)

/-- A record of the same job, over the one before. -/
theorem Pending.sound {source : LandingInput} {current : LandingJobRecord}
    {w : World} (h : Pending (.sqlite files) source current w)
    (hsound : Sound w.tables) {record : LandingJobRecord}
    (hkept : record.Kept) (hsource : record.source = source) :
    Sound (w.tables.setRecord record) := by
  refine hsound.setRecord hkept ?_
  intro other hother
  have hid : record.identity = identityOf source := by
    unfold LandingJobRecord.identity
    rw [hsource]
  rw [hid, h.stored] at hother
  cases hother
  rw [h.source_eq, hsource]

/-- A job that was created is worked off alike. -/
theorem workOff_agrees {source : LandingInput} {w : World}
    (hsound : Sound w.tables)
    (hcreated : w.tables.records (identityOf source)
      = some (acceptedRecord source))
    (hblob : w.blobs (identityOf source) = some source)
    (hcourse : CourseAgrees files source (course service source)) :
    workOff (service.withStore (sqlite files)) (acceptedRecord source) w
        = workOff (service.withStore inMemory) (acceptedRecord source) w
      ∧ Sound (workOff (service.withStore (sqlite files))
          (acceptedRecord source) w).2.tables := by
  have hsame := process_agrees hcreated hcourse
  have hstore : (service.withStore (sqlite files)).store
      = (StoreKind.sqlite files).store := rfl
  have hran := process_ran hstore hcreated
  have hnormal : Pending (.sqlite files) source (normalizingRecord source)
      { w with tables := w.tables.setRecord (normalizingRecord source) } :=
    { stored := Tables.setRecord_records _ _ rfl
      checked := check_normalizingRecord _ source
      source_eq := rfl
      open_ := by
        show JobState.normalizing ∉ _
        decide
      blob := hblob }
  have hafter : Sound (w.tables.setRecord (normalizingRecord source)) := by
    refine hsound.setRecord (kept_normalizing source) ?_
    intro other hother
    rw [show (normalizingRecord source).identity = identityOf source from rfl,
      hcreated] at hother
    cases hother
    rfl
  have hsource : (acceptedRecord source).source = source := rfl
  change Ran _ source _ (course service source) (process _
    (acceptedRecord source) _) at hran
  cases hprocess : process (service.withStore (sqlite files))
      (acceptedRecord source) w.tables with
  | mk answer t =>
  rw [hprocess] at hran hsame
  -- the course of the job says which record comes last
  cases hanswer : course service source with
  | interrupted =>
      rw [hanswer] at hran
      cases hran
      unfold workOff
      dsimp only
      rw [hprocess, ← hsame]
      exact ⟨rfl, hafter⟩
  | failed =>
      rw [hanswer] at hran
      cases hran with
      | failed e he =>
          rw [workOff_error he hprocess, workOff_error he hsame.symm]
          exact recover_agrees hnormal hafter ⟨rfl, rfl⟩
  | providerFailed =>
      rw [hanswer] at hran
      cases hran
      rw [workOff_final hprocess, workOff_final hsame.symm]
      have hchecked : (StoreKind.sqlite files).check
          (providerFailed (normalizingRecord source)) = .ok () :=
        StoreKind.check_bare _ rfl rfl (by simp [providerFailed]) rfl rfl
      exact ⟨conclude_agrees hnormal rfl hchecked,
        conclude_sound hnormal hafter rfl hchecked (.inl rfl)⟩
  | closes outcome state reason =>
      rw [hanswer] at hran hcourse
      cases hran
      rw [workOff_final hprocess, workOff_final hsame.symm]
      exact ⟨conclude_agrees hnormal rfl hcourse,
        conclude_sound hnormal hafter rfl hcourse (.inl rfl)⟩
  | builds outcome spec built =>
      rw [hanswer] at hran hcourse
      cases hran with
      | refused _ _ _ e hcheck =>
          rw [hcourse.1] at hcheck
          cases hcheck
      | built _ _ _ _ hcheck hfinal =>
          have hbuilding := pending_generating hblob (w.tables.setRecord
            (normalizingRecord source)) hcheck
          have hkept : (generatingRecord source outcome).Kept :=
            LandingJobRecord.kept_of_validate hbuilding.checked (.inl rfl)
          have hbuilt := hnormal.sound hafter hkept rfl
          have hbuilds := hcourse.2
          cases built with
          | interrupted =>
              subst hfinal
              unfold workOff
              dsimp only
              rw [hprocess, ← hsame]
              exact ⟨rfl, hbuilt⟩
          | raised =>
              subst hfinal
              rw [workOff_error (by simp) hprocess,
                workOff_error (by simp) hsame.symm]
              exact recover_agrees hbuilding hbuilt ⟨rfl, rfl⟩
          | raisedProvider =>
              subst hfinal
              rw [workOff_final hprocess, workOff_final hsame.symm]
              exact ⟨conclude_agrees hbuilding rfl hbuilds,
                conclude_sound hbuilding hbuilt rfl hbuilds (.inl rfl)⟩
          | returned result =>
              dsimp only at hfinal
              by_cases hbound : artifactBound source spec outcome.evidence
                  result.artifact = true
              · rw [if_pos hbound] at hfinal
                subst hfinal
                rw [workOff_final hprocess, workOff_final hsame.symm]
                have hchecked := hbuilds.resolve_left (by simp [hbound])
                exact ⟨conclude_agrees hbuilding rfl hchecked,
                  conclude_sound hbuilding hbuilt rfl hchecked
                    (.inr (by simp [ready]))⟩
              · rw [if_neg hbound] at hfinal
                subst hfinal
                rw [workOff_error (by simp) hprocess,
                  workOff_error (by simp) hsame.symm]
                exact recover_agrees hbuilding hbuilt ⟨rfl, rfl⟩

/-- What a submission asks of the files and of the digests: the job that is
there reads well and is no other input of the same digest, and a job that is
not there yet runs a course whose records pass the check. -/
structure SubmitAgrees (service : LandingApplicationService) (files : Files)
    (request : Submission) (t : Tables) : Prop where
  intact : FilesMatch files t request.identity
  collision : ∀ {received expires source current},
    service.intake.accept request received expires = .ok source →
    t.records request.identity = some current →
    current.source.inputDigest = source.inputDigest →
    current.source = source
  course : ∀ {received expires source}, t.records request.identity = none →
    service.times none = .ok (received, expires) →
    service.intake.accept request received expires = .ok source →
    CourseAgrees files source (course service source)

theorem find_memory {id : Identity} {t : Tables} :
    (service.withStore inMemory).store.find id t
      = .ok (t.records id, t) := rfl

theorem openJob_agrees {request : Submission} {w : World}
    (hsound : Sound w.tables)
    (h : SubmitAgrees service files request w.tables) :
    openJob (service.withStore (sqlite files)) request w
      = openJob (service.withStore inMemory) request w := by
  unfold openJob
  cases checkSubmission request with
  | error e => rfl
  | ok u =>
  dsimp only
  have hfind : (service.withStore (sqlite files)).store.find
      request.identity w.tables = (service.withStore inMemory).store.find
      request.identity w.tables := find_agrees hsound h.intact
  rw [hfind, find_memory]
  dsimp only
  have htimes : ∀ store existing, times (service.withStore store) existing
      = times service existing := fun _ _ => rfl
  rw [htimes, htimes]
  cases times service (w.tables.records request.identity) with
  | error e => rfl
  | ok time =>
  obtain ⟨received, expires⟩ := time
  dsimp only
  have hintake : ∀ store, (service.withStore store).intake
      = service.intake := fun _ => rfl
  rw [hintake, hintake]
  cases haccept : service.intake.accept request received expires with
  | error code => rfl
  | ok source =>
  dsimp only
  obtain ⟨hid, _, _, hjob, hdigest⟩ := service.intake.accepted haccept
  have hkey : isIdentifier (request.jobId.map codePoint) = true := by
    have hjobs : source.jobId = request.jobId :=
      congrArg (fun id : Identity => id.2.2) hid
    rw [← hjobs]
    exact hjob
  have hcreate : (service.withStore (sqlite files)).store.createOrReplay
      { source := source, state := .accepted }
      (request.jobId.map codePoint) source.inputDigest w.tables
      = (service.withStore inMemory).store.createOrReplay
        { source := source, state := .accepted }
        (request.jobId.map codePoint) source.inputDigest w.tables := by
    refine create_agrees hsound ?_ ?_ hkey hdigest
    · rw [hid]
      exact h.intact
    · intro current hcurrent hsame
      rw [hid] at hcurrent
      exact h.collision haccept hcurrent hsame
  unfold createJob
  rw [show (quarantine source w).tables = w.tables from rfl, hcreate]

/-- The tables of a job that was opened. -/
theorem openJob_sound (service : LandingApplicationService)
    (request : Submission) {w : World} (hsound : Sound w.tables) :
    Sound (openJob (service.withStore inMemory) request w).2.tables := by
  unfold openJob
  cases checkSubmission request with
  | error e => exact hsound
  | ok u =>
  dsimp only
  rw [find_memory]
  dsimp only
  cases times (service.withStore inMemory)
      (w.tables.records request.identity) with
  | error e => exact hsound
  | ok time =>
  dsimp only
  cases (service.withStore inMemory).intake.accept request time.1 time.2 with
  | error code => exact hsound
  | ok source =>
  dsimp only
  unfold createJob
  cases hcreate : (service.withStore inMemory).store.createOrReplay
      { source := source, state := .accepted }
      (request.jobId.map codePoint) source.inputDigest
      (quarantine source w).tables with
  | error e =>
      dsimp only
      cases hpurge : purge source (quarantine source w) with
      | error e => exact hsound
      | ok w' =>
          show Sound w'.tables
          rw [purge_tables hpurge]
          exact hsound
  | ok answer =>
      show Sound answer.2
      exact create_sound hsound hcreate

/-- A job is created where there was none, of the input that was accepted at
the time of the clock. -/
theorem openJob_fresh {request : Submission} {w w' : World}
    {source : LandingInput} {record : LandingJobRecord}
    (hopen : openJob (service.withStore inMemory) request w
      = (.ok (source, record, true), w')) :
    w.tables.records request.identity = none
      ∧ ∃ received expires, times service none = .ok (received, expires)
        ∧ service.intake.accept request received expires = .ok source := by
  unfold openJob at hopen
  cases hcheck : checkSubmission request with
  | error e =>
      rw [hcheck] at hopen
      cases hopen
  | ok u =>
  rw [hcheck] at hopen
  dsimp only at hopen
  rw [find_memory] at hopen
  dsimp only at hopen
  cases htimes : times (service.withStore inMemory)
      (w.tables.records request.identity) with
  | error e =>
      rw [htimes] at hopen
      cases hopen
  | ok time =>
  rw [htimes] at hopen
  dsimp only at hopen
  cases haccept : (service.withStore inMemory).intake.accept request time.1
      time.2 with
  | error code =>
      rw [haccept] at hopen
      cases hopen
  | ok accepted =>
  rw [haccept] at hopen
  dsimp only at hopen
  have hid := (service.intake.accepted haccept).1
  cases hcreate : createJob (service.withStore inMemory) request accepted
      (quarantine accepted w) with
  | mk answer w₁ =>
  rw [hcreate] at hopen
  cases answer with
  | error e => cases hopen
  | ok created =>
  obtain ⟨stored, fresh⟩ := created
  cases hopen
  have hnone : w.tables.records request.identity = none := by
    unfold createJob at hcreate
    cases hcalled : (service.withStore inMemory).store.createOrReplay
        { source := source, state := .accepted }
        (request.jobId.map codePoint) source.inputDigest
        (quarantine source w).tables with
    | error e =>
        rw [hcalled] at hcreate
        dsimp only at hcreate
        split at hcreate
        · cases hcreate
        · cases hcreate
    | ok called =>
        obtain ⟨⟨stored', fresh'⟩, t'⟩ := called
        rw [hcalled] at hcreate
        cases hcreate
        rw [← hid]
        exact create_fresh hcalled
  rw [hnone] at htimes
  exact ⟨hnone, time.1, time.2, htimes, haccept⟩

/-- A submission that both stores answer alike. -/
theorem submit_agrees {request : Submission} {w : World}
    (hsound : Sound w.tables)
    (h : SubmitAgrees service files request w.tables) :
    submit (service.withStore (sqlite files)) request w
        = submit (service.withStore inMemory) request w
      ∧ Sound (submit (service.withStore inMemory) request w).2.tables := by
  have hopens := openJob_agrees hsound h
  have hafter := openJob_sound service request hsound
  unfold submit
  rw [hopens]
  cases hopen : openJob (service.withStore inMemory) request w with
  | mk answer w' =>
  rw [hopen] at hafter
  cases answer with
  | error e => exact ⟨rfl, hafter⟩
  | ok opened =>
  obtain ⟨source, record, created⟩ := opened
  cases created with
  | false =>
      refine ⟨rfl, ?_⟩
      dsimp only
      cases hpurge : purge source w' with
      | error e => exact hafter
      | ok w₁ =>
          show Sound w₁.tables
          rw [purge_tables hpurge]
          exact hafter
  | true =>
      dsimp only
      have hstore : (service.withStore inMemory).store
          = StoreKind.memory.store := rfl
      obtain ⟨hrecord, _, hstored, hblob⟩ := openJob_created hstore hopen
      obtain ⟨hnone, received, expires, htimes, haccept⟩ :=
        openJob_fresh hopen
      have hcourse := h.course hnone htimes haccept
      rw [hrecord] at hstored ⊢
      obtain ⟨hsame, hkept⟩ := workOff_agrees hafter hstored hblob hcourse
      change workOff _ { source := source, state := .accepted } w'
        = workOff _ { source := source, state := .accepted } w' at hsame
      change Sound (workOff _ { source := source, state := .accepted }
        w').2.tables at hkept
      rw [hsame] at hkept ⊢
      refine ⟨rfl, ?_⟩
      cases hwork : workOff (service.withStore inMemory)
          { source := source, state := .accepted } w' with
      | mk answer w₁ =>
          rw [hwork] at hkept
          cases answer with
          | error e => exact hkept
          | ok final => exact hkept

/-- A job that is there is read alike, and nothing is written. -/
theorem get_service_agrees (service : LandingApplicationService)
    {jobId repositoryId : Text} {actor : Actor} {w : World} (hsound : Sound w.tables)
    (hfiles : FilesMatch files w.tables
      (actor.actorId, repositoryId, jobId)) :
    get (service.withStore (sqlite files)) jobId repositoryId actor w
        = get (service.withStore inMemory) jobId repositoryId actor w
      ∧ (get (service.withStore inMemory) jobId repositoryId actor w).2 = w
    := by
  unfold get
  have hget : (service.withStore (sqlite files)).store.get
      (actor.actorId, repositoryId, jobId) w.tables
      = (service.withStore inMemory).store.get
        (actor.actorId, repositoryId, jobId) w.tables :=
    get_agrees hsound hfiles
  rw [hget]
  refine ⟨rfl, ?_⟩
  cases authorize actor repositoryId with
  | error e => rfl
  | ok u =>
      dsimp only
      have hstore : (service.withStore inMemory).store.get
          (actor.actorId, repositoryId, jobId) w.tables
          = InMemoryLandingJobStore.get (actor.actorId, repositoryId, jobId)
            w.tables := rfl
      rw [hstore]
      unfold InMemoryLandingJobStore.get
      cases w.tables.records (actor.actorId, repositoryId, jobId) with
      | none => rfl
      | some record => rfl

theorem result_agrees (service : LandingApplicationService)
    {jobId repositoryId : Text} {actor : Actor} {w : World} (hsound : Sound w.tables)
    (hfiles : FilesMatch files w.tables
      (actor.actorId, repositoryId, jobId)) :
    result (service.withStore (sqlite files)) jobId repositoryId actor w
        = result (service.withStore inMemory) jobId repositoryId actor w
      ∧ (result (service.withStore inMemory) jobId repositoryId actor w).2
        = w := by
  obtain ⟨hsame, hleft⟩ := get_service_agrees service hsound hfiles
  unfold result
  rw [hsame]
  refine ⟨rfl, ?_⟩
  cases hget : get (service.withStore inMemory) jobId repositoryId actor w
    with
  | mk answer w' =>
  rw [hget] at hleft
  cases answer with
  | error e => exact hleft
  | ok record =>
      dsimp only
      split
      · exact hleft
      · exact hleft

/-- A cancellation that both stores answer alike. -/
theorem cancel_service_agrees (service : LandingApplicationService)
    {digest : Identity → Text} (hdigest : ∀ id, isHex64 (digest id) = true)
    {jobId repositoryId : Text} {key : PyStr} (hkey : KeyAgrees key)
    {actor : Actor} {w : World} (hsound : Sound w.tables)
    (hfiles : FilesMatch files w.tables
      (actor.actorId, repositoryId, jobId)) :
    cancel (service.withStore (sqlite files)) digest jobId repositoryId key
          actor w
        = cancel (service.withStore inMemory) digest jobId repositoryId key
          actor w
      ∧ Sound (cancel (service.withStore inMemory) digest jobId repositoryId
          key actor w).2.tables := by
  unfold cancel
  dsimp only
  cases authorize actor repositoryId with
  | error e => exact ⟨rfl, hsound⟩
  | ok u =>
  dsimp only
  have hget : (service.withStore (sqlite files)).store.get
      (actor.actorId, repositoryId, jobId) w.tables
      = (service.withStore inMemory).store.get
        (actor.actorId, repositoryId, jobId) w.tables :=
    get_agrees hsound hfiles
  rw [hget]
  cases hrecord : w.tables.records (actor.actorId, repositoryId, jobId) with
  | none =>
      have hnone : (service.withStore inMemory).store.get
          (actor.actorId, repositoryId, jobId) w.tables = notFound := by
        show InMemoryLandingJobStore.get _ w.tables = _
        unfold InMemoryLandingJobStore.get
        rw [hrecord]
      rw [hnone]
      exact ⟨rfl, hsound⟩
  | some current =>
  have hsome : (service.withStore inMemory).store.get
      (actor.actorId, repositoryId, jobId) w.tables
      = .ok (current, w.tables) := by
    show InMemoryLandingJobStore.get _ w.tables = _
    unfold InMemoryLandingJobStore.get
    rw [hrecord]
  rw [hsome]
  dsimp only
  have hid := hsound.identity hrecord
  rw [← hid] at hrecord hfiles ⊢
  have hcancel : (service.withStore (sqlite files)).store.cancelOrReplay
      current key (digest current.identity) w.tables
      = (service.withStore inMemory).store.cancelOrReplay current key
        (digest current.identity) w.tables :=
    cancel_agrees hsound hrecord hfiles hkey (hdigest _)
  rw [hcancel]
  refine ⟨rfl, ?_⟩
  cases hanswer : (service.withStore inMemory).store.cancelOrReplay current
      key (digest current.identity) w.tables with
  | error e => exact hsound
  | ok answer =>
      dsimp only
      have hkept : Sound answer.2 := by
        rw [← hcancel] at hanswer
        exact (cancel_sound hsound hrecord hanswer hfiles).1
      cases hpurge : purge answer.1.source { w with tables := answer.2 } with
      | error e => exact hkept
      | ok w' =>
          show Sound w'.tables
          rw [purge_tables hpurge]
          exact hkept

-- ============================================================ the history

/-- A call of the service. -/
inductive Request where
  | submit (submission : Submission)
  | get (jobId repositoryId : Text) (actor : Actor)
  | result (jobId repositoryId : Text) (actor : Actor)
  | cancel (jobId repositoryId : Text) (key : PyStr) (actor : Actor)

/-- A call with what surrounds it: the provider, the builder and the clock of
the service, whose store does not matter, the files, and the digest of a
cancel command. -/
structure Visit where
  service : LandingApplicationService
  files : Files
  digest : Identity → Text
  digest_hex : ∀ id, isHex64 (digest id) = true
  request : Request

/-- What a call returns; only `submit` says whether the job is new. -/
abbrev Reply := Except JobError (LandingJobRecord × Option Bool)

namespace Visit

/-- The call over a store. -/
def serve (store : LandingJobStore) (visit : Visit) (w : World) :
    Reply × World :=
  let service := visit.service.withStore store
  match visit.request with
  | .submit submission =>
      let (answer, w) := service.submit submission w
      (answer.map fun created => (created.1, some created.2), w)
  | .get jobId repositoryId actor =>
      let (answer, w) := service.get jobId repositoryId actor w
      (answer.map (·, none), w)
  | .result jobId repositoryId actor =>
      let (answer, w) := service.result jobId repositoryId actor w
      (answer.map (·, none), w)
  | .cancel jobId repositoryId key actor =>
      let (answer, w) := service.cancel visit.digest jobId repositoryId key
        actor w
      (answer.map (·, none), w)

/-- When both stores answer the call alike, by what is kept before it. -/
def Agrees (visit : Visit) (w : World) : Prop :=
  match visit.request with
  | .submit submission =>
      SubmitAgrees visit.service visit.files submission w.tables
  | .get jobId repositoryId actor =>
      FilesMatch visit.files w.tables (actor.actorId, repositoryId, jobId)
  | .result jobId repositoryId actor =>
      FilesMatch visit.files w.tables (actor.actorId, repositoryId, jobId)
  | .cancel jobId repositoryId key actor => KeyAgrees key
      ∧ FilesMatch visit.files w.tables (actor.actorId, repositoryId, jobId)

/-- One call that agrees. -/
theorem serve_agrees {visit : Visit} {w : World} (hsound : Sound w.tables)
    (h : visit.Agrees w) :
    visit.serve (sqlite visit.files) w = visit.serve inMemory w
      ∧ Sound (visit.serve inMemory w).2.tables := by
  unfold serve
  unfold Agrees at h
  dsimp only
  cases hrequest : visit.request with
  | submit submission =>
      rw [hrequest] at h
      dsimp only at h ⊢
      obtain ⟨hsame, hkept⟩ := submit_agrees hsound h
      rw [hsame]
      exact ⟨rfl, hkept⟩
  | get jobId repositoryId actor =>
      rw [hrequest] at h
      dsimp only at h ⊢
      obtain ⟨hsame, hleft⟩ := get_service_agrees
        visit.service hsound h
      rw [hsame]
      refine ⟨rfl, ?_⟩
      rw [hleft]
      exact hsound
  | result jobId repositoryId actor =>
      rw [hrequest] at h
      dsimp only at h ⊢
      obtain ⟨hsame, hleft⟩ := result_agrees visit.service hsound h
      rw [hsame]
      refine ⟨rfl, ?_⟩
      rw [hleft]
      exact hsound
  | cancel jobId repositoryId key actor =>
      rw [hrequest] at h
      dsimp only at h ⊢
      obtain ⟨hsame, hkept⟩ := cancel_service_agrees
        visit.service visit.digest_hex h.1 hsound h.2
      rw [hsame]
      exact ⟨rfl, hkept⟩

end Visit

-- ============================================================= the stores

/-- A call of a store. -/
inductive StoreCall where
  | get (id : Identity)
  | find (id : Identity)
  | createOrReplay (record : LandingJobRecord) (key : PyStr) (digest : Text)
  | put (record : LandingJobRecord)
  | cancelOrReplay (record : LandingJobRecord) (key : PyStr) (digest : Text)

/-- What a call of a store returns: what it has found, and from
`createOrReplay` whether it is new. -/
abbrev StoreReply :=
  Except JobError (Option LandingJobRecord × Option Bool)

namespace StoreCall

/-- A call that raises leaves the tables as they were. -/
def settle {α : Type} (reply : α → Option LandingJobRecord × Option Bool)
    (t : Tables) : Except JobError (α × Tables) → StoreReply × Tables
  | .error e => (.error e, t)
  | .ok (a, t') => (.ok (reply a), t')

/-- The call of a store. -/
def issue (store : LandingJobStore) (call : StoreCall) (t : Tables) :
    StoreReply × Tables :=
  match call with
  | .get id => settle (fun record => (some record, none)) t (store.get id t)
  | .find id => settle (fun found => (found, none)) t (store.find id t)
  | .createOrReplay record key digest =>
      settle (fun created => (some created.1, some created.2)) t
        (store.createOrReplay record key digest t)
  | .put record =>
      settle (fun stored => (some stored, none)) t (store.put record t)
  | .cancelOrReplay record key digest =>
      settle (fun cancelled => (some cancelled, none)) t
        (store.cancelOrReplay record key digest t)

/-- When both stores answer the call alike. What the service makes sure of:
it creates jobs as `accepted` under the digest of their input, it puts jobs
that are there, and it cancels what it has just read. -/
def Agrees (files : Files) (t : Tables) : StoreCall → Prop
  | .get id => FilesMatch files t id
  | .find id => FilesMatch files t id
  | .createOrReplay record key digest =>
      FilesMatch files t record.identity
        ∧ (∀ current, t.records record.identity = some current →
          current.source.inputDigest = digest →
          current.source = record.source)
        ∧ record = acceptedRecord record.source
        ∧ digest = record.source.inputDigest
        ∧ isIdentifier key = true ∧ isHex64 digest = true
  | .put record =>
      FilesMatch files t record.identity
        ∧ (∃ current, t.records record.identity = some current)
        ∧ record.validate (some files) = .ok ()
        ∧ (record.artifact = none ∨ record.state ≠ .needsHuman)
  | .cancelOrReplay record key digest =>
      FilesMatch files t record.identity
        ∧ t.records record.identity = some record
        ∧ KeyAgrees key ∧ isHex64 digest = true

/-- A put of a record that passes the check. -/
theorem put_agrees {files : Files} {t : Tables} (hsound : Sound t)
    {record current : LandingJobRecord}
    (hfiles : FilesMatch files t record.identity)
    (hcurrent : t.records record.identity = some current)
    (hchecked : record.validate (some files) = .ok ())
    (hplain : record.artifact = none ∨ record.state ≠ .needsHuman) :
    (sqlite files).put record t = inMemory.put record t
      ∧ ∀ {stored t'}, inMemory.put record t = .ok (stored, t') →
        Sound t' := by
  have hread : (StoreKind.sqlite files).check current = .ok () :=
    (hsound.kept hcurrent).validate (hfiles current hcurrent)
  have hmemory := StoreKind.put_eq .memory hcurrent rfl
  have hdatabase := StoreKind.put_eq (.sqlite files) hcurrent hread
  change inMemory.put record t = _ at hmemory
  change (sqlite files).put record t = (do
    record.validate (some files)
    let stored ← succeed current record
    .ok (stored, t.setRecord stored)) at hdatabase
  rw [hchecked] at hdatabase
  refine ⟨hdatabase.trans hmemory.symm, ?_⟩
  intro stored t' h
  rw [hmemory] at h
  obtain ⟨_, _, h⟩ := bind_ok.mp h
  obtain ⟨next, hsucceed, h⟩ := bind_ok.mp h
  obtain ⟨_, hstale, hsucceed⟩ := bind_ok.mp hsucceed
  obtain ⟨_, _, hsucceed⟩ := bind_ok.mp hsucceed
  cases h
  cases hsucceed
  obtain ⟨hvalid, hsealed⟩ :=
    LandingJobRecord.kept_of_validate hchecked hplain
  refine hsound.setRecord ⟨hvalid, hsealed⟩ ?_
  intro other hother
  change t.records record.identity = some other at hother
  rw [hcurrent] at hother
  cases hother
  have hsame := failIf_ok.mp hstale
  simp only [Bool.or_eq_false_iff, decide_eq_false_iff_not, not_not]
    at hsame
  exact hsame.1

/-- One call that agrees. -/
theorem issue_agrees {files : Files} {t : Tables} (hsound : Sound t)
    {call : StoreCall} (h : call.Agrees files t) :
    call.issue (sqlite files) t = call.issue inMemory t
      ∧ Sound (call.issue inMemory t).2 := by
  cases call with
  | get id =>
      unfold issue
      dsimp only
      rw [get_agrees hsound h]
      refine ⟨rfl, ?_⟩
      show Sound (settle _ t (InMemoryLandingJobStore.get id t)).2
      unfold InMemoryLandingJobStore.get
      cases t.records id with
      | none => exact hsound
      | some record => exact hsound
  | find id =>
      unfold issue
      dsimp only
      rw [find_agrees hsound h]
      exact ⟨rfl, hsound⟩
  | createOrReplay record key digest =>
      obtain ⟨hfiles, hcollision, hrecord, hdigest, hkey, hhex⟩ := h
      have hid : record.identity = identityOf record.source := rfl
      rw [hdigest] at hcollision hhex
      rw [hid] at hfiles hcollision
      unfold issue
      dsimp only
      rw [hdigest, hrecord]
      change settle _ t ((sqlite files).createOrReplay
          (acceptedRecord record.source) key record.source.inputDigest t)
          = settle _ t (inMemory.createOrReplay
            (acceptedRecord record.source) key record.source.inputDigest t)
        ∧ Sound (settle _ t (inMemory.createOrReplay
            (acceptedRecord record.source) key record.source.inputDigest
              t)).2
      rw [create_agrees hsound hfiles hcollision hkey hhex]
      refine ⟨rfl, ?_⟩
      cases hcreate : inMemory.createOrReplay (acceptedRecord record.source)
          key record.source.inputDigest t with
      | error e => exact hsound
      | ok answer => exact create_sound hsound hcreate
  | put record =>
      obtain ⟨hfiles, ⟨current, hcurrent⟩, hchecked, hplain⟩ := h
      obtain ⟨hsame, hkept⟩ :=
        put_agrees hsound hfiles hcurrent hchecked hplain
      unfold issue
      dsimp only
      rw [hsame]
      refine ⟨rfl, ?_⟩
      cases hput : inMemory.put record t with
      | error e => exact hsound
      | ok answer => exact hkept hput
  | cancelOrReplay record key digest =>
      obtain ⟨hfiles, hcurrent, hkey, hhex⟩ := h
      have hsame := cancel_agrees hsound hcurrent hfiles hkey hhex
      unfold issue
      dsimp only
      rw [hsame]
      refine ⟨rfl, ?_⟩
      cases hcancel : inMemory.cancelOrReplay record key digest t with
      | error e => exact hsound
      | ok answer =>
          rw [← hsame] at hcancel
          exact (cancel_sound hsound hcurrent hcancel hfiles).1

end StoreCall

-- ============================================================== all calls

/-- A history over a store: what every step returns, and what is kept at the
end. -/
def history {σ α ρ : Type} (step : α → σ → ρ × σ) :
    List α → σ → List ρ × σ
  | [], s => ([], s)
  | a :: rest, s =>
      let (reply, s) := step a s
      let (replies, s) := history step rest s
      (reply :: replies, s)

/-- Every step of a history meets a condition on what is kept before it. -/
def Throughout {σ α ρ : Type} (step : α → σ → ρ × σ) (good : α → σ → Prop) :
    List α → σ → Prop
  | [], _ => True
  | a :: rest, s =>
      good a s ∧ Throughout step good rest (step a s).2

/-- Two step functions that agree wherever a condition holds, and keep an
invariant there, agree over every history that meets the condition. -/
theorem history_congr {σ α ρ : Type} {step other : α → σ → ρ × σ}
    {good : α → σ → Prop} {I : σ → Prop}
    (hstep : ∀ a s, I s → good a s →
      other a s = step a s ∧ I (step a s).2)
    {calls : List α} {s : σ} (hinvariant : I s)
    (hgood : Throughout step good calls s) :
    history other calls s = history step calls s := by
  induction calls generalizing s with
  | nil => rfl
  | cons a rest ih =>
      obtain ⟨hsame, hkept⟩ := hstep a s hinvariant hgood.1
      unfold history
      rw [hsame]
      dsimp only
      rw [ih hkept hgood.2]

/-- The two stores implement one specification, apart from the calls they
answer differently: from empty tables, every history of store calls that all
agree returns the same and leaves the same records over either store, and so
does every history of calls of the service. A step is judged by what is kept
before it. -/
theorem stores_agree (calls : List (Files × StoreCall))
    (visits : List Visit) :
    (Throughout (fun step => step.2.issue inMemory)
        (fun step t => step.2.Agrees step.1 t) calls {} →
      history (fun step => step.2.issue (sqlite step.1)) calls {}
        = history (fun step => step.2.issue inMemory) calls {})
    ∧ (Throughout (Visit.serve inMemory) Visit.Agrees visits emptyWorld →
      history (fun visit => visit.serve (sqlite visit.files)) visits
          emptyWorld
        = history (Visit.serve inMemory) visits emptyWorld) := by
  constructor
  · intro hgood
    exact history_congr
      (fun step t (hsound : Sound t) h => StoreCall.issue_agrees hsound h)
      sound_empty hgood
  · intro hgood
    exact history_congr (fun visit w (hsound : Sound w.tables) h =>
      Visit.serve_agrees hsound h) sound_empty hgood

-- ------------------------------------------------- one job, over both

/-- A call with files that match whatever was sealed. -/
def smallVisit (built : Answer Built) (request : Request) : Visit where
  service := smallService built
  files := fun _ _ => true
  digest := fun _ => smallDigest
  digest_hex := fun _ => by decide
  request := request

def smallCancel (key : PyStr) : Request :=
  .cancel "j".toList targetRepositoryId key ⟨"a".toList, ["*".toList]⟩

/-- A job whose build raises, and its cancellation. -/
def smallVisits : List Visit :=
  [smallVisit .raised (.submit smallSubmission),
    smallVisit .raised (smallCancel (py "k"))]

theorem smallSubmission_agrees :
    (smallVisit .raised (.submit smallSubmission)).Agrees emptyWorld where
  intact := fun _ hrecord => by cases hrecord
  collision := fun _ hcurrent _ => by cases hcurrent
  course := by
    intro received expires source _ _ haccept
    have hsource : source = smallInput smallSubmission received expires := by
      have hid : isIdentifier (smallSubmission.jobId.map codePoint) = true :=
        by decide
      change (if isIdentifier (smallSubmission.jobId.map codePoint) then
        .ok (smallInput smallSubmission received expires)
        else .error "invalid_identifier") = Except.ok source at haccept
      rw [if_pos hid] at haccept
      cases haccept
      rfl
    rw [hsource]
    have hchecked : (StoreKind.sqlite fun _ _ => true).check (generating
        (normalizingRecord (smallInput smallSubmission received expires))
        (smallOutcome (smallInput smallSubmission received expires)
          smallDigest)) = .ok () := by
      refine (LandingJobRecord.validate_plain rfl rfl
        (by simp [generating])).mpr ⟨?_, rfl⟩
      intro digest hdigest
      cases hdigest
      show isHex64 smallDigest = true
      decide
    exact ⟨hchecked, trivial⟩

theorem smallCancel_agrees :
    (smallVisit .raised (smallCancel (py "k"))).Agrees (Visit.serve inMemory
      (smallVisit .raised (.submit smallSubmission)) emptyWorld).2 := by
  refine ⟨.inl (by decide), ?_⟩
  intro record hrecord
  have hplain : ((Visit.serve inMemory (smallVisit .raised
      (.submit smallSubmission)) emptyWorld).2.tables.records
        smallSubmission.identity).map LandingJobRecord.sealedArtifact
      = some none := by decide +kernel
  change (Visit.serve inMemory (smallVisit .raised (.submit
    smallSubmission)) emptyWorld).2.tables.records smallSubmission.identity
      = some record at hrecord
  rw [hrecord] at hplain
  unfold LandingJobRecord.filesMatch
  rw [Option.some.inj hplain]

/-- One read. -/
def smallCalls : List (Files × StoreCall) :=
  [(fun _ _ => true, .find smallSubmission.identity)]

/-- A read of an empty store, and the history of a cancelled job. -/
theorem stores_agree_small :
    history (fun step => step.2.issue (sqlite step.1)) smallCalls {}
      = history (fun step => step.2.issue inMemory) smallCalls {}
    ∧ history (fun visit => visit.serve (sqlite visit.files)) smallVisits
        emptyWorld
      = history (Visit.serve inMemory) smallVisits emptyWorld := by
  obtain ⟨hcalls, hvisits⟩ := stores_agree smallCalls smallVisits
  refine ⟨hcalls ⟨?_, trivial⟩,
    hvisits ⟨smallSubmission_agrees, smallCancel_agrees, trivial⟩⟩
  intro record hrecord
  cases hrecord

/-- An artifact of the small job, as a builder may return it by itself. -/
def smallArtifact : SiteArtifact where
  siteId := "therealaidarkfactory.online".toList
  canonicalOrigin := []
  sourceSha := targetBaseSha
  sourceTree := targetBaseTree
  candidateSha := []
  candidateTree := []
  inputDigest := smallDigest
  specDigest := smallDigest
  profileDigest := smallDigest
  attemptDigest := smallDigest
  evaluationDigest := smallDigest
  manifestDigest := smallDigest
  zipSha256 := smallDigest
  sidecarSha256 := smallDigest
  memberCount := 1
  byteLength := 1
  disposition := "artifact_ready".toList
  artifactDigest := smallDigest

/-- An artifact without a sealed copy ends the job over one store, and is
refused by the other. -/
theorem stores_disagree :
    ¬ ∀ visits : List Visit,
      history (fun visit => visit.serve (sqlite visit.files)) visits
          emptyWorld
        = history (Visit.serve inMemory) visits emptyWorld := by
  intro hall
  have hsame := hall [smallVisit (.returned ⟨some smallArtifact, none⟩)
    (.submit smallSubmission)]
  have hreplies : ∀ {replies : List Reply × World},
      history (fun visit => visit.serve (sqlite visit.files))
        [smallVisit (.returned ⟨some smallArtifact, none⟩)
          (.submit smallSubmission)] emptyWorld = replies →
      replies.1.map (fun reply => reply.toOption.isSome) = [false] := by
    intro replies hreplies
    rw [← hreplies]
    decide +kernel
  have hmemory : (history (Visit.serve inMemory)
      [smallVisit (.returned ⟨some smallArtifact, none⟩)
        (.submit smallSubmission)] emptyWorld).1.map
        (fun reply => reply.toOption.isSome) = [true] := by decide +kernel
  rw [hreplies hsame] at hmemory
  exact absurd hmemory (by decide)

end LandingApplicationService

end Exolon.Landing
