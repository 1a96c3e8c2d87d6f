/-
Who owns a blob, and what a call of the store can do.

A call drops records one after the other, each with the blob of its
reference (`Dropped`), and `accept` may file one record at the end
(`Filed`): `purge_meets`, `sweepExpired_meets` and `stage_meets` say so once,
with every call of the system that may raise in between. `Owned` is the
invariant. It is the records' references that hold it together: two records
of different keys have different references, as far as SHA-256 tells the
messages apart that were hashed (`Telling`).
-/
import Exolon.Landing.Intake
import Exolon.Semantic.Binding

namespace Exolon.Landing.Blobs

open Media (Bytes LandingContractError)
open Proc (Meets)
open Transaction (bind_eq_ok check_eq_ok)

-- ============================================================= references

/-- Two messages that are one are about one key. -/
theorem ReferenceFacts.key_of_message {f g : ReferenceFacts}
    (h : f.message = g.message) : f.key = g.key := by
  have hsame : ∀ f ∈ fields, f.same _ _ :=
    Semantic.same_of_contract (by decide) (by decide) h
  simp only [fields, List.forall_mem_cons, Member.same_of] at hsame
  obtain ⟨hjob, htenant, hrepository, -⟩ := hsame
  unfold key
  rw [hjob, htenant, hrepository]

/-- A record whose reference is that of its own facts. -/
def LandingInput.Genuine (host : Host) (r : LandingInput) : Prop :=
  r.quarantineRefDigest = r.digest host

/-- SHA-256 tells some messages apart. -/
def Telling (host : Host) (known : List Bytes) : Prop :=
  ∀ a ∈ known, ∀ b ∈ known, host.sha256 a = host.sha256 b → a = b

theorem key_of_reference {host : Host} {known : List Bytes}
    (htelling : Telling host known) {r r' : LandingInput}
    (hr : r.Genuine host) (hr' : r'.Genuine host)
    (hknown : r.message ∈ known) (hknown' : r'.message ∈ known)
    (h : r.quarantineRefDigest = r'.quarantineRefDigest) :
    r.key = r'.key := by
  rw [hr, hr'] at h
  exact ReferenceFacts.key_of_message
    (htelling _ hknown _ hknown' (Factory.Digest.ext_text h))

-- =============================================================== dropping

namespace Quarantine

/-- A record and the blob of its reference are gone. -/
def drop (q : Quarantine) (r : LandingInput) : Quarantine :=
  (q.unlink r.quarantineRefDigest).pop r.key

/-- Nothing is unlinked where there is no blob. -/
theorem pop_eq_drop {q : Quarantine} {r : LandingInput}
    (h : q.blobs r.quarantineRefDigest = none) : q.pop r.key = q.drop r := by
  unfold drop pop unlink
  rw [← h, Function.update_eq_self]

end Quarantine

/-- Some records of `R` are dropped, each of which is live or has no other
record under its key. -/
inductive Dropped (R : LandingInput → Prop) : Quarantine → Quarantine → Prop
  | refl (q : Quarantine) : Dropped R q q
  | drop {q q' : Quarantine} {r : LandingInput} (hr : R r)
      (hfind : q.find r.key = none ∨ q.find r.key = some r)
      (hrest : Dropped R (q.drop r) q') : Dropped R q q'

theorem Dropped.trans {R : LandingInput → Prop} {q q' q'' : Quarantine}
    (h : Dropped R q q') (h' : Dropped R q' q'') : Dropped R q q'' := by
  induction h with
  | refl => exact h'
  | drop hr hfind _ ih => exact .drop hr hfind (ih h')

theorem Dropped.mono {R R' : LandingInput → Prop} {q q' : Quarantine}
    (h : Dropped R q q') (hR : ∀ r, R r → R' r) : Dropped R' q q' := by
  induction h with
  | refl => exact .refl _
  | drop hr hfind _ ih => exact .drop (hR _ hr) hfind ih

-- ================================================================ triples

/-- The store has the quarantine `q`. -/
def At (q : Quarantine) : BlobStore → Prop := fun s => s.toQuarantine = q

/-- A call is never cut off. -/
abbrev Ends (P : BlobStore → Prop) {α : Type} (c : Action α)
    (Q : α → BlobStore → Prop) (E : Failure → BlobStore → Prop) : Prop :=
  Meets (fun _ => False) P c Q E

section Steps

variable {α : Type} {io : Io} {q : Quarantine}
  {E : Failure → BlobStore → Prop}

theorem attempt_meets {point : Point} (hE : ∀ e s, At q s → E e s) :
    Ends (At q) (attempt io point) (fun _ => At q) E := by
  unfold attempt
  split
  · exact Proc.meets_raise (hE .os)
  · exact Proc.meets_pure fun _ h => h

/-- A call of the system that does not raise. -/
theorem attempt_passes {P : BlobStore → Prop} {point : Point}
    (h : io point = false) : Ends P (attempt io point) (fun _ => P) E := by
  unfold attempt
  rw [h]
  exact Proc.meets_pure fun _ h => h

theorem change_meets {f : Quarantine → Quarantine} :
    Ends (At q) (change f) (fun _ => At (f q)) E :=
  Proc.meets_modify fun _ h => congrArg f h

theorem setTemporary_meets {file : Option Bytes} :
    Ends (At q) (setTemporary file)
      (fun _ s => At q s ∧ s.temporary = file) E :=
  Proc.meets_modify fun _ h => ⟨h, rfl⟩

theorem raise_meets {Q : α → BlobStore → Prop} {code : String}
    (hE : ∀ e s, At q s → E e s) : Ends (At q) (raise code : Action α) Q E :=
  Proc.meets_raise (hE _)

theorem lift_meets {x : Except LandingContractError α}
    (hE : ∀ e s, At q s → E e s) :
    Ends (At q) (lift x) (fun a s => At q s ∧ x = .ok a) E := by
  unfold lift
  apply Proc.meets_ofExcept
  · intro a s hx hs
    cases x with
    | ok b =>
        cases Except.ok.inj hx
        exact ⟨hs, rfl⟩
    | error e => cases hx
  · exact fun e s _ hs => hE e s hs

theorem zoned_meets {now : Option Int} (hE : ∀ e s, At q s → E e s) :
    Ends (At q) (zoned now) (fun n s => At q s ∧ now = some n) E := by
  cases now with
  | none => exact raise_meets hE
  | some n => exact Proc.meets_pure fun _ h => ⟨h, rfl⟩

/-- The state is read. -/
theorem look_meets {f : BlobStore → Action α} {Q : α → BlobStore → Prop}
    (h : ∀ s : BlobStore, s.toQuarantine = q → Ends (At q) (f s) Q E) :
    Ends (At q) (Proc.get >>= f) Q E := by
  intro s hs
  exact h s hs s hs

/-- What a pure fact adds to a state's. -/
theorem meets_of_and {p : Prop} {P : BlobStore → Prop} {c : Action α}
    {Q : α → BlobStore → Prop} (h : p → Ends P c Q E) :
    Ends (fun s => P s ∧ p) c Q E :=
  fun s hs => h hs.2 s hs.1

end Steps

-- ================================================================== purge

section Purge

variable {io : Io}

/-- A purge drops its record, or nothing. -/
theorem purge_meets (q : Quarantine) (record : LandingInput)
    (reason : String) :
    Ends (At q) (purge io record reason)
      (fun _ t => Dropped (· = record) q t.toQuarantine)
      (fun _ t => Dropped (· = record) q t.toQuarantine) := by
  have hstay : ∀ (e : Failure) (s : BlobStore), At q s →
      Dropped (· = record) q s.toQuarantine := by
    rintro e s rfl
    exact .refl _
  unfold purge
  split
  · exact raise_meets hstay
  · refine look_meets fun s hs => ?_
    split
    · exact raise_meets hstay
    · next hfind =>
        rw [hs] at hfind
        have hmine : q.find record.key = none
            ∨ q.find record.key = some record := by
          cases hq : q.find record.key with
          | none => exact .inl rfl
          | some r =>
              rw [hq] at hfind
              exact .inr (congrArg some (by simpa using hfind))
        have hdrop : ∀ (e : Failure) (s : BlobStore), At (q.drop record) s →
            Dropped (· = record) q s.toQuarantine := by
          rintro e s hs
          rw [show s.toQuarantine = _ from hs]
          exact .drop rfl hmine (.refl _)
        refine Proc.meets_bind (attempt_meets hstay) fun _ => ?_
        rw [hs]
        split
        · refine Proc.meets_bind (attempt_meets hstay) fun _ => ?_
          refine Proc.meets_bind change_meets fun _ => ?_
          refine Proc.meets_bind change_meets fun _ => ?_
          refine Proc.meets_bind (attempt_meets hdrop) fun _ => ?_
          exact Proc.meets_pure (hdrop .os)
        · next hblob =>
            rw [Bool.not_eq_true, Option.isSome_eq_false_iff,
              Option.isNone_iff_eq_none] at hblob
            refine Proc.meets_bind change_meets fun _ => ?_
            rw [Quarantine.pop_eq_drop hblob]
            exact Proc.meets_pure (hdrop .os)

theorem purgeAll_meets (records : List LandingInput) (q : Quarantine) :
    Ends (At q) (purgeAll io records)
      (fun _ t => Dropped (· ∈ records) q t.toQuarantine)
      (fun _ t => Dropped (· ∈ records) q t.toQuarantine) := by
  induction records generalizing q with
  | nil =>
      refine Proc.meets_pure ?_
      rintro s rfl
      exact .refl _
  | cons record records ih =>
      have hfirst : ∀ r, r = record → r ∈ record :: records := by
        rintro r rfl
        exact List.mem_cons_self
      refine Proc.meets_bind (R := fun _ t =>
        Dropped (· ∈ record :: records) q t.toQuarantine) ?_ fun _ => ?_
      · exact (purge_meets q record "expired").mono (fun _ h => h)
          (fun _ _ h => h.mono hfirst) (fun _ _ h => h.mono hfirst)
      · intro s hs
        refine (ih s.toQuarantine).mono
          (fun t (h : At s.toQuarantine t) => h) ?_ ?_ s rfl
        · exact fun _ _ h => hs.trans (h.mono fun _ => List.mem_cons_of_mem _)
        · exact fun _ _ h => hs.trans (h.mono fun _ => List.mem_cons_of_mem _)

/-- What a sweep may drop. -/
def Expired (q : Quarantine) (now : Int) (r : LandingInput) : Prop :=
  r ∈ q.live ∧ r.expiresAt ≤ now

/-- A sweep drops expired records. -/
theorem sweepExpired_meets (q : Quarantine) (now : Int) :
    Ends (At q) (sweepExpired io now)
      (fun _ t => Dropped (Expired q now) q t.toQuarantine)
      (fun _ t => Dropped (Expired q now) q t.toQuarantine) := by
  unfold sweepExpired
  refine look_meets fun s hs => ?_
  rw [hs]
  have hexpired : ∀ r, r ∈ (q.live.filter fun r => r.expiresAt ≤ now) →
      Expired q now r := by
    intro r hr
    rw [List.mem_filter, decide_eq_true_iff] at hr
    exact hr
  exact (purgeAll_meets _ q).mono (fun _ h => h)
    (fun _ _ h => h.mono hexpired) (fun _ _ h => h.mono hexpired)

end Purge

-- ================================================================= accept

/-- The bytes of an upload. -/
def Upload.payload (u : Upload) : Bytes :=
  u.chunks.flatMap fun chunk =>
    match chunk with
    | .bytes value => value
    | _ => []

/-- A record made of an upload. -/
structure Made (host : Host) (u : Upload) (r : LandingInput) : Prop where
  facts : r.toReferenceFacts = u.facts host u.payload
  genuine : r.Genuine host
  expiresAt : u.expiresAt = some r.expiresAt

theorem Made.key_eq {host : Host} {u : Upload} {r : LandingInput}
    (h : Made host u r) : r.key = u.key := by
  rw [h.facts]
  rfl

/-- The record of an upload is live, or it is filed with its bytes. -/
def Filed (host : Host) (u : Upload) (q : Quarantine) (r : LandingInput)
    (q' : Quarantine) : Prop :=
  Made host u r
    ∧ (q.find u.key = some r ∧ q' = q
      ∨ q.find u.key = none ∧ q.blobs r.quarantineRefDigest = some u.payload
        ∧ q' = q.insert u.key r
      ∨ q.find u.key = none ∧ q.blobs r.quarantineRefDigest = none
        ∧ q' = (q.place r.quarantineRefDigest u.payload).insert u.key r)

section Accept

variable {host : Host} {io : Io} {q : Quarantine}
  {E : Failure → BlobStore → Prop}

theorem fromFacts_ok {r r' : LandingInput}
    (h : LandingInput.fromFacts host r = .ok r') : r' = r := by
  unfold LandingInput.fromFacts at h
  simp only [bind_eq_ok] at h
  obtain ⟨_, _, _, _, _, _, _, _, _, _, _, _, _, _, _, _, _, _, _, _, _, _, _,
    _, hr⟩ := h
  exact (Except.ok.inj hr).symm

theorem receive_meets {maximum : Nat} {chunks : List Chunk} {written : Bytes}
    (hE : ∀ e s, At q s → E e s) :
    Ends (At q) (receive io maximum written chunks)
      (fun payload s => At q s ∧ payload = written
        ++ chunks.flatMap fun chunk =>
          match chunk with
          | .bytes value => value
          | _ => []) E := by
  induction chunks generalizing written with
  | nil =>
      unfold receive
      refine Proc.meets_bind (attempt_meets hE) fun _ => ?_
      exact Proc.meets_pure fun _ h => ⟨h, (List.append_nil _).symm⟩
  | cons chunk chunks ih =>
      cases chunk with
      | bytes value =>
          unfold receive
          split
          · exact raise_meets hE
          · refine Proc.meets_bind (attempt_meets hE) fun _ => ?_
            refine Proc.meets_bind setTemporary_meets fun _ => ?_
            refine (@ih (written ++ value)).mono (fun _ h => h.1) ?_
              (fun _ _ h => h)
            rintro payload s ⟨hs, rfl⟩
            rw [List.flatMap_cons, ← List.append_assoc]
            exact ⟨hs, rfl⟩
      | invalid => exact raise_meets hE
      | raises => exact Proc.meets_raise (hE _)

theorem record_meets {u : Upload} (hE : ∀ e s, At q s → E e s) :
    Ends (At q) (u.record host u.payload)
      (fun r s => At q s ∧ Made host u r) E := by
  unfold Upload.record
  refine Proc.meets_bind (zoned_meets hE) fun received => ?_
  refine meets_of_and fun _ => ?_
  refine Proc.meets_bind (zoned_meets hE) fun expires => ?_
  refine meets_of_and fun hexpires => ?_
  refine (lift_meets hE).mono (fun _ h => h) ?_ (fun _ _ h => h)
  rintro r s ⟨hs, hr⟩
  rw [fromFacts_ok hr]
  exact ⟨hs, rfl, rfl, hexpires⟩

/-- The bytes get their name, if the system does what it is told after the
move. -/
theorem keep_meets {reference : Text} {payload : Bytes}
    (hsettle : io .settle = false) (hE : ∀ e s, At q s → E e s) :
    Ends (At q) (keep io reference payload)
      (fun _ s => s.temporary = none
        ∧ (q.blobs reference = some payload ∧ At q s
          ∨ q.blobs reference = none ∧ At (q.place reference payload) s))
      E := by
  unfold keep
  refine look_meets fun s hs => ?_
  rw [hs]
  refine Proc.meets_bind (attempt_meets hE) fun _ => ?_
  split
  · next blob hblob =>
      split
      · exact raise_meets hE
      · next hsame =>
          rw [not_not] at hsame
          subst hsame
          refine Proc.meets_bind (attempt_meets hE) fun _ => ?_
          exact setTemporary_meets.mono (fun _ h => h)
            (fun _ _ h => ⟨h.2, .inl ⟨hblob, h.1⟩⟩) (fun _ _ h => h)
  · next hblob =>
      refine Proc.meets_bind (attempt_meets hE) fun _ => ?_
      refine Proc.meets_bind change_meets fun _ => ?_
      refine Proc.meets_bind setTemporary_meets fun _ => ?_
      exact (attempt_passes hsettle).mono (fun _ h => h)
        (fun _ _ h => ⟨h.2, .inr ⟨hblob, h.1⟩⟩) (fun _ _ h => h)

/-- The temporary file is gone unless nothing was filed. -/
theorem file_meets {u : Upload} {r : LandingInput} (hmade : Made host u r)
    (hsettle : io .settle = false) (hE : ∀ e s, At q s → E e s) :
    Ends (At q) (file io u.key r u.payload)
      (fun r s => Filed host u q r s.toQuarantine
        ∧ (At q s ∨ s.temporary = none)) E := by
  unfold file
  refine look_meets fun s hs => ?_
  rw [hs]
  split
  · next existing hfind =>
      split
      · exact raise_meets hE
      · next hsame =>
          rw [not_not] at hsame
          subst hsame
          exact Proc.meets_pure fun _ h => ⟨⟨hmade, .inl ⟨hfind, h⟩⟩, .inl h⟩
  · next hfind =>
      refine Proc.meets_bind (keep_meets hsettle hE) fun _ => ?_
      refine Proc.meets_bind (R := fun _ s =>
        Filed host u q r s.toQuarantine
          ∧ (At q s ∨ s.temporary = none)) ?_ fun _ => ?_
      · refine Proc.meets_modify ?_
        rintro s ⟨hnone, ⟨hblob, hs⟩ | ⟨hblob, hs⟩⟩
        · refine ⟨⟨hmade, .inr (.inl ⟨hfind, hblob, ?_⟩)⟩, .inr hnone⟩
          rw [show s.toQuarantine = q from hs]
        · refine ⟨⟨hmade, .inr (.inr ⟨hfind, hblob, ?_⟩)⟩, .inr hnone⟩
          rw [show s.toQuarantine = _ from hs]
      · exact Proc.meets_pure fun _ h => h

/-- What is staged is filed, or the quarantine stays as it was. -/
theorem stage_meets {u : Upload} (hsettle : io .settle = false) :
    Ends (At q) (stage host io u)
      (fun r s => Filed host u q r s.toQuarantine
        ∧ (At q s ∨ s.temporary = none)) (fun _ => At q) := by
  have hE : ∀ (e : Failure) (s : BlobStore), At q s → At q s := fun _ _ h => h
  unfold stage
  refine Proc.meets_bind (attempt_meets hE) fun _ => ?_
  refine Proc.meets_bind (receive_meets hE) fun payload => ?_
  refine meets_of_and fun hpayload => ?_
  rw [List.nil_append] at hpayload
  change payload = u.payload at hpayload
  subst hpayload
  split
  · exact raise_meets hE
  · refine Proc.meets_bind (lift_meets hE) fun _ => ?_
    refine meets_of_and fun _ => ?_
    refine Proc.meets_bind (record_meets hE) fun r => ?_
    exact meets_of_and fun hmade => file_meets hmade hsettle hE

/-- The clean-up has no part in the quarantine. -/
theorem clean_meets : Ends (At q) (clean io) (fun _ => At q) (fun _ => At q) := by
  have hE : ∀ (e : Failure) (s : BlobStore), At q s → At q s := fun _ _ h => h
  unfold clean
  refine look_meets fun s _ => ?_
  split
  · refine Proc.meets_bind (attempt_meets hE) fun _ => ?_
    exact setTemporary_meets.mono (fun _ h => h) (fun _ _ h => h.1)
      (fun _ _ h => h)
  · exact Proc.meets_pure fun _ h => h

/-- It raises only where there is a temporary file. -/
theorem clean_filed_meets {P : Quarantine → Prop} :
    Ends (fun s => P s.toQuarantine ∧ (At q s ∨ s.temporary = none)) (clean io)
      (fun _ s => P s.toQuarantine) (fun _ => At q) := by
  rintro s ⟨hP, hstay | hnone⟩
  · rw [show s.toQuarantine = q from hstay] at hP
    refine (clean_meets (q := q)).mono (fun t (h : At q t) => h) ?_
      (fun _ _ h => h) s hstay
    intro _ t ht
    rw [show t.toQuarantine = q from ht]
    exact hP
  · have hidle : clean io s = (.done ⟨⟩, s) := by
      unfold clean
      rw [Proc.get_bind, hnone]
      rfl
    rw [hidle]
    exact hP

/-- An upload sweeps, and is filed or rejected. -/
theorem accept_meets {now : Option Int} {u : Upload}
    (hsettle : io .settle = false) (q : Quarantine) :
    Ends (At q) (accept host io now u)
      (fun r s => ∃ n q', now = some n ∧ Dropped (Expired q n) q q'
        ∧ Filed host u q' r s.toQuarantine)
      (fun _ s => s.toQuarantine = q ∨ ∃ n, now = some n
        ∧ Dropped (Expired q n) q s.toQuarantine) := by
  have hE : ∀ (e : Failure) (s : BlobStore), At q s →
      s.toQuarantine = q ∨ ∃ n, now = some n
        ∧ Dropped (Expired q n) q s.toQuarantine := fun _ _ h => .inl h
  unfold accept
  split
  · exact raise_meets hE
  refine Proc.meets_bind (zoned_meets hE) fun n => ?_
  refine meets_of_and fun hnow => ?_
  refine Proc.meets_bind ((sweepExpired_meets q n).mono (fun _ h => h)
    (fun _ _ h => h) (fun _ _ h => .inr ⟨n, hnow, h⟩)) fun _ => ?_
  -- from here on the quarantine is the one that the sweep has left
  refine Proc.meets_of_forall fun s hs => ?_
  have hswept : ∀ (e : Failure) (t : BlobStore), At s.toQuarantine t →
      t.toQuarantine = q ∨ ∃ n, now = some n
        ∧ Dropped (Expired q n) q t.toQuarantine := by
    intro e t ht
    rw [show t.toQuarantine = _ from ht]
    exact .inr ⟨n, hnow, hs⟩
  refine Meets.pre (P := At s.toQuarantine) ?_ fun _ h => congrArg _ h
  refine look_meets fun t _ => ?_
  split
  · exact raise_meets hswept
  refine Proc.meets_bind (attempt_meets hswept) fun _ => ?_
  refine Proc.meets_bind setTemporary_meets fun _ => ?_
  have hstaged : Ends (At s.toQuarantine)
      (Proc.andFinally (stage host io u) (clean io))
      (fun r t => Filed host u s.toQuarantine r t.toQuarantine)
      (fun _ => At s.toQuarantine) :=
    Proc.meets_andFinally (stage_meets hsettle)
      (fun r => clean_filed_meets (P := Filed host u s.toQuarantine r))
      fun _ => clean_meets
  exact hstaged.mono (fun _ h => h.1)
    (fun _ _ h => ⟨n, s.toQuarantine, hnow, hs, h⟩) hswept

end Accept

-- =================================================================== read

section Read

variable {host : Host} {io : Io}

/-- A read answers with the blob of a live record that has not expired; it
drops expired records. -/
theorem read_meets {now : Option Int} {record : LandingInput} {key : Key}
    (q : Quarantine) :
    Ends (At q) (read host io now record key)
      (fun payload s => ∃ n, now = some n ∧ n < record.expiresAt
        ∧ record.key = key ∧ q.find key = some record
        ∧ Dropped (Expired q n) q s.toQuarantine
        ∧ s.blobs record.quarantineRefDigest = some payload
        ∧ (host.sha256 payload).text = record.contentSha256)
      (fun _ s => s.toQuarantine = q ∨ ∃ n, now = some n
        ∧ Dropped (Expired q n) q s.toQuarantine) := by
  have hE : ∀ (e : Failure) (s : BlobStore), At q s →
      s.toQuarantine = q ∨ ∃ n, now = some n
        ∧ Dropped (Expired q n) q s.toQuarantine := fun _ _ h => .inl h
  unfold read
  split
  · exact raise_meets hE
  next hkey =>
  rw [not_not] at hkey
  refine look_meets fun s hs => ?_
  rw [hs]
  split
  · exact raise_meets hE
  next hfind =>
  rw [not_not] at hfind
  refine Proc.meets_bind (zoned_meets hE) fun n => ?_
  refine meets_of_and fun hnow => ?_
  split
  · next hexpired =>
      have hmine : ∀ r, r = record → Expired q n r := by
        rintro r rfl
        refine ⟨?_, hexpired⟩
        exact List.mem_map_of_mem (Json.mem_of_lookup hfind)
      refine Proc.meets_bind (R := fun _ t => ∃ n, now = some n
        ∧ Dropped (Expired q n) q t.toQuarantine) ?_ fun _ => ?_
      · exact (purge_meets q record "expired").mono (fun _ h => h)
          (fun _ _ h => ⟨n, hnow, h.mono hmine⟩)
          (fun _ _ h => .inr ⟨n, hnow, h.mono hmine⟩)
      · exact Proc.meets_raise fun _ h => .inr h
  · next hlive =>
      rw [Int.not_le] at hlive
      refine Proc.meets_bind ((sweepExpired_meets q n).mono (fun _ h => h)
        (fun _ _ h => h) (fun _ _ h => .inr ⟨n, hnow, h⟩)) fun _ => ?_
      refine Proc.meets_of_forall fun s hs => ?_
      have hswept : ∀ (e : Failure) (t : BlobStore), At s.toQuarantine t →
          t.toQuarantine = q ∨ ∃ n, now = some n
            ∧ Dropped (Expired q n) q t.toQuarantine := by
        intro e t ht
        rw [show t.toQuarantine = _ from ht]
        exact .inr ⟨n, hnow, hs⟩
      refine Meets.pre (P := At s.toQuarantine) ?_ fun _ h => congrArg _ h
      refine look_meets fun t ht => ?_
      rw [ht]
      split
      · exact raise_meets hswept
      · next payload hblob =>
          refine Proc.meets_bind (attempt_meets hswept) fun _ => ?_
          split
          · exact raise_meets hswept
          · next hsame =>
              rw [not_or, not_not, not_not] at hsame
              refine Proc.meets_pure fun t ht => ?_
              rw [show t.toQuarantine = _ from ht]
              exact ⟨n, hnow, hlive, hkey.symm, hfind, hs, hblob, hsame.2⟩

end Read

end Exolon.Landing.Blobs
