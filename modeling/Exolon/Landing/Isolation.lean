/-
Quarantine isolation.

`Promised` is what is promised of a call made after any others, and
`run_promised` keeps it in every run whose calls are orderly: a record that
is purged has the reference of its own facts, and the system does not raise
between the move of a file and the insertion of its record. `strays` shows a
run for each of the two: a blob without a record, and a purge that removes
another's blob.
-/
import Exolon.Landing.Ownership

namespace Exolon.Landing.Blobs

open Media (Bytes LandingContractError)
open Proc (Meets)

-- ============================================================== invariant

/-- Each record has its key, its reference and its blob, and each blob a
record. -/
structure Owned (host : Host) (known : List Bytes) (q : Quarantine) :
    Prop where
  keys_nodup : (q.records.map Prod.fst).Nodup
  filed : ∀ p ∈ q.records, p.2.key = p.1
  genuine : ∀ r ∈ q.live, r.Genuine host
  known : ∀ r ∈ q.live, r.message ∈ known
  held : ∀ r ∈ q.live, (q.blobs r.quarantineRefDigest).isSome = true
  owner : ∀ reference, (q.blobs reference).isSome = true →
    ∃ r ∈ q.live, r.quarantineRefDigest = reference

/-- The blob files are the references of the live records, one a record. -/
structure Tidy (q : Quarantine) : Prop where
  files : ∀ reference, (q.blobs reference).isSome = true ↔
    ∃ r ∈ q.live, r.quarantineRefDigest = reference
  one : (q.live.map fun r => r.quarantineRefDigest).Nodup

section Invariant

variable {host : Host} {known : List Bytes} {q : Quarantine}
  {r r' : LandingInput}

theorem owned_empty : Owned host known Quarantine.empty where
  keys_nodup := List.nodup_nil
  filed := fun _ h => by cases h
  genuine := fun _ h => by cases h
  known := fun _ h => by cases h
  held := fun _ h => by cases h
  owner := fun _ h => by cases h

/-- A live record is the one under its key. -/
theorem Owned.find_iff (h : Owned host known q) {key : Key} :
    q.find key = some r ↔ r ∈ q.live ∧ r.key = key := by
  constructor
  · intro hfind
    have hmem := Json.mem_of_lookup (show q.records.lookup key = some r from
      hfind)
    exact ⟨List.mem_map_of_mem hmem, h.filed _ hmem⟩
  · rintro ⟨hlive, rfl⟩
    obtain ⟨p, hp, rfl⟩ := List.mem_map.mp hlive
    apply Json.lookup_of_mem h.keys_nodup
    rw [h.filed p hp]
    exact hp

theorem Owned.eq_of_key (h : Owned host known q) (hr : r ∈ q.live)
    (hr' : r' ∈ q.live) (hkey : r.key = r'.key) : r = r' := by
  have hfind := h.find_iff.mpr ⟨hr, hkey⟩
  rw [h.find_iff.mpr ⟨hr', rfl⟩] at hfind
  exact (Option.some.inj hfind).symm

/-- No two live records share a reference. -/
theorem Owned.eq_of_reference (htelling : Telling host known)
    (h : Owned host known q) (hr : r ∈ q.live) (hr' : r' ∈ q.live)
    (href : r.quarantineRefDigest = r'.quarantineRefDigest) : r = r' :=
  h.eq_of_key hr hr' (key_of_reference htelling (h.genuine r hr)
    (h.genuine r' hr') (h.known r hr) (h.known r' hr') href)

theorem Owned.live_nodup (h : Owned host known q) : q.live.Nodup := by
  have hkeys : (q.live.map fun r => r.key) = q.records.map Prod.fst := by
    unfold Quarantine.live
    rw [List.map_map]
    exact List.map_congr_left h.filed
  apply List.Nodup.of_map fun r => r.key
  rw [hkeys]
  exact h.keys_nodup

theorem Owned.tidy (htelling : Telling host known) (h : Owned host known q) :
    Tidy q where
  files reference := by
    constructor
    · exact h.owner reference
    · rintro ⟨r, hr, rfl⟩
      exact h.held r hr
  one := by
    apply List.Nodup.map_on _ h.live_nodup
    intro r hr r' hr' href
    exact h.eq_of_reference htelling hr hr' href

end Invariant

-- ================================================================ dropping

/-- What is left when records of `R` may be dropped: nothing is new, and
all else is as it was. -/
structure Kept (R : LandingInput → Prop) (q q' : Quarantine) : Prop where
  records : q'.records.Sublist q.records
  live : ∀ r ∈ q.live, ¬ R r →
    r ∈ q'.live ∧ q'.blobs r.quarantineRefDigest
      = q.blobs r.quarantineRefDigest
  blobs : ∀ reference, q'.blobs reference = q.blobs reference
    ∨ q'.blobs reference = none
      ∧ ∃ r ∈ q.live, R r ∧ r.quarantineRefDigest = reference

theorem Kept.refl (R : LandingInput → Prop) (q : Quarantine) :
    Kept R q q where
  records := List.Sublist.refl _
  live := fun _ hr _ => ⟨hr, rfl⟩
  blobs := fun _ => .inl rfl

section Kept

variable {R : LandingInput → Prop} {q q' q'' : Quarantine}
  {r : LandingInput}

theorem Kept.mem_of_live (h : Kept R q q') (hr : r ∈ q'.live) :
    r ∈ q.live :=
  (h.records.map Prod.snd).subset hr

theorem Kept.trans (h : Kept R q q') (h' : Kept R q' q'') : Kept R q q'' where
  records := h'.records.trans h.records
  live r hr hR := by
    obtain ⟨hlive, hblob⟩ := h.live r hr hR
    obtain ⟨hlive', hblob'⟩ := h'.live r hlive hR
    exact ⟨hlive', hblob'.trans hblob⟩
  blobs reference := by
    rcases h'.blobs reference with heq | ⟨hnone, r, hr, hR, href⟩
    · rw [heq]
      exact h.blobs reference
    · exact .inr ⟨hnone, r, h.mem_of_live hr, hR, href⟩

variable {host : Host} {known : List Bytes}

/-- The blob of a record that is live at the end was there all along. -/
theorem Kept.blob_eq (h : Kept R q q') (howned : Owned host known q')
    (hr : r ∈ q'.live) :
    q'.blobs r.quarantineRefDigest = q.blobs r.quarantineRefDigest := by
  rcases h.blobs r.quarantineRefDigest with heq | ⟨hnone, -⟩
  · exact heq
  · have hheld := howned.held r hr
    rw [hnone] at hheld
    cases hheld

theorem mem_live_drop {r' : LandingInput} (h : Owned host known q) :
    r' ∈ (q.drop r).live ↔ r' ∈ q.live ∧ r'.key ≠ r.key := by
  unfold Quarantine.drop Quarantine.unlink Quarantine.pop Quarantine.live
  simp only [List.mem_map, List.mem_filter, decide_eq_true_iff]
  constructor
  · rintro ⟨p, ⟨hp, hkey⟩, rfl⟩
    rw [h.filed p hp]
    exact ⟨⟨p, hp, rfl⟩, hkey⟩
  · rintro ⟨⟨p, hp, rfl⟩, hkey⟩
    rw [h.filed p hp] at hkey
    exact ⟨p, ⟨hp, hkey⟩, rfl⟩

theorem blobs_drop (reference : Text) : (q.drop r).blobs reference
    = if reference = r.quarantineRefDigest then none else q.blobs reference := by
  unfold Quarantine.drop Quarantine.pop Quarantine.unlink
  dsimp only
  rw [Function.update_apply]

/-- The blob of a genuine record is its own, or there is none. -/
theorem Owned.eq_of_find (htelling : Telling host known)
    (h : Owned host known q) (hgenuine : r.Genuine host)
    (hknown : r.message ∈ known)
    (hfind : q.find r.key = none ∨ q.find r.key = some r)
    {r' : LandingInput} (hr' : r' ∈ q.live)
    (href : r'.quarantineRefDigest = r.quarantineRefDigest) : r' = r := by
  have hkey := key_of_reference htelling (h.genuine r' hr') hgenuine
    (h.known r' hr') hknown href
  have hlive := h.find_iff.mpr ⟨hr', hkey⟩
  rcases hfind with hnone | hsome
  · rw [hnone] at hlive
    cases hlive
  · rw [hsome] at hlive
    exact (Option.some.inj hlive).symm

/-- A genuine record takes nothing of another's with it. -/
theorem Owned.drop (htelling : Telling host known) (h : Owned host known q)
    (hR : R r) (hgenuine : r.Genuine host) (hknown : r.message ∈ known)
    (hfind : q.find r.key = none ∨ q.find r.key = some r) :
    Owned host known (q.drop r) ∧ Kept R q (q.drop r) := by
  have hsub : (q.drop r).records.Sublist q.records := List.filter_sublist
  have hlive : ∀ r' ∈ (q.drop r).live, r' ∈ q.live :=
    fun r' hr' => ((mem_live_drop h).mp hr').1
  -- what is not under the record's key does not have its reference
  have hothers : ∀ r' ∈ q.live, r' ≠ r →
      r' ∈ (q.drop r).live ∧ (q.drop r).blobs r'.quarantineRefDigest
        = q.blobs r'.quarantineRefDigest := by
    intro r' hr' hne
    refine ⟨(mem_live_drop h).mpr ⟨hr', fun hkey => ?_⟩, ?_⟩
    · have hmine := h.find_iff.mpr ⟨hr', hkey⟩
      rcases hfind with hnone | hsome
      · rw [hnone] at hmine
        cases hmine
      · rw [hsome] at hmine
        exact hne (Option.some.inj hmine).symm
    · rw [blobs_drop, if_neg]
      intro href
      exact hne (h.eq_of_find htelling hgenuine hknown hfind hr' href)
  constructor
  · constructor
    · exact h.keys_nodup.sublist (hsub.map _)
    · exact fun p hp => h.filed p (hsub.subset hp)
    · exact fun r' hr' => h.genuine r' (hlive r' hr')
    · exact fun r' hr' => h.known r' (hlive r' hr')
    · intro r' hr'
      have hne : r' ≠ r := by
        rintro rfl
        exact ((mem_live_drop h).mp hr').2 rfl
      rw [(hothers r' (hlive r' hr') hne).2]
      exact h.held r' (hlive r' hr')
    · intro reference hsome
      rw [blobs_drop] at hsome
      split at hsome
      · cases hsome
      · next hne =>
          obtain ⟨r', hr', rfl⟩ := h.owner reference hsome
          refine ⟨r', (hothers r' hr' ?_).1, rfl⟩
          rintro rfl
          exact hne rfl
  · constructor
    · exact hsub
    · intro r' hr' hnot
      refine hothers r' hr' ?_
      rintro rfl
      exact hnot hR
    · intro reference
      rw [blobs_drop]
      split
      · next heq =>
          subst heq
          cases hblob : q.blobs r.quarantineRefDigest with
          | none => exact .inl rfl
          | some payload =>
              obtain ⟨r', hr', href⟩ := h.owner r.quarantineRefDigest
                (by rw [hblob]; rfl)
              have heq := h.eq_of_find htelling hgenuine hknown hfind hr' href
              rw [heq] at hr'
              exact .inr ⟨rfl, r, hr', hR, rfl⟩
      · exact .inl rfl

/-- So do all that are dropped. -/
theorem Owned.dropped (htelling : Telling host known)
    (h : Owned host known q) (hdropped : Dropped R q q')
    (hR : ∀ r, R r → r.Genuine host ∧ r.message ∈ known) :
    Owned host known q' ∧ Kept R q q' := by
  induction hdropped with
  | refl q => exact ⟨h, Kept.refl R q⟩
  | @drop q q' r hr hfind _ ih =>
      obtain ⟨hgenuine, hknown⟩ := hR r hr
      obtain ⟨howned, hkept⟩ := h.drop htelling hr hgenuine hknown hfind
      obtain ⟨howned', hkept'⟩ := ih howned
      exact ⟨howned', hkept.trans hkept'⟩

/-- A sweep drops what is live. -/
theorem Owned.swept (htelling : Telling host known) (h : Owned host known q)
    {now : Int} (hdropped : Dropped (Expired q now) q q') :
    Owned host known q' ∧ Kept (Expired q now) q q' :=
  h.dropped htelling hdropped fun r hr =>
    ⟨h.genuine r hr.1, h.known r hr.1⟩

end Kept

-- ================================================================== filing

section Filing

variable {host : Host} {known : List Bytes} {q q' : Quarantine} {u : Upload}
  {r : LandingInput}

/-- A record that is filed gets a blob of its own, and the others keep
theirs. -/
theorem Owned.filed_record (htelling : Telling host known)
    (h : Owned host known q) (hfiled : Filed host u q r q')
    (hknown : (u.facts host u.payload).message ∈ known) :
    Owned host known q' ∧ r ∈ q'.live
      ∧ ∀ r' ∈ q'.live,
        r' ∈ q.live ∧ q'.blobs r'.quarantineRefDigest
            = q.blobs r'.quarantineRefDigest
          ∨ r' = r ∧ q'.blobs r.quarantineRefDigest = some u.payload := by
  obtain ⟨hmade, hcases⟩ := hfiled
  have hmessage : r.message ∈ known := by
    rw [hmade.facts]
    exact hknown
  have hkey := hmade.key_eq
  rcases hcases with ⟨hfind, rfl⟩ | ⟨hfind, hblob, -⟩ | ⟨hfind, hblob, rfl⟩
  · refine ⟨h, (h.find_iff.mp hfind).1, fun r' hr' => .inl ⟨hr', rfl⟩⟩
  · -- a blob has a record, and that would be under this key
    obtain ⟨r', hr', href⟩ := h.owner r.quarantineRefDigest
      (by rw [hblob]; rfl)
    rw [← hkey] at hfind
    have heq := h.eq_of_find htelling hmade.genuine hmessage (.inl hfind) hr'
      href
    rw [h.find_iff.mpr ⟨hr', congrArg _ (congrArg _ heq)⟩] at hfind
    cases hfind
  · have hlive : ((q.place r.quarantineRefDigest u.payload).insert u.key
        r).live = q.live ++ [r] := by
      unfold Quarantine.live Quarantine.insert Quarantine.place
      exact List.map_append
    have hblobs : ∀ reference,
        ((q.place r.quarantineRefDigest u.payload).insert u.key r).blobs
          reference = if reference = r.quarantineRefDigest
            then some u.payload else q.blobs reference := by
      intro reference
      unfold Quarantine.insert Quarantine.place
      exact Function.update_apply _ _ _ _
    have hold : ∀ r' ∈ q.live,
        ((q.place r.quarantineRefDigest u.payload).insert u.key r).blobs
          r'.quarantineRefDigest = q.blobs r'.quarantineRefDigest := by
      intro r' hr'
      rw [hblobs, if_neg]
      intro href
      have hheld := h.held r' hr'
      rw [href, hblob] at hheld
      cases hheld
    have hmem : ∀ r', r' ∈ ((q.place r.quarantineRefDigest u.payload).insert
        u.key r).live ↔ r' ∈ q.live ∨ r' = r := by
      intro r'
      rw [hlive, List.mem_append, List.mem_singleton]
    refine ⟨⟨?_, ?_, ?_, ?_, ?_, ?_⟩, (hmem r).mpr (.inr rfl), ?_⟩
    · have hfresh : u.key ∉ q.records.map Prod.fst := by
        intro hin
        obtain ⟨p, hp, hpkey⟩ := List.mem_map.mp hin
        have hsome := h.find_iff.mpr
          ⟨List.mem_map_of_mem hp, (h.filed p hp).trans hpkey⟩
        rw [hfind] at hsome
        cases hsome
      unfold Quarantine.insert Quarantine.place
      rw [List.map_append, List.nodup_append]
      refine ⟨h.keys_nodup, List.nodup_singleton _, ?_⟩
      intro a ha b hb heq
      rw [List.map_singleton, List.mem_singleton] at hb
      rw [heq, hb] at ha
      exact hfresh ha
    · intro p hp
      rcases List.mem_append.mp hp with hp | hp
      · exact h.filed p hp
      · rw [List.mem_singleton.mp hp]
        exact hkey
    · intro r' hr'
      rcases (hmem r').mp hr' with hr' | rfl
      · exact h.genuine r' hr'
      · exact hmade.genuine
    · intro r' hr'
      rcases (hmem r').mp hr' with hr' | rfl
      · exact h.known r' hr'
      · exact hmessage
    · intro r' hr'
      rcases (hmem r').mp hr' with hr' | rfl
      · rw [hold r' hr']
        exact h.held r' hr'
      · rw [hblobs, if_pos rfl]
        rfl
    · intro reference hsome
      rw [hblobs] at hsome
      split at hsome
      · next heq => exact ⟨r, (hmem r).mpr (.inr rfl), heq.symm⟩
      · obtain ⟨r', hr', href⟩ := h.owner reference hsome
        exact ⟨r', (hmem r').mpr (.inl hr'), href⟩
    · intro r' hr'
      rcases (hmem r').mp hr' with hr' | rfl
      · exact .inl ⟨hr', hold r' hr'⟩
      · exact .inr ⟨rfl, by rw [hblobs, if_pos rfl]⟩

end Filing

-- =================================================================== runs

/-- What a call makes SHA-256 tell apart. -/
def Call.hashed (host : Host) : Call → List Bytes
  | .accept _ _ u => [u.payload, (u.facts host u.payload).message]
  | .read _ _ record _ => [record.message]
  | .purge _ record _ => [record.message]

/-- A call that is not one of the two. -/
def Call.Orderly (host : Host) : Call → Prop
  | .accept io _ _ => io .settle = false
  | .read _ _ _ _ => True
  | .purge _ record _ => record.Genuine host

/-- Some bytes were accepted under a record. -/
def Issued (host : Host) (before : List Call) (record : LandingInput)
    (payload : Bytes) : Prop :=
  ∃ pre io now u post, before = pre ++ .accept io now u :: post
    ∧ ((Call.accept io now u).perform host (after host pre)).1
      = .done (.accepted record)
    ∧ u.key = record.key ∧ u.expiresAt = some record.expiresAt
    ∧ u.payload = payload

/-- A record that a clock reading finds expired. -/
def Late (now : Option Int) (r : LandingInput) : Prop :=
  ∃ n, now = some n ∧ r.expiresAt ≤ n

/-- What is promised of a call that is made after some others. -/
structure Promised (host : Host) (before : List Call) (call : Call) :
    Prop where
  tidy : Tidy (after host (before ++ [call])).toQuarantine
  read : ∀ io now record key payload, call = .read io now record key →
    (call.perform host (after host before)).1 = .done (.payload payload) →
      record.key = key ∧ (∃ n, now = some n ∧ n < record.expiresAt)
        ∧ Issued host before record payload
        ∧ ∀ payload', Issued host before record payload' → payload' = payload
  rejected : ∀ io now u e, call = .accept io now u →
    (call.perform host (after host before)).1 = .raised e →
      Kept (Late now) (after host before).toQuarantine
        (after host (before ++ [call])).toQuarantine
  purged : ∀ io record reason, call = .purge io record reason →
    ∀ r ∈ (after host before).live, r ≠ record →
      r ∈ (after host (before ++ [call])).live
        ∧ (after host (before ++ [call])).blobs r.quarantineRefDigest
          = (after host before).blobs r.quarantineRefDigest

theorem after_append (host : Host) (before : List Call) (call : Call) :
    after host (before ++ [call])
      = (call.perform host (after host before)).2 :=
  List.foldl_concat _ _ _ _

theorem Issued.later {host : Host} {before : List Call}
    {record : LandingInput} {payload : Bytes}
    (h : Issued host before record payload) (call : Call) :
    Issued host (before ++ [call]) record payload := by
  obtain ⟨pre, io, now, u, post, rfl, hrest⟩ := h
  refine ⟨pre, io, now, u, post ++ [call], ?_, hrest⟩
  rw [List.append_assoc, List.cons_append]

theorem Kept.mono {R R' : LandingInput → Prop} {q q' : Quarantine}
    (h : Kept R q q') (hR : ∀ r, R r → R' r) : Kept R' q q' where
  records := h.records
  live r hr hnot := h.live r hr fun hr => hnot (hR r hr)
  blobs reference := by
    rcases h.blobs reference with heq | ⟨hnone, r, hr, hmine, href⟩
    · exact .inl heq
    · exact .inr ⟨hnone, r, hr, hR r hmine, href⟩

-- ============================================================== the calls

section Calls

variable {host : Host} {io : Io} {now : Option Int}

theorem perform_accept_meets {u : Upload} (hsettle : io .settle = false)
    (q : Quarantine) :
    Ends (At q) ((Call.accept io now u).perform host)
      (fun a s => ∃ r, a = .accepted r ∧ ∃ n q', now = some n
        ∧ Dropped (Expired q n) q q' ∧ Filed host u q' r s.toQuarantine)
      (fun _ s => s.toQuarantine = q ∨ ∃ n, now = some n
        ∧ Dropped (Expired q n) q s.toQuarantine) :=
  Proc.meets_bind (accept_meets hsettle q) fun r =>
    Proc.meets_pure fun _ h => ⟨r, rfl, h⟩

theorem perform_read_meets {record : LandingInput} {key : Key}
    (q : Quarantine) :
    Ends (At q) ((Call.read io now record key).perform host)
      (fun a s => ∃ payload, a = .payload payload
        ∧ ∃ n, now = some n ∧ n < record.expiresAt
        ∧ record.key = key ∧ q.find key = some record
        ∧ Dropped (Expired q n) q s.toQuarantine
        ∧ s.blobs record.quarantineRefDigest = some payload
        ∧ (host.sha256 payload).text = record.contentSha256)
      (fun _ s => s.toQuarantine = q ∨ ∃ n, now = some n
        ∧ Dropped (Expired q n) q s.toQuarantine) :=
  Proc.meets_bind (read_meets q) fun payload =>
    Proc.meets_pure fun _ h => ⟨payload, rfl, h⟩

theorem perform_purge_meets {record : LandingInput} {reason : String}
    (q : Quarantine) :
    Ends (At q) ((Call.purge io record reason).perform host)
      (fun _ s => Dropped (· = record) q s.toQuarantine)
      (fun _ s => Dropped (· = record) q s.toQuarantine) :=
  Proc.meets_bind (purge_meets q record reason) fun _ =>
    Proc.meets_pure fun _ h => h

end Calls

/-- However a call ends, what holds of both ends holds. -/
theorem Ends.at_end {P : BlobStore → Prop} {α : Type} {c : Action α}
    {Q : α → BlobStore → Prop} {E : Failure → BlobStore → Prop}
    {J : BlobStore → Prop} (h : Ends P c Q E) (hQ : ∀ a s, Q a s → J s)
    (hE : ∀ e s, E e s → J s) {s : BlobStore} (hs : P s) : J (c s).2 := by
  obtain ⟨hdone, hraised, hcut⟩ := h.outcome hs
  cases houtcome : (c s).1 with
  | done a => exact hQ a _ (hdone a houtcome)
  | raised e => exact hE e _ (hraised e houtcome)
  | cut => exact (hcut houtcome).elim

-- =============================================================== the run

/-- The invariant of a run: each live record has its bytes, and they were
accepted under it. -/
structure Traced (host : Host) (known : List Bytes) (before : List Call) :
    Prop where
  owned : Owned host known (after host before).toQuarantine
  issued : ∀ r ∈ (after host before).live, ∃ payload,
    (after host before).blobs r.quarantineRefDigest = some payload
      ∧ Issued host before r payload

section Runs

variable {host : Host} {known : List Bytes} {before : List Call} {call : Call}

theorem traced_nil : Traced host known [] where
  owned := owned_empty
  issued := fun _ h => by cases h

/-- A call that only drops records. -/
theorem Traced.kept {R : LandingInput → Prop}
    (h : Traced host known before)
    (hnext : Owned host known (after host (before ++ [call])).toQuarantine
      ∧ Kept R (after host before).toQuarantine
        (after host (before ++ [call])).toQuarantine) :
    Traced host known (before ++ [call]) where
  owned := hnext.1
  issued r hr := by
    obtain ⟨payload, hblob, hissued⟩ := h.issued r (hnext.2.mem_of_live hr)
    refine ⟨payload, ?_, hissued.later call⟩
    rw [hnext.2.blob_eq hnext.1 hr]
    exact hblob

/-- What a purge leaves. -/
theorem Traced.purged (htelling : Telling host known)
    (h : Traced host known before) {io : Io} {record : LandingInput}
    {reason : String} (hgenuine : record.Genuine host)
    (hknown : record.message ∈ known) :
    Owned host known
        (after host (before ++ [.purge io record reason])).toQuarantine
      ∧ Kept (· = record) (after host before).toQuarantine
        (after host (before ++ [.purge io record reason])).toQuarantine := by
  have hall : ∀ r, r = record → r.Genuine host ∧ r.message ∈ known := by
    rintro r rfl
    exact ⟨hgenuine, hknown⟩
  rw [after_append]
  exact (perform_purge_meets _).at_end
    (fun _ _ hdropped => h.owned.dropped htelling hdropped hall)
    (fun _ _ hdropped => h.owned.dropped htelling hdropped hall) rfl

/-- What a read or a rejected upload leaves. -/
theorem Traced.swept (htelling : Telling host known)
    (h : Traced host known before) {now : Option Int} {q : Quarantine}
    (hq : q = (after host before).toQuarantine ∨ ∃ n, now = some n
      ∧ Dropped (Expired (after host before).toQuarantine n)
        (after host before).toQuarantine q) :
    Owned host known q ∧ Kept (Late now) (after host before).toQuarantine q := by
  rcases hq with rfl | ⟨n, rfl, hdropped⟩
  · exact ⟨h.owned, Kept.refl _ _⟩
  · obtain ⟨howned, hkept⟩ := h.owned.swept htelling hdropped
    exact ⟨howned, hkept.mono fun r hr => ⟨n, rfl, hr.2⟩⟩

theorem Traced.read (htelling : Telling host known)
    (h : Traced host known before) {io : Io} {now : Option Int}
    {record : LandingInput} {key : Key} :
    Owned host known
        (after host (before ++ [.read io now record key])).toQuarantine
      ∧ Kept (Late now) (after host before).toQuarantine
        (after host (before ++ [.read io now record key])).toQuarantine := by
  rw [after_append]
  refine (perform_read_meets _).at_end ?_
    (fun _ _ hq => h.swept htelling hq) rfl
  rintro a s ⟨payload, -, n, hnow, -, -, -, hdropped, -⟩
  exact h.swept htelling (.inr ⟨n, hnow, hdropped⟩)

/-- An upload that is accepted has its bytes under its record. -/
theorem Traced.accepted (htelling : Telling host known)
    (h : Traced host known before) {io : Io} {now : Option Int} {u : Upload}
    (hsettle : io .settle = false)
    (hknown : (u.facts host u.payload).message ∈ known) {r : LandingInput}
    (hdone : ((Call.accept io now u).perform host (after host before)).1
      = .done (.accepted r)) :
    Traced host known (before ++ [.accept io now u]) := by
  obtain ⟨r', hr', n, q', hnow, hdropped, hfiled⟩ :=
    ((perform_accept_meets hsettle _).outcome rfl).1 _ hdone
  cases hr'
  rw [← after_append] at hfiled
  obtain ⟨howned, hkept⟩ := h.owned.swept htelling hdropped
  obtain ⟨howned', -, hall⟩ := howned.filed_record htelling hfiled hknown
  refine ⟨howned', fun r' hr' => ?_⟩
  rcases hall r' hr' with ⟨hold, hblob⟩ | ⟨rfl, hblob⟩
  · obtain ⟨payload, hpayload, hissued⟩ := h.issued r' (hkept.mem_of_live hold)
    refine ⟨payload, ?_, hissued.later _⟩
    rw [hblob, hkept.blob_eq howned hold]
    exact hpayload
  · refine ⟨u.payload, hblob, before, io, now, u, [], rfl, hdone, ?_, ?_, rfl⟩
    · exact hfiled.1.key_eq.symm
    · exact hfiled.1.expiresAt

/-- An orderly call keeps the invariant. -/
theorem Traced.step (htelling : Telling host known)
    (h : Traced host known before) (horderly : call.Orderly host)
    (hknown : ∀ m ∈ call.hashed host, m ∈ known) :
    Traced host known (before ++ [call]) := by
  cases call with
  | accept io now u =>
      cases houtcome : ((Call.accept io now u).perform host
          (after host before)).1 with
      | done a =>
          obtain ⟨r, rfl, -⟩ :=
            ((perform_accept_meets horderly _).outcome rfl).1 _ houtcome
          exact h.accepted htelling horderly
            (hknown _ (List.mem_cons_of_mem _ List.mem_cons_self)) houtcome
      | raised e =>
          have hq := ((perform_accept_meets horderly _).outcome rfl).2.1 _
            houtcome
          rw [← after_append] at hq
          exact h.kept (h.swept htelling hq)
      | cut =>
          exact (((perform_accept_meets horderly _).outcome rfl).2.2
            houtcome).elim
  | read io now record key => exact h.kept (h.read htelling)
  | purge io record reason =>
      exact h.kept (h.purged htelling horderly (hknown _ List.mem_cons_self))

/-- So does an orderly run. -/
theorem traced_run (htelling : Telling host known) {calls : List Call}
    (hall : ∀ call ∈ calls, call.Orderly host
      ∧ ∀ m ∈ call.hashed host, m ∈ known) : Traced host known calls := by
  induction calls using List.reverseRecOn with
  | nil => exact traced_nil
  | append_singleton before call ih =>
      obtain ⟨horderly, hknown⟩ := hall call (by simp)
      exact (ih fun c hc => hall c (List.mem_append_left _ hc)).step htelling
        horderly hknown

end Runs

/-- The bytes of an upload that was accepted have the digest of its
record. -/
theorem digest_of_issued {host : Host} {before : List Call}
    (horderly : ∀ call ∈ before, call.Orderly host) {record : LandingInput}
    {payload : Bytes} (h : Issued host before record payload) :
    (host.sha256 payload).text = record.contentSha256
      ∧ ∃ call ∈ before, payload ∈ call.hashed host := by
  obtain ⟨pre, io, now, u, post, rfl, hdone, -, -, rfl⟩ := h
  have hmem : Call.accept io now u ∈ pre ++ .accept io now u :: post :=
    List.mem_append_right _ List.mem_cons_self
  obtain ⟨r, hr, n, q', -, -, hfiled⟩ :=
    ((perform_accept_meets (horderly _ hmem) _).outcome rfl).1 _ hdone
  cases hr
  refine ⟨?_, _, hmem, List.mem_cons_self⟩
  rw [hfiled.1.facts]
  rfl

/-- Every call of an orderly run keeps what is promised, where SHA-256 tells
apart what the run has hashed. -/
theorem run_promised {host : Host} {calls : List Call}
    (htelling : Telling host (calls.flatMap (·.hashed host)))
    (horderly : ∀ call ∈ calls, call.Orderly host) {before rest : List Call}
    {call : Call} (hcalls : calls = before ++ call :: rest) :
    Promised host before call := by
  have hall : ∀ c ∈ calls, c.Orderly host
      ∧ ∀ m ∈ c.hashed host, m ∈ calls.flatMap (·.hashed host) :=
    fun c hc => ⟨horderly c hc, fun m hm => List.mem_flatMap.mpr ⟨c, hc, hm⟩⟩
  have hbefore : ∀ c ∈ before, c ∈ calls := by
    rw [hcalls]
    exact fun c hc => List.mem_append_left _ hc
  have hcall : call ∈ calls := by
    rw [hcalls]
    exact List.mem_append_right _ List.mem_cons_self
  have htraced := traced_run htelling fun c hc => hall c (hbefore c hc)
  obtain ⟨hmine, hknown⟩ := hall call hcall
  constructor
  · exact (htraced.step htelling hmine hknown).owned.tidy htelling
  · rintro io now record key payload rfl hdone
    obtain ⟨payload', hp, n, hnow, hlive, hkey, hfind, hdropped, hblob,
      hdigest⟩ := ((perform_read_meets _).outcome rfl).1 _ hdone
    cases hp
    obtain ⟨howned, hkept⟩ := htraced.owned.swept htelling hdropped
    obtain ⟨hrecord, -⟩ := htraced.owned.find_iff.mp hfind
    have hstays := (hkept.live record hrecord
      fun hexpired => absurd hexpired.2 (Int.not_le.mpr hlive)).1
    obtain ⟨bytes, hbytes, hissued⟩ := htraced.issued record hrecord
    rw [hkept.blob_eq howned hstays, hbytes] at hblob
    cases hblob
    have hfirst : ∀ c ∈ before, c.Orderly host :=
      fun c hc => horderly c (hbefore c hc)
    refine ⟨hkey, ⟨n, hnow, hlive⟩, hissued, fun payload' hissued' => ?_⟩
    obtain ⟨hsha, c, hc, hin⟩ := digest_of_issued hfirst hissued
    obtain ⟨hsha', c', hc', hin'⟩ := digest_of_issued hfirst hissued'
    apply htelling payload' ((hall c' (hbefore c' hc')).2 _ hin') payload
      ((hall c (hbefore c hc)).2 _ hin)
    exact Factory.Digest.ext_text (hsha'.trans hsha.symm)
  · rintro io now u e rfl hraised
    have hq := ((perform_accept_meets hmine _).outcome rfl).2.1 _ hraised
    rw [← after_append] at hq
    exact (htraced.swept htelling hq).2
  · rintro io record reason rfl r hr hne
    exact (htraced.purged htelling hmine
      (hknown _ List.mem_cons_self)).2.live r hr hne

-- ================================================================ samples

def hiDigest : Factory.Digest where
  text :=
    "8f434346648f6b96df89dda901c5176b10a6d83961dd3c1ac88b59b2dc327aa4".toList
  length_eq := by decide
  hex := by decide

def hiReference : Factory.Digest where
  text :=
    "6de71f195bb49eeb6c9cb3b7b2f200c2d3eb27f846c10883e1cfe8bd45582572".toList
  length_eq := by decide
  hex := by decide

def otherReference : Factory.Digest where
  text :=
    "25f7e75edfee8e796de806d0f5b92f8d4262d516709bb46db12f482f7780644f".toList
  length_eq := by decide
  hex := by decide

def hi : Bytes := Media.ascii "hi"

/-- Two bytes of text from a tenant. -/
def hiUpload (tenant : String) : Upload where
  jobId := "job".toList
  tenantId := tenant.toList
  repositoryId := "repo".toList
  exactBaseSha := List.replicate 40 '0'
  exactBaseTree := List.replicate 40 '0'
  siteId := siteId
  mediaKind := "text"
  mediaType := "text/plain"
  chunks := [.bytes hi]
  receivedAt := some 0
  expiresAt := some 1000000

/-- What they are filed under. -/
def hiFacts (tenant : String) : ReferenceFacts where
  jobId := "job".toList
  tenantId := tenant.toList
  repositoryId := "repo".toList
  exactBaseSha := List.replicate 40 '0'
  exactBaseTree := List.replicate 40 '0'
  mediaKind := "text"
  mediaType := "text/plain"
  byteLength := 2
  contentSha256 := hiDigest.text

def hiRecord (tenant : String) (reference : Factory.Digest) :
    LandingInput where
  toReferenceFacts := hiFacts tenant
  siteId := siteId
  quarantineRefDigest := reference.text
  receivedAt := 0
  expiresAt := 1000000

/-- A host on which the digests are those of the samples. -/
def hiHost : Host where
  sha256 m := if m = hi then hiDigest
    else if m = (hiFacts "tenant").message then hiReference
    else otherReference
  isNfc := fun _ => true
  fromisoformat := fun _ => none
  containsStructuralSecret := fun _ => false
  others := ⟨fun _ => .ok (), fun _ => Media.refuse "pdf_shape",
    fun _ => Media.refuse "docx_shape"⟩

/-- No call of the system raises. -/
def calm : Io := fun _ => false

/-- An upload, and a record that is read. -/
def hiCalls : List Call := [
  .accept calm (some 0) (hiUpload "tenant"),
  .read calm (some 1) (hiRecord "tenant" hiReference)
    (hiRecord "tenant" hiReference).key]

/-- A read after an upload. -/
theorem run_promised_hi : Promised hiHost
    [.accept calm (some 0) (hiUpload "tenant")]
    (.read calm (some 1) (hiRecord "tenant" hiReference)
      (hiRecord "tenant" hiReference).key) := by
  refine @run_promised _ hiCalls ?_ ?_ _ [] _ rfl
  · unfold Telling
    decide +kernel
  · rintro call hcall
    simp only [hiCalls, List.mem_cons, List.not_mem_nil, or_false] at hcall
    rcases hcall with rfl | rfl
    · exact rfl
    · trivial

/-- The system raises after the move of a file. -/
def unsettled : Io := fun point => decide (point = .settle)

/-- A record of another tenant, with the reference of the first. -/
def forged : LandingInput := hiRecord "other" hiReference

/-- A blob without a record, and a purge that takes the blob of a live
record. -/
theorem strays :
    Telling hiHost
        ([.accept calm (some 0) (hiUpload "tenant"),
          .purge calm forged "cancelled"].flatMap (Call.hashed hiHost))
      ∧ ¬ Tidy (after hiHost
        [.accept unsettled (some 0) (hiUpload "tenant")]).toQuarantine
      ∧ ¬ Promised hiHost [.accept calm (some 0) (hiUpload "tenant")]
        (.purge calm forged "cancelled") := by
  refine ⟨?_, ?_, ?_⟩
  · unfold Telling
    decide +kernel
  · intro htidy
    have hnone : (after hiHost [.accept unsettled (some 0)
        (hiUpload "tenant")]).records = [] := by
      decide +kernel
    obtain ⟨r, hr, -⟩ := (htidy.files hiReference.text).mp (by decide +kernel)
    unfold Quarantine.live at hr
    rw [hnone] at hr
    cases hr
  · intro h
    have hkept := h.purged calm forged "cancelled" rfl
      (hiRecord "tenant" hiReference) (by decide +kernel) (by decide)
    revert hkept
    decide +kernel

end Exolon.Landing.Blobs
