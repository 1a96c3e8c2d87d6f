/-
What the digests of an intake tell apart.

The idempotency key is the digest of the work, the intent digest that of
the whole input. Both go through the same steps: a digest is told by its
message, a message by its members (`workMessage_eq_iff`), and the members
by the input they were read from (`sameWork_iff`). The agreement of two
inputs is one of their fields, wherever they stand: objects are compared
name by name, times by their instants.

A rewriting of an input, with its members in another order or its times in
another zone, is the same intake (`Accepts.rewritten`), and there no digest
is needed.
-/
import Exolon.Factory.Rewriting
import Exolon.Semantic.Binding

namespace Exolon.Contracts

open Factory
open Semantic (same_of_members)

-- ============================================================== agreement

/-- `v == v'`, of what an intake may hold: strings, integers, lists of
strings, and `1` however it is written. -/
def equal (v v' : PyJson) : Prop := v = v' ∨ isOne v = true ∧ isOne v' = true

/-- The value under a name of an object, or `None`. -/
def member (value : PyJson) (name : PyStr) : PyJson :=
  (value.get? name).getD .none

/-- Two objects agree in some fields. -/
def SameFields (names : List PyStr) (value value' : PyJson) : Prop :=
  ∀ name ∈ names, equal (member value name) (member value' name)

/-- The fields of the work that are no objects. -/
def plainFields : List PyStr := [
  py "contract_version",
  py "repository_id",
  py "source_type",
  py "source_id",
  py "source_digest",
  py "route_id",
  py "change_id",
  py "exact_base_sha",
  py "spec_digest",
  py "policy_digest",
  py "acceptance_ids"]

/-- Every field but `request_id` and `m0_authority`. -/
structure SameWork (data data' : PyJson) : Prop where
  plain : SameFields plainFields data data'
  architecture : SameFields ArchitectureHandoffV1.fields
    (field data "architecture") (field data' "architecture")
  governance : SameFields GovernanceHandoffV1.fields
    (field data "governance") (field data' "governance")
  limits : SameFields TaskLimitsV1.fields
    (field data "limits") (field data' "limits")

/-- The other fields of both forms of an authority. -/
def authorityTexts : List PyStr := [
  py "check_name",
  py "exact_head_sha",
  py "bootstrap_exception",
  py "issuer",
  py "scope"]

/-- Authorities agree, their times as instants. -/
structure SameAuthority (rt : IntakeRuntime) (value value' : PyJson) :
    Prop where
  texts : SameFields authorityTexts value value'
  times : ∀ name ∈ authorityTimes,
    instantOf rt (member value name) = instantOf rt (member value' name)

/-- Every field. -/
structure SameInput (rt : IntakeRuntime) (data data' : PyJson) : Prop
    extends SameWork data data' where
  requestId : equal (field data "request_id") (field data' "request_id")
  authority : SameAuthority rt (field data "m0_authority")
    (field data' "m0_authority")

/-- The fields of an intake are those that are compared. -/
example : (py "request_id" :: py "m0_authority" :: py "architecture"
    :: py "governance" :: py "limits" :: plainFields).Perm
      TaskIntakeV1.inputFields := by
  decide

-- ================================================================= values

section Values

variable {value value' : PyJson} {t t' : Text} {name : String}

theorem equal_strOf : equal (strOf t) (strOf t') ↔ t = t' := by
  unfold equal
  rw [strOf_inj]
  exact or_iff_left fun h => by cases h.1

theorem equal_listOf {ts ts' : List Text} :
    equal (listOf ts) (listOf ts') ↔ ts = ts' := by
  unfold equal
  rw [listOf_inj]
  exact or_iff_left fun h => by cases h.1

theorem equal_int {n n' : Nat} :
    equal (.int n) (.int n') ↔ n = n' := by
  have hone {k : Nat} (h : isOne (.int k) = true) : k = 1 := by
    unfold isOne at h
    split at h
    · next heq => exact Int.ofNat.inj (PyJson.int.inj heq)
    · next heq => cases heq
    · next heq => cases heq
    · cases h
  constructor
  · rintro (h | ⟨h, h'⟩)
    · exact Int.ofNat.inj (PyJson.int.inj h)
    · rw [hone h, hone h']
  · rintro rfl
    exact .inl rfl

theorem equal_ones (h : isOne value = true) (h' : isOne value' = true) :
    equal value value' := .inr ⟨h, h'⟩

theorem text_inj {d d' : Digest} : d.text = d'.text ↔ d = d' :=
  ⟨Digest.ext_text, congrArg Digest.text⟩

/-- A name that an object does not have. -/
theorem Opens.absent {names : List PyStr} (h : Opens names value)
    (name : PyStr) (hname : name ∉ names) : member value name = .none := by
  obtain ⟨⟨members, rfl⟩, hclosed⟩ := h
  obtain ⟨items, hitems, hset⟩ := closedSet_eq_ok.mp hclosed
  cases Except.ok.inj hitems
  unfold M0AuthorityV1.isSet at hset
  rw [Bool.and_eq_true, List.all_eq_true] at hset
  have hnone : members.lookup name = none := by
    rw [List.lookup_eq_none_iff]
    intro member hmember
    obtain ⟨s, hs, heq⟩ := isNamed_iff.mp
      (hset.1 _ (List.mem_map_of_mem hmember))
    cases heq
    rw [bne_iff_ne]
    rintro rfl
    exact hname hs
  unfold member PyJson.get?
  dsimp only
  rw [hnone]
  rfl

section Answers

variable {rt : IntakeRuntime} {name' : String}

theorem same_identifier (h : identifier rt value name = .ok t)
    (h' : identifier rt value' name' = .ok t') :
    equal value value' ↔ t = t' := by
  rw [of_identifier h, of_identifier h', equal_strOf]

theorem same_text {m m' : Nat} (h : text rt value name m = .ok t)
    (h' : text rt value' name' m' = .ok t') :
    equal value value' ↔ t = t' := by
  rw [of_text h, of_text h', equal_strOf]

theorem same_sha (h : sha value name = .ok t) (h' : sha value' name' = .ok t') :
    equal value value' ↔ t = t' := by
  rw [of_sha h, of_sha h', equal_strOf]

theorem same_digest {d d' : Digest} (h : digest value name = .ok d)
    (h' : digest value' name' = .ok d') : equal value value' ↔ d = d' := by
  rw [of_digest h, of_digest h', equal_strOf, text_inj]

theorem same_sourceType (h : sourceType value = .ok t)
    (h' : sourceType value' = .ok t') : equal value value' ↔ t = t' := by
  rw [of_sourceType h, of_sourceType h', equal_strOf]

theorem same_acceptance {ids ids' : List Text}
    (h : acceptance value = .ok ids) (h' : acceptance value' = .ok ids') :
    equal value value' ↔ ids = ids' := by
  rw [of_acceptance h, of_acceptance h', equal_listOf]

theorem same_time {u u' : Timestamp} (h : time rt value name = .ok u)
    (h' : time rt value' name = .ok u') :
    instantOf rt value = instantOf rt value' ↔ u = u' := by
  constructor
  · intro heq
    exact Except.ok.inj ((time_of_instantOf heq h).symm.trans h')
  · rintro rfl
    rw [of_time h, of_time h']

end Answers

end Values

-- ================================================================ records

section Records

variable {value value' : PyJson}

theorem ArchitectureHandoffV1.same_iff {a a' : ArchitectureHandoffV1}
    (h : fromDict value = .ok a) (h' : fromDict value' = .ok a') :
    SameFields fields value value' ↔ a = a' := by
  obtain ⟨_, hone, hd, he, hb, hc⟩ := fromDict_eq_ok.mp h
  obtain ⟨_, hone', hd', he', hb', hc'⟩ := fromDict_eq_ok.mp h'
  have hfields : SameFields fields value value'
      ↔ a.architectureDigest = a'.architectureDigest
        ∧ a.architectureEvidenceDigest = a'.architectureEvidenceDigest
        ∧ a.exactBaseSha = a'.exactBaseSha
        ∧ a.exactHeadSha = a'.exactHeadSha := by
    rw [← same_digest hd hd', ← same_digest he he', ← same_sha hb hb',
      ← same_sha hc hc']
    unfold SameFields fields
    simp only [List.forall_mem_cons]
    constructor
    · rintro ⟨_, hd, he, hb, hc, _⟩
      exact ⟨hd, he, hb, hc⟩
    · rintro ⟨hd, he, hb, hc⟩
      exact ⟨equal_ones hone hone', hd, he, hb, hc, List.forall_mem_nil _⟩
  rw [hfields]
  cases a
  cases a'
  simp only [mk.injEq]

theorem GovernanceHandoffV1.same_iff {g g' : GovernanceHandoffV1}
    (h : fromDict value = .ok g) (h' : fromDict value' = .ok g') :
    SameFields fields value value' ↔ g = g' := by
  obtain ⟨_, hone, hd, he, ha, hb, hc⟩ := fromDict_eq_ok.mp h
  obtain ⟨_, hone', hd', he', ha', hb', hc'⟩ := fromDict_eq_ok.mp h'
  have hfields : SameFields fields value value'
      ↔ g.governanceDigest = g'.governanceDigest
        ∧ g.governanceEvidenceDigest = g'.governanceEvidenceDigest
        ∧ g.architectureDigest = g'.architectureDigest
        ∧ g.exactBaseSha = g'.exactBaseSha
        ∧ g.exactHeadSha = g'.exactHeadSha := by
    rw [← same_digest hd hd', ← same_digest he he', ← same_digest ha ha',
      ← same_sha hb hb', ← same_sha hc hc']
    unfold SameFields fields
    simp only [List.forall_mem_cons]
    constructor
    · rintro ⟨_, hd, he, ha, hb, hc, _⟩
      exact ⟨hd, he, ha, hb, hc⟩
    · rintro ⟨hd, he, ha, hb, hc⟩
      exact ⟨equal_ones hone hone', hd, he, ha, hb, hc,
        List.forall_mem_nil _⟩
  rw [hfields]
  cases g
  cases g'
  simp only [mk.injEq]

theorem TaskLimitsV1.same_iff {l l' : TaskLimitsV1}
    (h : ofValue value = .ok l) (h' : ofValue value' = .ok l') :
    SameFields fields value value' ↔ l = l' := by
  have hread {v : PyJson} {l : TaskLimitsV1} (h : ofValue v = .ok l) :
      ∀ m ∈ l.toDict, member v m.1 = m.2 := by
    intro m hm
    unfold member
    rw [(ofValue_eq_ok.mp h).2 m hm]
    rfl
  have hl := hread h
  have hl' := hread h'
  simp only [toDict, List.forall_mem_cons] at hl hl'
  obtain ⟨h₁, h₂, h₃, h₄, h₅, h₆, h₇, _⟩ := hl
  obtain ⟨h₁', h₂', h₃', h₄', h₅', h₆', h₇', _⟩ := hl'
  unfold SameFields fields
  simp only [List.forall_mem_cons, h₁, h₂, h₃, h₄, h₅, h₆, h₇, h₁', h₂', h₃',
    h₄', h₅', h₆', h₇', equal_int]
  cases l
  cases l'
  simp only [mk.injEq]
  constructor
  · rintro ⟨h₁, h₂, h₃, h₄, h₅, h₆, h₇, _⟩
    exact ⟨h₁, h₂, h₃, h₄, h₅, h₆, h₇⟩
  · rintro ⟨h₁, h₂, h₃, h₄, h₅, h₆, h₇⟩
    exact ⟨h₁, h₂, h₃, h₄, h₅, h₆, h₇, List.forall_mem_nil _⟩

variable {rt : IntakeRuntime} {now now' : Timestamp}

/-- An authority of the one form has nothing of the other. -/
theorem equal_none {t : Text} : ¬ equal (strOf t) .none := by
  rintro (h | ⟨h, _⟩)
  · cases h
  · cases h

theorem M0AuthorityV1.same_iff {a a' : M0AuthorityV1}
    (h : fromDict rt now value = .ok a)
    (h' : fromDict rt now' value' = .ok a') :
    SameAuthority rt value value' ↔ a = a' := by
  rw [fromDict_eq_ok] at h h'
  cases a with
  | observed t c s =>
      obtain ⟨hopens, ht, _, hc, _, hs⟩ := h
      cases a' with
      | observed t' c' s' =>
          obtain ⟨hopens', ht', _, hc', _, hs'⟩ := h'
          rw [observed.injEq, ← same_time ht ht', ← same_text hc hc',
            ← same_sha hs hs']
          constructor
          · rintro ⟨htexts, htimes⟩
            exact ⟨htimes _ (by decide), htexts _ (by decide),
              htexts _ (by decide)⟩
          · rintro ⟨htime, hcheck, hhead⟩
            refine ⟨?_, ?_⟩
            · unfold SameFields authorityTexts
              simp only [List.forall_mem_cons]
              rw [hopens.absent (py "bootstrap_exception")
                  (by decide),
                hopens.absent (py "issuer") (by decide),
                hopens.absent (py "scope") (by decide),
                hopens'.absent (py "bootstrap_exception")
                  (by decide),
                hopens'.absent (py "issuer") (by decide),
                hopens'.absent (py "scope") (by decide)]
              exact ⟨hcheck, hhead, .inl rfl, .inl rfl, .inl rfl,
                List.forall_mem_nil _⟩
            · unfold authorityTimes
              simp only [List.forall_mem_cons]
              rw [hopens.absent (py "expires_at") (by decide),
                hopens'.absent (py "expires_at") (by decide)]
              exact ⟨htime, rfl, List.forall_mem_nil _⟩
      | exception b' i' s' t' =>
          refine iff_of_false ?_ (fun h => by cases h)
          intro hsame
          have hcheck := hsame.texts (py "check_name") (by decide)
          rw [h'.1.absent _ (by decide)] at hcheck
          have hstr : member value (py "check_name") = strOf c := of_text hc
          rw [hstr] at hcheck
          exact equal_none hcheck
  | exception b i s t =>
      obtain ⟨hopens, ht, _, hb, hi, hs⟩ := h
      cases a' with
      | observed t' c' s' =>
          refine iff_of_false ?_ (fun h => by cases h)
          intro hsame
          have hissuer := hsame.texts (py "issuer") (by decide)
          rw [h'.1.absent _ (by decide)] at hissuer
          have hstr : member value (py "issuer") = strOf i := of_identifier hi
          rw [hstr] at hissuer
          exact equal_none hissuer
      | exception b' i' s' t' =>
          obtain ⟨hopens', ht', _, hb', hi', hs'⟩ := h'
          rw [exception.injEq, ← same_time ht ht', ← same_identifier hb hb',
            ← same_identifier hi hi', ← same_identifier hs hs']
          constructor
          · rintro ⟨htexts, htimes⟩
            exact ⟨htexts _ (by decide), htexts _ (by decide),
              htexts _ (by decide), htimes _ (by decide)⟩
          · rintro ⟨hboot, hissuer, hscope, htime⟩
            refine ⟨?_, ?_⟩
            · unfold SameFields authorityTexts
              simp only [List.forall_mem_cons]
              rw [hopens.absent (py "check_name") (by decide),
                hopens.absent (py "exact_head_sha") (by decide),
                hopens'.absent (py "check_name") (by decide),
                hopens'.absent (py "exact_head_sha") (by decide)]
              exact ⟨.inl rfl, .inl rfl, hboot, hissuer, hscope,
                List.forall_mem_nil _⟩
            · unfold authorityTimes
              simp only [List.forall_mem_cons]
              rw [hopens.absent (py "observed_at") (by decide),
                hopens'.absent (py "observed_at") (by decide)]
              exact ⟨rfl, htime, List.forall_mem_nil _⟩

end Records

-- =============================================================== the work

namespace TaskIntakeV1

open Normalized

/-- Two intakes have the same work. -/
structure WorkEq (n n' : Normalized) : Prop where
  repositoryId : n.repositoryId = n'.repositoryId
  sourceType : n.sourceType = n'.sourceType
  sourceId : n.sourceId = n'.sourceId
  sourceDigest : n.sourceDigest = n'.sourceDigest
  routeId : n.routeId = n'.routeId
  changeId : n.changeId = n'.changeId
  exactBaseSha : n.exactBaseSha = n'.exactBaseSha
  specDigest : n.specDigest = n'.specDigest
  architecture : n.architecture = n'.architecture
  governance : n.governance = n'.governance
  policyDigest : n.policyDigest = n'.policyDigest
  acceptanceIds : n.acceptanceIds = n'.acceptanceIds
  limits : n.limits = n'.limits

section Inputs

variable {rt : IntakeRuntime} {now now' : Timestamp} {data data' : PyJson}
  {n n' : Normalized}

theorem sameWork_iff (h : Accepts rt now data n)
    (h' : Accepts rt now' data' n') : SameWork data data' ↔ WorkEq n n' := by
  have hrepository := same_identifier h.repositoryId h'.repositoryId
  have htype := same_sourceType h.sourceType h'.sourceType
  have hsource := same_identifier h.sourceId h'.sourceId
  have hdigest := same_digest h.sourceDigest h'.sourceDigest
  have hroute := same_identifier h.routeId h'.routeId
  have hchange := same_identifier h.changeId h'.changeId
  have hbase := same_sha h.exactBaseSha h'.exactBaseSha
  have hspec := same_digest h.specDigest h'.specDigest
  have hpolicy := same_digest h.policyDigest h'.policyDigest
  have hids := same_acceptance h.acceptanceIds h'.acceptanceIds
  have harchitecture := ArchitectureHandoffV1.same_iff h.architecture
    h'.architecture
  have hgovernance := GovernanceHandoffV1.same_iff h.governance h'.governance
  have hlimits := TaskLimitsV1.same_iff h.limits h'.limits
  constructor
  · rintro ⟨hplain, ha, hg, hl⟩
    exact {
      repositoryId := hrepository.mp (hplain _ (by decide))
      sourceType := htype.mp (hplain _ (by decide))
      sourceId := hsource.mp (hplain _ (by decide))
      sourceDigest := hdigest.mp (hplain _ (by decide))
      routeId := hroute.mp (hplain _ (by decide))
      changeId := hchange.mp (hplain _ (by decide))
      exactBaseSha := hbase.mp (hplain _ (by decide))
      specDigest := hspec.mp (hplain _ (by decide))
      architecture := harchitecture.mp ha
      governance := hgovernance.mp hg
      policyDigest := hpolicy.mp (hplain _ (by decide))
      acceptanceIds := hids.mp (hplain _ (by decide))
      limits := hlimits.mp hl }
  · intro hwork
    refine ⟨?_, harchitecture.mpr hwork.architecture,
      hgovernance.mpr hwork.governance, hlimits.mpr hwork.limits⟩
    unfold SameFields plainFields
    simp only [List.forall_mem_cons]
    exact ⟨equal_ones h.version h'.version,
      hrepository.mpr hwork.repositoryId, htype.mpr hwork.sourceType,
      hsource.mpr hwork.sourceId, hdigest.mpr hwork.sourceDigest,
      hroute.mpr hwork.routeId, hchange.mpr hwork.changeId,
      hbase.mpr hwork.exactBaseSha, hspec.mpr hwork.specDigest,
      hpolicy.mpr hwork.policyDigest, hids.mpr hwork.acceptanceIds,
      List.forall_mem_nil _⟩

theorem sameInput_iff (h : Accepts rt now data n)
    (h' : Accepts rt now' data' n') :
    SameInput rt data data' ↔ WorkEq n n' ∧ n.requestId = n'.requestId
      ∧ n.m0Authority = n'.m0Authority := by
  rw [← sameWork_iff h h', ← same_identifier h.requestId h'.requestId,
    ← M0AuthorityV1.same_iff h.authority h'.authority]
  constructor
  · rintro ⟨hwork, hrequest, hauthority⟩
    exact ⟨hwork, hrequest, hauthority⟩
  · rintro ⟨hwork, hrequest, hauthority⟩
    exact ⟨hwork, hrequest, hauthority⟩

end Inputs

-- =============================================================== messages

section Messages

variable {α : Type} {fields : List (Member α)} {a b : α}

/-- Records have one message when they agree in every member. -/
theorem message_eq_iff (hnodup : (fields.map Member.name).Nodup)
    (hwhole : ∀ f ∈ fields, f.Whole) :
    utf8 (canonicalJson (Json.members fields a))
        = utf8 (canonicalJson (Json.members fields b))
      ↔ ∀ f ∈ fields, f.same a b := by
  constructor
  · exact same_of_members hnodup
  · intro h
    rw [Json.members_congr hwhole h]

end Messages

variable {n n' : Normalized}

theorem same_architectureFields :
    (∀ f ∈ architectureFields, f.same n n')
      ↔ n.architecture = n'.architecture := by
  unfold architectureFields
  simp only [List.forall_mem_cons, Member.same_of, text_inj]
  generalize n.architecture = a
  generalize n'.architecture = a'
  cases a
  cases a'
  simp

theorem same_governanceFields :
    (∀ f ∈ governanceFields, f.same n n')
      ↔ n.governance = n'.governance := by
  unfold governanceFields
  simp only [List.forall_mem_cons, Member.same_of, text_inj]
  generalize n.governance = g
  generalize n'.governance = g'
  cases g
  cases g'
  simp

theorem same_limitsFields :
    (∀ f ∈ limitsFields, f.same n n') ↔ n.limits = n'.limits := by
  unfold limitsFields
  simp only [List.forall_mem_cons, Member.same_of]
  generalize n.limits = l
  generalize n'.limits = l'
  cases l
  cases l'
  simp

theorem same_authorityFields :
    (∀ f ∈ authorityFields, f.same n n')
      ↔ n.m0Authority = n'.m0Authority := by
  unfold authorityFields
  simp only [List.forall_mem_cons, Member.same_of]
  generalize n.m0Authority = a
  generalize n'.m0Authority = a'
  have hiso {t t' : Timestamp} : t.isoformat = t'.isoformat ↔ t = t' :=
    ⟨Timestamp.isoformat_inj, congrArg _⟩
  cases a with
  | observed t c s =>
      cases a' with
      | observed t' c' s' =>
          simp [M0AuthorityV1.checkName, M0AuthorityV1.exactHeadSha, hiso]
      | exception b' i' s' t' => simp
  | exception b i s t =>
      cases a' with
      | observed t' c' s' => simp
      | exception b' i' s' t' =>
          simp [M0AuthorityV1.checkName, M0AuthorityV1.exactHeadSha, hiso]

theorem same_workFields : (∀ f ∈ workFields, f.same n n') ↔ WorkEq n n' := by
  unfold workFields
  simp only [List.forall_mem_cons, Member.same_of, Member.same_nested,
    same_architectureFields, same_governanceFields, same_limitsFields,
    text_inj]
  constructor
  · rintro ⟨_, hrepository, htype, hsource, hdigest, hroute, hchange, hbase,
      hspec, harchitecture, hgovernance, hpolicy, hids, hlimits, _⟩
    exact ⟨hrepository, htype, hsource, hdigest, hroute, hchange, hbase,
      hspec, harchitecture, hgovernance, hpolicy, hids, hlimits⟩
  · intro h
    exact ⟨trivial, h.repositoryId, h.sourceType, h.sourceId, h.sourceDigest,
      h.routeId, h.changeId, h.exactBaseSha, h.specDigest, h.architecture,
      h.governance, h.policyDigest, h.acceptanceIds, h.limits,
      List.forall_mem_nil _⟩

-- ================================================================= wholes

theorem whole_workFields : ∀ f ∈ workFields, f.Whole := by
  have hofs {fields : List (Member Normalized)}
      (h : ∀ f ∈ fields, f.Whole) (hnodup : (fields.map Member.name).Nodup)
      (name : String) : (Member.nested name fields hnodup).Whole :=
    Member.whole_nested hnodup h
  unfold workFields
  simp only [List.forall_mem_cons]
  refine ⟨Member.whole_of _ _, Member.whole_of _ _, Member.whole_of _ _,
    Member.whole_of _ _, Member.whole_of _ _, Member.whole_of _ _,
    Member.whole_of _ _, Member.whole_of _ _, Member.whole_of _ _,
    hofs ?_ _ _, hofs ?_ _ _, Member.whole_of _ _, Member.whole_of _ _,
    hofs ?_ _ _, List.forall_mem_nil _⟩
  · unfold architectureFields
    simp [Member.whole_of]
  · unfold governanceFields
    simp [Member.whole_of]
  · unfold limitsFields
    simp [Member.whole_of]

theorem whole_fields : ∀ f ∈ fields, f.Whole := by
  unfold fields
  simp only [List.forall_mem_cons]
  refine ⟨Member.whole_of _ _, Member.whole_nested _ ?_, whole_workFields⟩
  unfold authorityFields
  simp [Member.whole_of]

theorem workMessage_eq_iff : n.workMessage = n'.workMessage ↔ WorkEq n n' := by
  have hwhole : ∀ f ∈ workIdentityFields, f.Whole := by
    unfold workIdentityFields
    simp only [List.forall_mem_cons]
    exact ⟨Member.whole_const _ _, Member.whole_nested _ whole_workFields,
      List.forall_mem_nil _⟩
  unfold workMessage
  rw [message_eq_iff (by decide) hwhole, ← same_workFields]
  unfold workIdentityFields
  simp only [List.forall_mem_cons, Member.same_const, Member.same_nested]
  constructor
  · rintro ⟨_, h, _⟩
    exact h
  · intro h
    exact ⟨trivial, h, List.forall_mem_nil _⟩

theorem intentMessage_eq_iff : n.intentMessage = n'.intentMessage
    ↔ WorkEq n n' ∧ n.requestId = n'.requestId
      ∧ n.m0Authority = n'.m0Authority := by
  unfold intentMessage
  rw [message_eq_iff (by decide) whole_fields, ← same_workFields,
    ← same_authorityFields]
  unfold fields
  simp only [List.forall_mem_cons, Member.same_of, Member.same_nested]
  constructor
  · rintro ⟨hrequest, hauthority, hwork⟩
    exact ⟨hwork, hrequest, hauthority⟩
  · rintro ⟨hwork, hrequest, hauthority⟩
    exact ⟨hrequest, hauthority, hwork⟩

end TaskIntakeV1

-- ================================================================ identity

namespace TaskIntakeV1

/-- The values that the digests of an intake are of. -/
def values (i : TaskIntakeV1) : Normalized where
  architecture := i.architecture
  governance := i.governance
  m0Authority := i.m0Authority
  policyDigest := i.policyDigest
  acceptanceIds := i.acceptanceIds
  sourceType := i.sourceType
  requestId := i.requestId
  repositoryId := i.repositoryId
  sourceId := i.sourceId
  sourceDigest := i.sourceDigest
  routeId := i.routeId
  changeId := i.changeId
  exactBaseSha := i.exactBaseSha
  specDigest := i.specDigest
  limits := i.limits

/-- The messages that an intake has digests of. -/
def messages (i : TaskIntakeV1) : List (List UInt8) :=
  [i.values.workMessage, i.values.intentMessage]

variable {rt : IntakeRuntime} {now now' : Timestamp} {data data' : PyJson}
  {i i' : TaskIntakeV1}

theorem fromDict_eq_ok : fromDict rt now data = .ok i
    ↔ Accepts rt now data i.values ∧ i = i.values.intake rt := by
  unfold fromDict
  rw [Transaction.bind_eq_ok, ← normalized_eq_ok]
  constructor
  · rintro ⟨n, hn, h⟩
    cases h
    exact ⟨hn, rfl⟩
  · rintro ⟨hn, h⟩
    exact ⟨i.values, hn, by rw [← h]⟩

theorem digests_of_ok (h : fromDict rt now data = .ok i) :
    i.idempotencyKey = rt.sha256 i.values.workMessage
      ∧ i.intentDigest = rt.sha256 i.values.intentMessage := by
  obtain ⟨_, hi⟩ := fromDict_eq_ok.mp h
  refine ⟨?_, ?_⟩
  · rw [hi]
    rfl
  · rw [hi]
    rfl

/-- The idempotency key tells the work, the intent digest the whole input;
and neither the order of members nor the zone of a time is part of it. -/
theorem identity_exact (h : fromDict rt now data = .ok i)
    (h' : fromDict rt now' data' = .ok i')
    (hsha : ∀ m ∈ i.messages, ∀ m' ∈ i'.messages,
      rt.sha256 m = rt.sha256 m' → m = m') :
    (i.idempotencyKey = i'.idempotencyKey ↔ SameWork data data')
      ∧ (i.intentDigest = i'.intentDigest ↔ SameInput rt data data')
      ∧ ∀ data'', Rewritten (RewrittenField rt) data data'' →
        fromDict rt now data'' = .ok i := by
  obtain ⟨hkey, hintent⟩ := digests_of_ok h
  obtain ⟨hkey', hintent'⟩ := digests_of_ok h'
  obtain ⟨haccepts, hi⟩ := fromDict_eq_ok.mp h
  obtain ⟨haccepts', _⟩ := fromDict_eq_ok.mp h'
  refine ⟨?_, ?_, ?_⟩
  · rw [sameWork_iff haccepts haccepts', ← workMessage_eq_iff, hkey, hkey']
    exact ⟨hsha _ (by simp [messages]) _ (by simp [messages]),
      congrArg rt.sha256⟩
  · rw [sameInput_iff haccepts haccepts', ← intentMessage_eq_iff, hintent,
      hintent']
    exact ⟨hsha _ (by simp [messages]) _ (by simp [messages]),
      congrArg rt.sha256⟩
  · intro data'' hrewritten
    exact fromDict_eq_ok.mpr ⟨haccepts.rewritten hrewritten, hi⟩

/-- The messages of an accepted intake. -/
def messagesOf : Except Raised TaskIntakeV1 → List (List UInt8)
  | .ok i => i.messages
  | .error _ => []

/-- A request twice, by another id and with its time in another zone: one
work, and two inputs. -/
theorem identity_exact_twice :
    let data := requestOf (py "r1") (py "2026-01-02T00:00:00Z")
    let data' := requestOf (py "other") (py "2026-01-02T01:00:00+01:00")
    SameWork data data' ∧ ¬ SameInput sampleRuntime data data' := by
  intro data data'
  have hmessages : (messagesOf
        (fromDict sampleRuntime firstNoon data)).map List.length
          = [1474, 1616]
      ∧ (messagesOf (fromDict sampleRuntime firstNoon data')).map List.length
          = [1474, 1619]
      ∧ (messagesOf (fromDict sampleRuntime firstNoon data))[0]?
        = (messagesOf (fromDict sampleRuntime firstNoon data'))[0]? := by
    decide +kernel
  clear_value data data'
  cases h : fromDict sampleRuntime firstNoon data with
  | error e =>
      rw [h] at hmessages
      cases hmessages.1
  | ok i =>
  cases h' : fromDict sampleRuntime firstNoon data' with
  | error e =>
      rw [h'] at hmessages
      cases hmessages.2.1
  | ok i' =>
      rw [h, h'] at hmessages
      simp only [messagesOf, messages, List.map_cons, List.map_nil,
        List.cons.injEq, and_true, List.getElem?_cons_zero,
        Option.some.injEq] at hmessages
      obtain ⟨⟨hwork, hintent⟩, ⟨hwork', hintent'⟩, hsame⟩ := hmessages
      have hdigest : threeMessages i.values.intentMessage
          ≠ threeMessages i'.values.intentMessage := by
        unfold threeMessages
        rw [hintent, hintent']
        decide
      have hcross {m m' : List UInt8} (hm : m.length = 1474)
          (hm' : m'.length = 1616 ∨ m'.length = 1619) :
          threeMessages m ≠ threeMessages m' := by
        unfold threeMessages
        rcases hm' with hm' | hm'
        · rw [hm, hm']
          decide
        · rw [hm, hm']
          decide
      have hsha : ∀ m ∈ i.messages, ∀ m' ∈ i'.messages,
          threeMessages m = threeMessages m' → m = m' := by
        simp only [messages, List.forall_mem_cons]
        refine ⟨⟨fun _ => hsame, fun heq => ?_, List.forall_mem_nil _⟩,
          ⟨fun heq => ?_, fun heq => absurd heq hdigest,
            List.forall_mem_nil _⟩, List.forall_mem_nil _⟩
        · exact absurd heq (hcross hwork (.inr hintent'))
        · exact absurd heq.symm (hcross hwork' (.inl hintent))
      obtain ⟨hkeys, hintents, _⟩ := identity_exact h h' hsha
      obtain ⟨hkey, hintentDigest⟩ := digests_of_ok h
      obtain ⟨hkey', hintentDigest'⟩ := digests_of_ok h'
      have hruntime : sampleRuntime.sha256 = threeMessages := rfl
      rw [← hkeys, ← hintents, hkey, hkey', hintentDigest, hintentDigest',
        hruntime]
      exact ⟨congrArg threeMessages hsame, hdigest⟩

end TaskIntakeV1

end Exolon.Contracts
