/-
Adjudication: one verdict over the findings and the coverage reports of a
subject.

The source counts and groups in dictionaries and then sorts their keys.
What comes out is read here as a set: the sets grow with what is found
(`contradictions_mono` and the others), and they do not depend on the order
it was found in. The verdict's own contract asks for sorted lists of at most
256 digests and references; the sets are sorted, and no greater than the
findings or the requirements they are taken from (`verdictOf_accepted`).
-/
import Exolon.Semantic.Subject

namespace Exolon.Semantic.Review

open Factory (ContractError refuse refuse_ok bind_ok)

/-- `HUMAN_CATEGORIES` -/
def humanCategories : List Category :=
  [.securityBoundary, .authorityViolation, .contradiction]

section

variable (rt : Runtime) (findings : List SemanticFindingV1)
  (coverages : List SemanticCoverageV1)

-- ============================================================ the findings

/-- The identities of the findings, one for each. -/
def identities : List Text := findings.map (·.identityDigest rt)

/-- `duplicates` -/
def duplicates : Finset Text :=
  (identities rt findings).toFinset.filter fun identity =>
    1 < (identities rt findings).count identity

/-- The requirements that something was found about. -/
def foundKeys : List Text := findings.map (·.requirement.key)

/-- `identities_by_requirement` -/
def identitiesByRequirement (requirement : Text) : Finset Text :=
  (identities rt
    (findings.filter fun f => f.requirement.key = requirement)).toFinset

/-- `correlations` -/
def correlations : Finset Text :=
  (foundKeys findings).toFinset.filter fun requirement =>
    1 < (identitiesByRequirement rt findings requirement).card

/-- Some finding is for a human. -/
def humanFinding : Bool :=
  findings.any fun f => !f.repairable || humanCategories.contains f.category

-- ============================================================= the reports

/-- The entries of all reports. -/
def entriesOf : List CoverageEntryV1 := coverages.flatMap (·.entries)

/-- `statuses` -/
def statuses (requirement : Text) : Finset CoverageStatus :=
  ((entriesOf coverages).filter fun e => e.key = requirement).map
    (·.status) |>.toFinset

/-- `contradictions` -/
def contradictions : Finset Text :=
  ((entriesOf coverages).map (·.key)).toFinset.filter fun requirement =>
    1 < (statuses coverages requirement).card
      ∨ .contradicted ∈ statuses coverages requirement

/-- An entry that passes what it should not. -/
def isUnsupported (e : CoverageEntryV1) : Bool :=
  (e.status = .proven
      && (e.evidenceRefs.isEmpty || (foundKeys findings).contains e.key))
    || e.status = .outOfScope

/-- `unsupported` -/
def unsupported : Finset Text :=
  ((entriesOf coverages).filter (isUnsupported findings)).map
    (·.key) |>.toFinset

-- ============================================================= the verdict

/-- `requires_human` -/
def requiresHuman : Bool :=
  contradictions coverages ≠ ∅ || unsupported findings coverages ≠ ∅
    || humanFinding findings

/-- `requires_repair` -/
def requiresRepair : Bool :=
  identities rt findings ≠ []
    || (entriesOf coverages).any fun e => e.status ≠ .proven

/-- `decision` -/
def decision : VerdictDecision :=
  if requiresHuman findings coverages then .needsHuman
  else if requiresRepair rt findings coverages then .repair
  else .pass

/-- `residual_risk` -/
def residualRisk (subject : SemanticSubjectV1) : RiskLevel :=
  match decision rt findings coverages with
  | .needsHuman =>
      if subject.riskLevel = .critical then .critical else .high
  | .repair => subject.riskLevel
  | .pass => .none

/-- What is handed to the verdict's contract. -/
def verdictOf (subject : SemanticSubjectV1) : SemanticVerdictV1 where
  subjectDigest := subject.digest rt
  decision := decision rt findings coverages
  findingIdentityDigests := (identities rt findings).toFinset.sort
  duplicateIdentityDigests := (duplicates rt findings).sort
  correlatedRequirementKeys := (correlations rt findings).sort
  contradictedRequirementKeys := (contradictions coverages).sort
  unsupportedPassRequirementKeys := (unsupported findings coverages).sort
  residualRisk := residualRisk rt findings coverages subject

/-- `adjudicate` -/
def adjudicate (subject : SemanticSubjectV1) :
    Except ContractError SemanticVerdictV1 := do
  refuse (maxItems < findings.length) "semantic_items_exceeded" "findings"
  refuse (maxItems < coverages.length) "semantic_items_exceeded" "coverages"
  refuse coverages.isEmpty "semantic_coverage_missing"
  findings.forM (·.validateFor rt subject)
  coverages.forM (·.validateFor rt subject)
  (verdictOf rt findings coverages subject).fromDict rt

/-- At most 256 findings and some reports, all of the subject. -/
structure Admissible (subject : SemanticSubjectV1) : Prop where
  findings_le : findings.length ≤ maxItems
  coverages_le : coverages.length ≤ maxItems
  coverages_ne : coverages ≠ []
  findings_valid : ∀ f ∈ findings, f.validateFor rt subject = .ok ()
  coverages_valid : ∀ c ∈ coverages, c.validateFor rt subject = .ok ()

end

variable {rt : Runtime} {findings findings' : List SemanticFindingV1}
  {coverages coverages' : List SemanticCoverageV1}
  {subject : SemanticSubjectV1}

/-- All items pass where each does. -/
theorem forM_ok_iff {α ε : Type} {f : α → Except ε Unit} {l : List α}
    {u : Unit} : l.forM f = .ok u ↔ ∀ a ∈ l, f a = .ok () := by
  induction l with
  | nil => exact iff_of_true rfl fun a ha => absurd ha List.not_mem_nil
  | cons a l ih =>
      rw [List.forall_mem_cons, ← ih]
      show (f a >>= fun _ => l.forM f) = .ok () ↔ _
      cases hhead : f a with
      | error e =>
          apply iff_of_false
          · intro h
            cases h
          · intro h
            cases h.1
      | ok u => exact ⟨fun h => ⟨rfl, h⟩, fun h => h.2⟩

-- ======================================================== more was found

theorem mem_entriesOf {e : CoverageEntryV1} :
    e ∈ entriesOf coverages ↔ ∃ c ∈ coverages, e ∈ c.entries :=
  List.mem_flatMap

theorem mem_statuses {requirement : Text} {status : CoverageStatus} :
    status ∈ statuses coverages requirement
      ↔ ∃ e ∈ entriesOf coverages, e.key = requirement
        ∧ e.status = status := by
  unfold statuses
  simp only [List.mem_toFinset, List.mem_map, List.mem_filter,
    decide_eq_true_eq, and_assoc]

theorem mem_unsupported {requirement : Text} :
    requirement ∈ unsupported findings coverages
      ↔ ∃ e ∈ entriesOf coverages, isUnsupported findings e = true
        ∧ e.key = requirement := by
  unfold unsupported
  simp only [List.mem_toFinset, List.mem_map, List.mem_filter, and_assoc]

theorem mem_contradictions {requirement : Text} :
    requirement ∈ contradictions coverages
      ↔ (∃ e ∈ entriesOf coverages, e.key = requirement)
        ∧ (1 < (statuses coverages requirement).card
          ∨ .contradicted ∈ statuses coverages requirement) := by
  unfold contradictions
  simp only [Finset.mem_filter, List.mem_toFinset, List.mem_map]

theorem entriesOf_mono (h : coverages ⊆ coverages') :
    entriesOf coverages ⊆ entriesOf coverages' := by
  intro e he
  obtain ⟨c, hc, hmem⟩ := mem_entriesOf.mp he
  exact mem_entriesOf.mpr ⟨c, h hc, hmem⟩

theorem statuses_mono (h : coverages ⊆ coverages') (requirement : Text) :
    statuses coverages requirement ⊆ statuses coverages' requirement := by
  intro status hstatus
  obtain ⟨e, he, hkey, hstatus⟩ := mem_statuses.mp hstatus
  exact mem_statuses.mpr ⟨e, entriesOf_mono h he, hkey, hstatus⟩

theorem contradictions_mono (h : coverages ⊆ coverages') :
    contradictions coverages ⊆ contradictions coverages' := by
  intro requirement hrequirement
  obtain ⟨⟨e, he, hkey⟩, hwhy⟩ := mem_contradictions.mp hrequirement
  have hmono := statuses_mono h requirement
  refine mem_contradictions.mpr ⟨⟨e, entriesOf_mono h he, hkey⟩, ?_⟩
  rcases hwhy with hmany | hcontradicted
  · exact .inl (hmany.trans_le (Finset.card_le_card hmono))
  · exact .inr (hmono hcontradicted)

theorem isUnsupported_mono (h : findings ⊆ findings') {e : CoverageEntryV1}
    (he : isUnsupported findings e = true) :
    isUnsupported findings' e = true := by
  have hkeys : e.key ∈ foundKeys findings → e.key ∈ foundKeys findings' :=
    fun hkey => List.map_subset _ h hkey
  unfold isUnsupported at he ⊢
  simp only [Bool.or_eq_true, Bool.and_eq_true, decide_eq_true_eq,
    List.contains_iff_mem] at he ⊢
  tauto

theorem unsupported_mono (hfindings : findings ⊆ findings')
    (hcoverages : coverages ⊆ coverages') :
    unsupported findings coverages ⊆ unsupported findings' coverages' := by
  intro requirement hrequirement
  obtain ⟨e, he, hwhy, hkey⟩ := mem_unsupported.mp hrequirement
  exact mem_unsupported.mpr ⟨e, entriesOf_mono hcoverages he,
    isUnsupported_mono hfindings hwhy, hkey⟩

theorem requiresHuman_mono (hfindings : findings ⊆ findings')
    (hcoverages : coverages ⊆ coverages')
    (h : requiresHuman findings coverages = true) :
    requiresHuman findings' coverages' = true := by
  unfold requiresHuman humanFinding at h ⊢
  simp only [Bool.or_eq_true, decide_eq_true_eq, ne_eq,
    ← Finset.nonempty_iff_ne_empty, List.any_eq_true] at h ⊢
  rcases h with (h | h) | ⟨f, hf, hwhy⟩
  · exact .inl (.inl (h.mono (contradictions_mono hcoverages)))
  · exact .inl (.inr (h.mono (unsupported_mono hfindings hcoverages)))
  · exact .inr ⟨f, hfindings hf, hwhy⟩

theorem requiresRepair_iff :
    requiresRepair rt findings coverages = true
      ↔ findings ≠ [] ∨ ∃ e ∈ entriesOf coverages, e.status ≠ .proven := by
  unfold requiresRepair identities
  simp only [Bool.or_eq_true, decide_eq_true_eq, ne_eq, List.map_eq_nil_iff,
    List.any_eq_true]

theorem requiresRepair_mono (hfindings : findings ⊆ findings')
    (hcoverages : coverages ⊆ coverages')
    (h : requiresRepair rt findings coverages = true) :
    requiresRepair rt findings' coverages' = true := by
  rw [requiresRepair_iff] at h ⊢
  rcases h with h | ⟨e, he, hstatus⟩
  · left
    intro hnil
    rw [hnil] at hfindings
    exact h (List.subset_nil.mp hfindings)
  · exact .inr ⟨e, entriesOf_mono hcoverages he, hstatus⟩

/-- More to say never moves a decision towards passing. -/
theorem decision_mono (hfindings : findings ⊆ findings')
    (hcoverages : coverages ⊆ coverages') :
    (decision rt findings coverages).rank
      ≤ (decision rt findings' coverages').rank := by
  unfold decision
  by_cases hhuman' : requiresHuman findings' coverages' = true
  · rw [if_pos hhuman']
    split_ifs <;> decide
  · have hhuman := mt (requiresHuman_mono hfindings hcoverages) hhuman'
    rw [if_neg hhuman, if_neg hhuman']
    by_cases hrepair' : requiresRepair rt findings' coverages' = true
    · rw [if_pos hrepair']
      split_ifs <;> decide
    · have hrepair :=
        mt (requiresRepair_mono hfindings hcoverages) hrepair'
      rw [if_neg hrepair]
      exact Nat.zero_le _

-- ====================================================== in another order

theorem identities_perm (h : findings'.Perm findings) :
    (identities rt findings').Perm (identities rt findings) := h.map _

theorem duplicates_perm (h : findings'.Perm findings) :
    duplicates rt findings' = duplicates rt findings := by
  have hids : (identities rt findings').Perm (identities rt findings) :=
    identities_perm h
  unfold duplicates
  rw [List.toFinset_eq_of_perm _ _ hids]
  simp only [hids.count_eq]

theorem correlations_perm (h : findings'.Perm findings) :
    correlations rt findings' = correlations rt findings := by
  have hby : ∀ requirement, identitiesByRequirement rt findings' requirement
      = identitiesByRequirement rt findings requirement := fun requirement =>
    List.toFinset_eq_of_perm _ _ (identities_perm (h.filter _))
  unfold correlations foundKeys
  rw [List.toFinset_eq_of_perm _ _ (h.map _)]
  simp only [hby]

theorem contradictions_perm (h : coverages'.Perm coverages) :
    contradictions coverages' = contradictions coverages :=
  Finset.Subset.antisymm (contradictions_mono h.subset)
    (contradictions_mono h.symm.subset)

theorem unsupported_perm (hfindings : findings'.Perm findings)
    (hcoverages : coverages'.Perm coverages) :
    unsupported findings' coverages' = unsupported findings coverages :=
  Finset.Subset.antisymm
    (unsupported_mono hfindings.subset hcoverages.subset)
    (unsupported_mono hfindings.symm.subset hcoverages.symm.subset)

theorem decision_perm (hfindings : findings'.Perm findings)
    (hcoverages : coverages'.Perm coverages) :
    decision rt findings' coverages' = decision rt findings coverages := by
  have hhuman : requiresHuman findings' coverages'
      = requiresHuman findings coverages := Bool.eq_iff_iff.mpr
    ⟨requiresHuman_mono hfindings.subset hcoverages.subset,
      requiresHuman_mono hfindings.symm.subset hcoverages.symm.subset⟩
  have hrepair : requiresRepair rt findings' coverages'
      = requiresRepair rt findings coverages := Bool.eq_iff_iff.mpr
    ⟨requiresRepair_mono hfindings.subset hcoverages.subset,
      requiresRepair_mono hfindings.symm.subset hcoverages.symm.subset⟩
  unfold decision
  rw [hhuman, hrepair]

theorem verdictOf_perm (hfindings : findings'.Perm findings)
    (hcoverages : coverages'.Perm coverages) :
    verdictOf rt findings' coverages' subject
      = verdictOf rt findings coverages subject := by
  unfold verdictOf residualRisk
  rw [decision_perm hfindings hcoverages, duplicates_perm hfindings,
    correlations_perm hfindings, contradictions_perm hcoverages,
    unsupported_perm hfindings hcoverages,
    List.toFinset_eq_of_perm _ _ (identities_perm hfindings)]

theorem Admissible.perm (h : Admissible rt findings coverages subject)
    (hfindings : findings'.Perm findings)
    (hcoverages : coverages'.Perm coverages) :
    Admissible rt findings' coverages' subject where
  findings_le := hfindings.length_eq ▸ h.findings_le
  coverages_le := hcoverages.length_eq ▸ h.coverages_le
  coverages_ne := fun hnil =>
    h.coverages_ne (List.nil_perm.mp (hnil ▸ hcoverages))
  findings_valid := fun f hf => h.findings_valid f (hfindings.mem_iff.mp hf)
  coverages_valid := fun c hc =>
    h.coverages_valid c (hcoverages.mem_iff.mp hc)

-- ============================================================== to pass

theorem decision_pass_iff :
    decision rt findings coverages = .pass
      ↔ findings = [] ∧ ∀ e ∈ entriesOf coverages,
        e.status = .proven ∧ e.evidenceRefs ≠ [] := by
  have hsplit : decision rt findings coverages = .pass
      ↔ requiresHuman findings coverages = false
        ∧ requiresRepair rt findings coverages = false := by
    unfold decision
    cases requiresHuman findings coverages <;>
      cases requiresRepair rt findings coverages <;> decide
  rw [hsplit]
  constructor
  · rintro ⟨hhuman, hrepair⟩
    rw [← Bool.not_eq_true, requiresRepair_iff] at hrepair
    push Not at hrepair
    refine ⟨hrepair.1, ?_⟩
    intro e he
    refine ⟨hrepair.2 e he, ?_⟩
    intro hnone
    -- an entry without evidence would be unsupported
    have hwhy : isUnsupported findings e = true := by
      simp [isUnsupported, hrepair.2 e he, hnone]
    have hmem : e.key ∈ unsupported findings coverages :=
      mem_unsupported.mpr ⟨e, he, hwhy, rfl⟩
    have hne : unsupported findings coverages ≠ ∅ :=
      Finset.ne_empty_of_mem hmem
    simp [requiresHuman, hne] at hhuman
  · rintro ⟨rfl, hproven⟩
    have hstatuses : ∀ requirement,
        statuses coverages requirement ⊆ {.proven} := by
      intro requirement status hstatus
      obtain ⟨e, he, _, rfl⟩ := mem_statuses.mp hstatus
      exact Finset.mem_singleton.mpr (hproven e he).1
    have hcontradictions : contradictions coverages = ∅ := by
      rw [Finset.eq_empty_iff_forall_notMem]
      intro requirement hmem
      rcases (mem_contradictions.mp hmem).2 with hmany | hcontradicted
      · have hcard := Finset.card_le_card (hstatuses requirement)
        rw [Finset.card_singleton] at hcard
        omega
      · have heq := Finset.mem_singleton.mp
          (hstatuses requirement hcontradicted)
        cases heq
    have hunsupported : unsupported [] coverages = ∅ := by
      rw [Finset.eq_empty_iff_forall_notMem]
      intro requirement hmem
      obtain ⟨e, he, hwhy, _⟩ := mem_unsupported.mp hmem
      obtain ⟨hstatus, hevidence⟩ := hproven e he
      simp [isUnsupported, hstatus, hevidence, foundKeys] at hwhy
    constructor
    · simp [requiresHuman, hcontradictions, hunsupported, humanFinding]
    · rw [← Bool.not_eq_true, requiresRepair_iff]
      push Not
      exact ⟨rfl, fun e he => (hproven e he).1⟩

-- ================================================ the verdict's contract

theorem sortedUnique_ok {name : String}
    {parser : Text → Except ContractError Unit} {s : Finset Text}
    (hcard : s.card ≤ maxItems) (hparses : ∀ t ∈ s, parser t = .ok ()) :
    sortedUnique name parser s.sort = .ok () := by
  unfold sortedUnique
  rw [bind_ok]
  refine ⟨(), refuse_ok.mpr ?_, ?_⟩
  · rw [Finset.length_sort, decide_eq_false_iff_not]
    omega
  · rw [bind_ok]
    refine ⟨(), ?_, refuse_ok.mpr ?_⟩
    · rw [forM_ok_iff]
      intro t ht
      exact hparses t ((Finset.mem_sort _).mp ht)
    · rw [Bool.not_eq_false']
      exact decide_eq_true s.sortedLT_sort.pairwise

theorem isHex_text (d : Factory.Digest) : isHex 64 d.text = true := by
  unfold isHex
  rw [Bool.and_eq_true, beq_iff_eq, List.all_eq_true]
  refine ⟨d.length_eq, ?_⟩
  intro c hc
  simpa using d.hex c hc

theorem hexDigest_canonical (name : String) (v : Json) :
    hexDigest name (rt.canonicalDigest v) = .ok () := by
  unfold hexDigest Runtime.canonicalDigest
  rw [refuse_ok, isHex_text]
  rfl

/-- A scalar that may stand in a reference, after its first. -/
def isSafe (c : Char) : Bool :=
  c.isAlphanum || "._:/@+-".toList.contains c

theorem ascii_of_isSafe {c : Char} (h : isSafe c = true) :
    32 ≤ c.toNat ∧ c.toNat < 128 := by
  unfold isSafe at h
  rw [Bool.or_eq_true] at h
  rcases h with hword | hother
  · simp only [Char.isAlphanum, Char.isAlpha, Char.isUpper, Char.isLower,
      Char.isDigit, Bool.or_eq_true, Bool.and_eq_true, decide_eq_true_eq,
      ge_iff_le, UInt32.le_iff_toNat_le] at hword
    show 32 ≤ c.val.toNat ∧ c.val.toNat < 128
    simp only [Char.reduceVal, UInt32.reduceToNat] at hword
    omega
  · rw [List.contains_iff_mem] at hother
    revert c
    decide

theorem name_safe (kind : RequirementKind) :
    (∀ c ∈ kind.name, isSafe c = true)
      ∧ kind.name.length ≤ 26
      ∧ ∃ c cs, kind.name = c :: cs ∧ c.isAlphanum = true := by
  cases kind <;> exact ⟨by decide, by decide, _, _, rfl, by decide⟩

theorem identifier_safe {t : Text} (h : isIdentifier t = true) :
    (∀ c ∈ t, isSafe c = true) ∧ t.length ≤ 128 := by
  cases t with
  | nil => cases h
  | cons c cs =>
      unfold isIdentifier at h
      rw [Bool.and_eq_true, Bool.and_eq_true, decide_eq_true_eq,
        List.all_eq_true] at h
      obtain ⟨⟨hfirst, hlength⟩, hrest⟩ := h
      refine ⟨?_, Nat.succ_le_succ hlength⟩
      rw [List.forall_mem_cons]
      refine ⟨Bool.or_eq_true_iff.mpr (.inl hfirst), ?_⟩
      intro d hd
      have hsafe := hrest d hd
      unfold isSafe
      simp only [Bool.or_eq_true, List.contains_iff_mem] at hsafe ⊢
      exact hsafe.imp_right fun hmem =>
        (by decide : "._:/-".toList ⊆ "._:/@+-".toList) hmem

/-- The key of a requirement is a reference. -/
theorem key_reference
    (hnfc : ∀ t : Text, (∀ c ∈ t, c.toNat < 128) → rt.isNfc t = true)
    {r : RequirementRefV1} (hid : rt.identifier r.requirementId = true)
    (name : String) : reference rt name r.key = .ok () := by
  unfold Runtime.identifier at hid
  rw [Bool.and_eq_true] at hid
  obtain ⟨hkind, hshort, c, cs, hname, hfirst⟩ := name_safe r.kind
  obtain ⟨hchars, hlength⟩ := identifier_safe hid.2
  have hsafe : ∀ d ∈ r.key, isSafe d = true := by
    intro d hd
    rcases List.mem_append.mp hd with hd | hd
    · exact hkind d hd
    · rcases List.mem_cons.mp hd with rfl | hd
      · decide
      · exact hchars d hd
  have hascii : ∀ d ∈ r.key, d.toNat < 128 := fun d hd =>
    (ascii_of_isSafe (hsafe d hd)).2
  have hkey : r.key = c :: (cs ++ ':' :: r.requirementId) := by
    unfold RequirementRefV1.key
    rw [hname, List.cons_append]
  have hkeylength : r.key.length ≤ 155 := by
    unfold RequirementRefV1.key
    rw [List.length_append, List.length_cons]
    omega
  unfold reference
  rw [bind_ok]
  refine ⟨(), refuse_ok.mpr ?_, refuse_ok.mpr ?_⟩
  · rw [Bool.not_eq_false']
    unfold Runtime.isText
    rw [hnfc _ hascii, Factory.utf8_length_of_ascii hascii]
    simp only [Bool.and_true, Bool.and_eq_true, decide_eq_true_eq,
      List.all_eq_true]
    refine ⟨⟨?_, by omega⟩, fun d hd => (ascii_of_isSafe (hsafe d hd)).1⟩
    rw [hkey]
    rfl
  · rw [Bool.not_eq_false', hkey]
    rw [hkey] at hsafe hkeylength
    unfold isSafeRef
    rw [Bool.and_eq_true, Bool.and_eq_true, decide_eq_true_eq,
      List.all_eq_true]
    rw [List.length_cons] at hkeylength
    exact ⟨⟨hfirst, by omega⟩, fun d hd =>
      hsafe d (List.mem_cons_of_mem c hd)⟩

/-- A set of a subject's requirements is a list of references. -/
theorem keyList_ok
    (hnfc : ∀ t : Text, (∀ c ∈ t, c.toNat < 128) → rt.isNfc t = true)
    (hsubject : subject.Accepted rt) {s : Finset Text}
    (hsub : ∀ t ∈ s, t ∈ subject.requirementKeys) (name : String) :
    sortedUnique name (reference rt name) s.sort = .ok () := by
  apply sortedUnique_ok
  · calc s.card ≤ subject.requirementKeys.toFinset.card :=
          Finset.card_le_card fun t ht => List.mem_toFinset.mpr (hsub t ht)
      _ ≤ subject.requirementKeys.length := List.toFinset_card_le _
      _ = subject.requirements.length := List.length_map _
      _ ≤ maxItems := hsubject.requirements_le
  · intro t ht
    obtain ⟨r, hr, rfl⟩ := List.mem_map.mp (hsub t ht)
    exact key_reference hnfc (hsubject.requirementIds r hr) name

/-- A set of identities of at most 256 findings is a list of digests. -/
theorem digestList_ok (hle : findings.length ≤ maxItems) {s : Finset Text}
    (hsub : s ⊆ (identities rt findings).toFinset) (name : String) :
    sortedUnique name (hexDigest name) s.sort = .ok () := by
  apply sortedUnique_ok
  · calc s.card ≤ (identities rt findings).toFinset.card :=
          Finset.card_le_card hsub
      _ ≤ (identities rt findings).length := List.toFinset_card_le _
      _ = findings.length := List.length_map _
      _ ≤ maxItems := hle
  · intro t ht
    obtain ⟨f, _, rfl⟩ := List.mem_map.mp (List.mem_toFinset.mp (hsub ht))
    exact hexDigest_canonical name _

theorem SemanticFindingV1.key_mem {f : SemanticFindingV1}
    (h : f.validateFor rt subject = .ok ()) :
    f.requirement.key ∈ subject.requirementKeys := by
  unfold SemanticFindingV1.validateFor at h
  obtain ⟨_, _, h⟩ := bind_ok.mp h
  obtain ⟨_, hkey, _⟩ := bind_ok.mp h
  simpa only [refuse_ok, decide_eq_false_iff_not, Decidable.not_not]
    using hkey

theorem SemanticCoverageV1.keys_eq {c : SemanticCoverageV1}
    (h : c.validateFor rt subject = .ok ()) :
    c.entries.map CoverageEntryV1.key = subject.requirementKeys := by
  unfold SemanticCoverageV1.validateFor at h
  obtain ⟨_, _, h⟩ := bind_ok.mp h
  obtain ⟨_, hkeys, _⟩ := bind_ok.mp h
  simpa only [refuse_ok, decide_eq_false_iff_not, ne_eq, Decidable.not_not]
    using hkeys

theorem Admissible.entry_key (h : Admissible rt findings coverages subject)
    {e : CoverageEntryV1} (he : e ∈ entriesOf coverages) :
    e.key ∈ subject.requirementKeys := by
  obtain ⟨c, hc, hmem⟩ := mem_entriesOf.mp he
  rw [← SemanticCoverageV1.keys_eq (h.coverages_valid c hc)]
  exact List.mem_map_of_mem hmem

/-- The verdict's contract accepts what an adjudication hands to it. -/
theorem verdictOf_accepted
    (hnfc : ∀ t : Text, (∀ c ∈ t, c.toNat < 128) → rt.isNfc t = true)
    (hsubject : subject.Accepted rt)
    (h : Admissible rt findings coverages subject) :
    (verdictOf rt findings coverages subject).fromDict rt
      = .ok (verdictOf rt findings coverages subject) := by
  have hduplicates : duplicates rt findings
      ⊆ (identities rt findings).toFinset := Finset.filter_subset _ _
  have hcorrelations : ∀ t ∈ correlations rt findings,
      t ∈ subject.requirementKeys := by
    intro t ht
    have hfound := List.mem_toFinset.mp (Finset.mem_filter.mp ht).1
    obtain ⟨f, hf, rfl⟩ := List.mem_map.mp hfound
    exact SemanticFindingV1.key_mem (h.findings_valid f hf)
  have hcontradictions : ∀ t ∈ contradictions coverages,
      t ∈ subject.requirementKeys := by
    intro t ht
    obtain ⟨⟨e, he, rfl⟩, _⟩ := mem_contradictions.mp ht
    exact h.entry_key he
  have hunsupported : ∀ t ∈ unsupported findings coverages,
      t ∈ subject.requirementKeys := by
    intro t ht
    obtain ⟨e, he, _, rfl⟩ := mem_unsupported.mp ht
    exact h.entry_key he
  unfold SemanticVerdictV1.fromDict
  simp only [bind_ok]
  exact ⟨(), hexDigest_canonical _ _,
    (), digestList_ok h.findings_le (Finset.Subset.refl _) _,
    (), digestList_ok h.findings_le hduplicates _,
    (), keyList_ok hnfc hsubject hcorrelations _,
    (), keyList_ok hnfc hsubject hcontradictions _,
    (), keyList_ok hnfc hsubject hunsupported _, trivial⟩

/-- An adjudication of what is admissible answers. -/
theorem adjudicate_ok
    (hnfc : ∀ t : Text, (∀ c ∈ t, c.toNat < 128) → rt.isNfc t = true)
    (hsubject : subject.Accepted rt)
    (h : Admissible rt findings coverages subject) :
    adjudicate rt findings coverages subject
      = .ok (verdictOf rt findings coverages subject) := by
  unfold adjudicate
  simp only [bind_ok]
  refine ⟨(), refuse_ok.mpr ?_, (), refuse_ok.mpr ?_, (), refuse_ok.mpr ?_,
    (), forM_ok_iff.mpr h.findings_valid, (),
    forM_ok_iff.mpr h.coverages_valid, verdictOf_accepted hnfc hsubject h⟩
  · exact decide_eq_false (Nat.not_lt.mpr h.findings_le)
  · exact decide_eq_false (Nat.not_lt.mpr h.coverages_le)
  · exact List.isEmpty_eq_false_iff.mpr h.coverages_ne

-- ======================================================= every adjudication

/-- A report marks a requirement proven, with evidence. -/
def SemanticCoverageV1.Proves (c : SemanticCoverageV1) (requirement : Text) :
    Prop :=
  ∃ e ∈ c.entries, e.key = requirement ∧ e.status = .proven
    ∧ e.evidenceRefs ≠ []

/-- The reports of a subject have one entry for each of its requirements. -/
theorem proves_iff (hsubject : subject.Accepted rt)
    {c : SemanticCoverageV1} (hc : c.validateFor rt subject = .ok ()) :
    (∀ requirement ∈ subject.requirementKeys, c.Proves requirement)
      ↔ ∀ e ∈ c.entries, e.status = .proven ∧ e.evidenceRefs ≠ [] := by
  have hkeys := SemanticCoverageV1.keys_eq hc
  constructor
  · intro hproves e he
    have hkey : e.key ∈ subject.requirementKeys :=
      hkeys ▸ List.mem_map_of_mem he
    obtain ⟨other, hother, hsame, hstatus, hevidence⟩ := hproves e.key hkey
    have hnodup : (c.entries.map CoverageEntryV1.key).Nodup := by
      rw [hkeys]
      exact (of_decide_eq_true hsubject.sorted).imp ne_of_lt
    rw [List.inj_on_of_nodup_map hnodup he hother hsame.symm]
    exact ⟨hstatus, hevidence⟩
  · intro hall requirement hrequirement
    rw [← hkeys] at hrequirement
    obtain ⟨e, he, rfl⟩ := List.mem_map.mp hrequirement
    exact ⟨e, he, rfl, hall e he⟩

/-- Adjudication answers, whatever the order of what was found; more of it
never moves the decision towards a pass, and a pass is that nothing was
found and everything proven. -/
theorem adjudicates (rt : Runtime) (subject : SemanticSubjectV1)
    (findings : List SemanticFindingV1) (coverages : List SemanticCoverageV1)
    (hnfc : ∀ t : Text, (∀ c ∈ t, c.toNat < 128) → rt.isNfc t = true)
    (hsubject : subject.Accepted rt)
    (h : Admissible rt findings coverages subject) :
    ∃ v, adjudicate rt findings coverages subject = .ok v
      ∧ (∀ findings' coverages', findings'.Perm findings →
        coverages'.Perm coverages →
        adjudicate rt findings' coverages' subject = .ok v)
      ∧ (∀ findings' coverages', findings ⊆ findings' →
        coverages ⊆ coverages' → Admissible rt findings' coverages' subject →
        ∃ v', adjudicate rt findings' coverages' subject = .ok v'
          ∧ v.decision.rank ≤ v'.decision.rank)
      ∧ (v.decision = .pass ↔ findings = []
        ∧ ∀ c ∈ coverages, ∀ requirement ∈ subject.requirementKeys,
          c.Proves requirement) := by
  refine ⟨_, adjudicate_ok hnfc hsubject h, ?_, ?_, ?_⟩
  · intro findings' coverages' hfindings hcoverages
    rw [adjudicate_ok hnfc hsubject (h.perm hfindings hcoverages),
      verdictOf_perm hfindings hcoverages]
  · intro findings' coverages' hfindings hcoverages h'
    exact ⟨_, adjudicate_ok hnfc hsubject h',
      decision_mono hfindings hcoverages⟩
  · show decision rt findings coverages = .pass ↔ _
    rw [decision_pass_iff]
    apply and_congr_right'
    constructor
    · intro hall c hc
      rw [proves_iff hsubject (h.coverages_valid c hc)]
      intro e he
      exact hall e (mem_entriesOf.mpr ⟨c, hc, he⟩)
    · intro hall e he
      obtain ⟨c, hc, hmem⟩ := mem_entriesOf.mp he
      exact (proves_iff hsubject (h.coverages_valid c hc)).mp (hall c hc)
        e hmem

-- ============================================================== a sample

/-- SHA-256 of the digest, the finding and the verdict of `oneSubject`, by
the lengths of their messages. -/
def oneSha (m : List UInt8) : Factory.Digest :=
  if m.length = 1011 then
    ⟨"c2f9badcb2c7cefc266c19390391d93d3ceb2ba110309bac2a224a31beeae333".toList,
      by decide, by decide⟩
  else if m.length = 174 then
    ⟨"e615a8bd01e28e47e98d298f5309e67fad7403f1d939cd67a855e5787b5947fe".toList,
      by decide, by decide⟩
  else
    ⟨"cb03770e5758f6d7c6dd7db189c6ac4febb56b50e55705083b55cb55e84e1577".toList,
      by decide, by decide⟩

def oneRuntime : Runtime where
  sha256 := oneSha
  isNfc _ := true
  fromisoformat _ := none
  containsStructuralSecret _ := false

def oneRequirement : RequirementRefV1 := ⟨.invariant, ['r']⟩

/-- A subject of one requirement. -/
def oneSubject : SemanticSubjectV1 where
  subjectId := ['s']
  requirements := [oneRequirement]
  exactBaseSha := List.replicate 40 '0'
  exactHeadSha := List.replicate 40 '0'
  specDigest := List.replicate 64 '0'
  architectureDigest := List.replicate 64 '0'
  authorityDigest := List.replicate 64 '0'
  diffDigest := List.replicate 64 '0'
  deterministicEvidenceDigest := List.replicate 64 '0'
  holdoutEvidenceDigest := List.replicate 64 '0'
  reviewEvidenceDigest := List.replicate 64 '0'
  originalWriterId := ['w']
  originalWriterContextDigest := List.replicate 64 '0'
  riskLevel := .low
  diffLines := 1
  diffLimit := 1

theorem oneSubject_accepted : oneSubject.Accepted oneRuntime := by
  constructor <;> decide

def oneValidator : ValidatorIdentityV1 :=
  ⟨['v'], validatorCapabilities, List.replicate 64 '1'⟩

def oneFinding : SemanticFindingV1 where
  subjectDigest := oneSubject.digest oneRuntime
  requirement := oneRequirement
  severity := .minor
  category := .testGap
  ruleId := "rule".toList
  repairable := true
  validator := oneValidator

def oneReport : SemanticCoverageV1 where
  subjectDigest := oneSubject.digest oneRuntime
  validator := oneValidator
  entries := [⟨oneRequirement, .unproven, []⟩]

theorem SemanticFindingV1.validateFor_ok {f : SemanticFindingV1}
    (hdigest : f.subjectDigest = subject.digest rt)
    (hkey : f.requirement.key ∈ subject.requirementKeys)
    (hvalidator : f.validator.validateFor subject = .ok ()) :
    f.validateFor rt subject = .ok () := by
  unfold SemanticFindingV1.validateFor
  rw [bind_ok]
  refine ⟨(), refuse_ok.mpr (decide_eq_false (not_not.mpr hdigest)), ?_⟩
  rw [bind_ok]
  exact ⟨(), refuse_ok.mpr (decide_eq_false (not_not.mpr hkey)), hvalidator⟩

theorem SemanticCoverageV1.validateFor_ok {c : SemanticCoverageV1}
    (hdigest : c.subjectDigest = subject.digest rt)
    (hkeys : c.entries.map CoverageEntryV1.key = subject.requirementKeys)
    (hvalidator : c.validator.validateFor subject = .ok ()) :
    c.validateFor rt subject = .ok () := by
  unfold SemanticCoverageV1.validateFor
  rw [bind_ok]
  refine ⟨(), refuse_ok.mpr (decide_eq_false (not_not.mpr hdigest)), ?_⟩
  rw [bind_ok]
  exact ⟨(), refuse_ok.mpr (decide_eq_false (not_not.mpr hkeys)), hvalidator⟩

theorem one_admissible :
    Admissible oneRuntime [oneFinding] [oneReport] oneSubject := by
  refine ⟨by decide, by decide, List.cons_ne_nil _ _, ?_, ?_⟩
  · intro f hf
    rw [List.mem_singleton.mp hf]
    exact SemanticFindingV1.validateFor_ok (by simp only [oneFinding])
      (by decide) (by decide)
  · intro c hc
    rw [List.mem_singleton.mp hc]
    exact SemanticCoverageV1.validateFor_ok (by simp only [oneReport])
      (by decide) (by decide)

/-- One finding and one report. -/
theorem adjudicates_one :
    ∃ v, adjudicate oneRuntime [oneFinding] [oneReport] oneSubject = .ok v
      ∧ (∀ findings' coverages', findings'.Perm [oneFinding] →
        coverages'.Perm [oneReport] →
        adjudicate oneRuntime findings' coverages' oneSubject = .ok v)
      ∧ (∀ findings' coverages', [oneFinding] ⊆ findings' →
        [oneReport] ⊆ coverages' →
        Admissible oneRuntime findings' coverages' oneSubject →
        ∃ v', adjudicate oneRuntime findings' coverages' oneSubject = .ok v'
          ∧ v.decision.rank ≤ v'.decision.rank)
      ∧ (v.decision = .pass ↔ [oneFinding] = []
        ∧ ∀ c ∈ [oneReport], ∀ requirement ∈ oneSubject.requirementKeys,
          c.Proves requirement) := by
  apply adjudicates oneRuntime oneSubject [oneFinding] [oneReport]
  · intro t _
    rfl
  · exact oneSubject_accepted
  · exact one_admissible

end Exolon.Semantic.Review
