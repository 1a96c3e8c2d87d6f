/-
The same intake, written in another way.

JSON gives the members of an object in any order, and a time in any zone.
`Rewritten` has both: the members come in another order, each with a value
that stands for the one it had. `from_dict` reads an object by its names
and a time by its instant, so that a rewriting of an accepted input is
accepted with the same values (`Accepts.rewritten`).
-/
import Exolon.Factory.Accepts

namespace Exolon.Contracts

open Factory

/-- The times of an authority. -/
def authorityTimes : List PyStr := [py "observed_at", py "expires_at"]

/-- An object written in another way: its members in another order, each
with a value that stands for the one it had. -/
def Rewritten (same : PyStr → PyJson → PyJson → Prop)
    (value value' : PyJson) : Prop :=
  ∃ members middle members',
    value = .dict members ∧ value' = .dict members'
      ∧ (members.map Prod.fst).Nodup ∧ members.Perm middle
      ∧ List.Forall₂ (fun m m' => m.1 = m'.1 ∧ same m.1 m.2 m'.2)
        middle members'

/-- The handoffs and the limits, with their members in another order. -/
def Reordered : PyJson → PyJson → Prop := Rewritten fun _ v v' => v = v'

/-- A time may be written in another zone. -/
def RewrittenTime (rt : IntakeRuntime) (name : PyStr) (v v' : PyJson) :
    Prop :=
  v = v' ∨ name ∈ authorityTimes ∧ instantOf rt v = instantOf rt v'

/-- A field of an intake, written in another way. -/
def RewrittenField (rt : IntakeRuntime) (name : PyStr) (v v' : PyJson) :
    Prop :=
  v = v'
    ∨ name ∈ [py "architecture", py "governance", py "limits"]
      ∧ Reordered v v'
    ∨ name = py "m0_authority" ∧ Rewritten (RewrittenTime rt) v v'

section Rewritings

variable {same : PyStr → PyJson → PyJson → Prop} {value value' : PyJson}
  {names : List PyStr}

theorem lookup_of_forall₂ {middle members' : Members}
    (h : List.Forall₂ (fun m m' => m.1 = m'.1 ∧ same m.1 m.2 m'.2)
      middle members') {name : PyStr} {v : PyJson}
    (hv : middle.lookup name = some v) :
    ∃ v', members'.lookup name = some v' ∧ same name v v' := by
  induction h with
  | nil => cases hv
  | @cons m m' middle members' hm _ ih =>
      obtain ⟨key, w⟩ := m
      obtain ⟨key', w'⟩ := m'
      obtain ⟨rfl, hsame⟩ := hm
      rw [List.lookup_cons] at hv ⊢
      by_cases heq : name = key
      · subst heq
        rw [beq_self_eq_true] at hv ⊢
        cases Option.some.inj hv
        exact ⟨w', rfl, hsame⟩
      · rw [beq_false_of_ne heq] at hv ⊢
        exact ih hv

theorem Rewritten.get? (h : Rewritten same value value') {name : PyStr}
    {v : PyJson} (hv : value.get? name = some v) :
    ∃ v', value'.get? name = some v' ∧ same name v v' := by
  obtain ⟨members, middle, members', rfl, rfl, hnodup, hperm, hrel⟩ := h
  have hlookup : middle.lookup name = some v := by
    rw [← Json.lookup_perm hperm hnodup]
    exact hv
  exact lookup_of_forall₂ hrel hlookup

/-- The names are those there were. -/
theorem Rewritten.opens (h : Rewritten same value value')
    (hopens : Opens names value) : Opens names value' := by
  obtain ⟨members, middle, members', rfl, rfl, _, hperm, hrel⟩ := h
  refine ⟨⟨members', rfl⟩, ?_⟩
  have hkeys : middle.map Prod.fst = members'.map Prod.fst := by
    clear hperm
    induction hrel with
    | nil => rfl
    | cons hm _ ih => rw [List.map_cons, List.map_cons, ih, hm.1]
  have hmem : ∀ item, item ∈ members.map (fun m => PyJson.str m.1)
      ↔ item ∈ members'.map fun m => PyJson.str m.1 := by
    intro item
    have hstrs : (members.map fun m => PyJson.str m.1).Perm
        (members'.map fun m => PyJson.str m.1) := by
      have hmap := (hperm.map Prod.fst).map PyJson.str
      rw [hkeys, List.map_map, List.map_map] at hmap
      exact hmap
    exact hstrs.mem_iff
  obtain ⟨items, hitems, hset⟩ := closedSet_eq_ok.mp hopens.2
  cases Except.ok.inj hitems
  refine closedSet_eq_ok.mpr ⟨_, rfl, ?_⟩
  unfold M0AuthorityV1.isSet at hset ⊢
  rw [Bool.and_eq_true, List.all_eq_true, List.all_eq_true] at hset ⊢
  refine ⟨fun item hitem => hset.1 item ((hmem item).mpr hitem), ?_⟩
  intro name hname
  obtain ⟨item, hitem, hnamed⟩ := List.any_eq_true.mp (hset.2 name hname)
  exact List.any_eq_true.mpr ⟨item, (hmem item).mp hitem, hnamed⟩

/-- A name of the object has a value. -/
theorem Opens.get? (h : Opens names value) {name : String}
    (hname : py name ∈ names) :
    value.get? (py name) = some (field value name) := by
  have hsub := h.subscript hname
  obtain ⟨⟨members, rfl⟩, _⟩ := h
  unfold Contracts.subscript at hsub
  dsimp only at hsub
  cases hlookup : members.lookup (py name) with
  | none =>
      rw [hlookup] at hsub
      cases hsub
  | some v =>
      rw [hlookup] at hsub
      cases hsub
      exact hlookup

/-- Each field stands for the one it was. -/
theorem Rewritten.field (h : Rewritten same value value')
    (hopens : Opens names value) {name : String} (hname : py name ∈ names) :
    same (py name) (field value name) (field value' name) := by
  obtain ⟨v', hv', hsame⟩ := h.get? (hopens.get? hname)
  have heq : Contracts.field value' name = v' := by
    unfold Contracts.field
    rw [hv']
    rfl
  rw [heq]
  exact hsame

theorem ArchitectureHandoffV1.reordered {a : ArchitectureHandoffV1}
    (h : Reordered value value') (hok : fromDict value = .ok a) :
    fromDict value' = .ok a := by
  rw [fromDict_eq_ok] at hok ⊢
  have hfield {name : String} (hname : py name ∈ fields) :
      field value' name = field value name := (h.field hok.1 hname).symm
  rw [hfield (by decide), hfield (by decide), hfield (by decide),
    hfield (by decide), hfield (by decide)]
  exact ⟨h.opens hok.1, hok.2⟩

theorem GovernanceHandoffV1.reordered {g : GovernanceHandoffV1}
    (h : Reordered value value') (hok : fromDict value = .ok g) :
    fromDict value' = .ok g := by
  rw [fromDict_eq_ok] at hok ⊢
  have hfield {name : String} (hname : py name ∈ fields) :
      field value' name = field value name := (h.field hok.1 hname).symm
  rw [hfield (by decide), hfield (by decide), hfield (by decide),
    hfield (by decide), hfield (by decide), hfield (by decide)]
  exact ⟨h.opens hok.1, hok.2⟩

theorem TaskLimitsV1.reordered {l : TaskLimitsV1}
    (h : Reordered value value') (hok : ofValue value = .ok l) :
    ofValue value' = .ok l := by
  rw [ofValue_eq_ok] at hok ⊢
  refine ⟨h.opens hok.1, fun member hmember => ?_⟩
  obtain ⟨v', hv', hsame⟩ := h.get? (hok.2 member hmember)
  rw [hv', ← hsame]

theorem M0AuthorityV1.rewritten {rt : IntakeRuntime} {now : Timestamp}
    {a : M0AuthorityV1} (h : Rewritten (RewrittenTime rt) value value')
    (hok : fromDict rt now value = .ok a) : fromDict rt now value' = .ok a := by
  rw [fromDict_eq_ok] at hok ⊢
  have htime {name : String} {t : Timestamp} {names : List PyStr}
      (hopens : Opens names value) (hname : py name ∈ names)
      (ht : time rt (field value name) name = .ok t) :
      time rt (field value' name) name = .ok t := by
    rcases h.field hopens hname with heq | ⟨_, heq⟩
    · rw [← heq]
      exact ht
    · exact time_of_instantOf heq ht
  have hfield {name : String} {names : List PyStr}
      (hopens : Opens names value) (hname : py name ∈ names)
      (hno : py name ∉ authorityTimes) :
      field value' name = field value name := by
    rcases h.field hopens hname with heq | ⟨htimes, _⟩
    · exact heq.symm
    · exact absurd htimes hno
  cases a with
  | observed t c s =>
      obtain ⟨hopens, ht, hfresh, hc, hname, hs⟩ := hok
      refine ⟨h.opens hopens, htime hopens (by decide) ht, hfresh, ?_, hname,
        ?_⟩
      · rw [hfield hopens (by decide) (by decide)]
        exact hc
      · rw [hfield hopens (by decide) (by decide)]
        exact hs
  | exception b i s t =>
      obtain ⟨hopens, ht, hfresh, hb, hi, hs⟩ := hok
      refine ⟨h.opens hopens, htime hopens (by decide) ht, hfresh, ?_, ?_, ?_⟩
      · rw [hfield hopens (by decide) (by decide)]
        exact hb
      · rw [hfield hopens (by decide) (by decide)]
        exact hi
      · rw [hfield hopens (by decide) (by decide)]
        exact hs

end Rewritings

-- ================================================================= intakes

namespace TaskIntakeV1

variable {rt : IntakeRuntime} {now : Timestamp} {data data' : PyJson}
  {n : Normalized}

/-- The values of an input are those of its rewritings. -/
theorem Accepts.rewritten (h : Accepts rt now data n)
    (hrewritten : Rewritten (RewrittenField rt) data data') :
    Accepts rt now data' n := by
  have hopens := h.opens
  -- a field that is no object is written in one way
  have hfield {name : String} (hname : py name ∈ inputFields)
      (hno : py name ∉ [py "architecture", py "governance", py "limits",
        py "m0_authority"]) : field data' name = field data name := by
    simp only [List.mem_cons, List.not_mem_nil, or_false, not_or] at hno
    rcases hrewritten.field hopens hname with heq | ⟨hobject, _⟩ | ⟨hm0, _⟩
    · exact heq.symm
    · simp only [List.mem_cons, List.not_mem_nil, or_false] at hobject
      rcases hobject with heq | heq | heq
      · exact absurd heq hno.1
      · exact absurd heq hno.2.1
      · exact absurd heq hno.2.2.1
    · exact absurd hm0 hno.2.2.2
  have hobject (name : String) (hname : py name ∈ inputFields)
      (hno : py name ≠ py "m0_authority") :
      field data name = field data' name
        ∨ Reordered (field data name) (field data' name) := by
    rcases hrewritten.field hopens hname with heq | ⟨_, hreordered⟩ | ⟨hm0, _⟩
    · exact .inl heq
    · exact .inr hreordered
    · exact absurd hm0 hno
  have harchitecture : ArchitectureHandoffV1.fromDict
      (field data' "architecture") = .ok n.architecture := by
    rcases hobject "architecture" (by decide) (by decide)
      with heq | hreordered
    · rw [← heq]
      exact h.architecture
    · exact ArchitectureHandoffV1.reordered hreordered h.architecture
  have hgovernance : GovernanceHandoffV1.fromDict
      (field data' "governance") = .ok n.governance := by
    rcases hobject "governance" (by decide) (by decide)
      with heq | hreordered
    · rw [← heq]
      exact h.governance
    · exact GovernanceHandoffV1.reordered hreordered h.governance
  have hlimits : TaskLimitsV1.ofValue (field data' "limits")
      = .ok n.limits := by
    rcases hobject "limits" (by decide) (by decide)
      with heq | hreordered
    · rw [← heq]
      exact h.limits
    · exact TaskLimitsV1.reordered hreordered h.limits
  have hauthority : M0AuthorityV1.fromDict rt now
      (field data' "m0_authority") = .ok n.m0Authority := by
    rcases hrewritten.field hopens
        (show py "m0_authority" ∈ inputFields by decide)
      with heq | ⟨hobject, _⟩ | ⟨_, hm0⟩
    · rw [← heq]
      exact h.authority
    · exact absurd hobject (by decide)
    · exact M0AuthorityV1.rewritten hm0 h.authority
  constructor
  case opens => exact hrewritten.opens hopens
  case architecture => exact harchitecture
  case governance => exact hgovernance
  case handoffs => exact h.handoffs
  case authority => exact hauthority
  case head => exact h.head
  case policy => exact h.policy
  case limits => exact hlimits
  all_goals rw [hfield (by decide) (by decide)]
  case version => exact h.version
  case policyDigest => exact h.policyDigest
  case acceptanceIds => exact h.acceptanceIds
  case sourceType => exact h.sourceType
  case requestId => exact h.requestId
  case repositoryId => exact h.repositoryId
  case sourceId => exact h.sourceId
  case sourceDigest => exact h.sourceDigest
  case routeId => exact h.routeId
  case changeId => exact h.changeId
  case exactBaseSha => exact h.exactBaseSha
  case specDigest => exact h.specDigest

end TaskIntakeV1

end Exolon.Contracts
