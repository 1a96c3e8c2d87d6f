/-
What an accepted intake says of its input.

`Accepts` has everything that `from_dict` found right, one field for each
check, and `normalized_eq_ok` says that it is nothing else. Each check
answers with what was written: `strOf` and its companions write the answer
back, so that the input is read off the intake.
-/
import Exolon.Factory.Rejects

namespace Exolon.Contracts

open Factory
open Transaction (bind_eq_ok)

-- ================================================================ writing

/-- A text, as a value. -/
def strOf (t : Text) : PyJson := .str (t.map codePoint)

/-- Texts, as a value. -/
def listOf (ts : List Text) : PyJson := .list (ts.map strOf)

theorem codePoint_injective : Function.Injective codePoint := by
  intro c d h
  exact Char.toNat_inj.mp (Fin.mk.inj h)

theorem strOf_inj {t u : Text} : strOf t = strOf u ↔ t = u := by
  unfold strOf
  rw [PyJson.str.injEq]
  exact (List.map_injective_iff.mpr codePoint_injective).eq_iff

theorem listOf_inj {ts us : List Text} : listOf ts = listOf us ↔ ts = us := by
  unfold listOf
  rw [PyJson.list.injEq]
  exact (List.map_injective_iff.mpr fun _ _ => strOf_inj.mp).eq_iff

theorem codePoint_of_scalar? {p : CodePoint} {c : Char}
    (h : PyStr.scalar? p = some c) : codePoint c = p := by
  unfold PyStr.scalar? at h
  split at h
  · cases h
  · next hscalar =>
      cases Option.some.inj h
      have hlt := p.isLt
      have hvalid : Nat.isValidChar p.val := by
        unfold Nat.isValidChar
        omega
      apply Fin.ext
      show (Char.ofNat p.val).toNat = p.val
      rw [Char.ofNat, dif_pos hvalid]
      rfl

theorem str_of_text? {s : PyStr} {t : Text} (h : PyStr.text? s = some t) :
    s = t.map codePoint := by
  induction s generalizing t with
  | nil =>
      cases Option.some.inj h
      rfl
  | cons p s ih =>
      unfold PyStr.text? at h
      rw [List.mapM_cons] at h
      obtain ⟨c, hc, h⟩ := Option.bind_eq_some_iff.mp h
      obtain ⟨rest, hrest, h⟩ := Option.bind_eq_some_iff.mp h
      cases Option.some.inj h
      rw [List.map_cons, codePoint_of_scalar? hc, ← ih hrest]

-- ================================================================ answers

section Answers

variable {rt : IntakeRuntime} {value : PyJson} {name : String} {t : Text}

theorem of_text {maximum : Nat} (h : text rt value name maximum = .ok t) :
    value = strOf t := by
  unfold text at h
  cases value with
  | str s =>
      dsimp only at h
      split at h
      · cases h
      · cases htext : PyStr.text? s with
        | none =>
            rw [htext] at h
            cases h
        | some u =>
            rw [htext] at h
            dsimp only at h
            split at h
            · cases h
            · cases h
              exact congrArg PyJson.str (str_of_text? htext)
  | _ => cases h

theorem of_identifier (h : identifier rt value name = .ok t) :
    value = strOf t := by
  unfold identifier at h
  obtain ⟨u, hu, h⟩ := bind_eq_ok.mp h
  split at h
  · cases h
    exact of_text hu
  · cases h

theorem of_hexText {width : Nat} (h : hexText width value = some t) :
    value = strOf t := by
  cases value with
  | str s =>
      obtain ⟨htext, _⟩ := Option.filter_eq_some_iff.mp h
      exact congrArg PyJson.str (str_of_text? htext)
  | _ => cases h

theorem of_sha (h : sha value name = .ok t) : value = strOf t := by
  unfold sha at h
  split at h
  · next htext =>
      cases h
      exact of_hexText htext
  · cases h

theorem of_digest {d : Digest} (h : digest value name = .ok d) :
    value = strOf d.text := by
  unfold digest at h
  split at h
  · next hdigest =>
      cases h
      obtain ⟨t, htext, hd⟩ := Option.bind_eq_some_iff.mp hdigest
      unfold digestOf at hd
      split at hd
      · cases hd
        exact of_hexText htext
      · cases hd
  · cases h

theorem of_texts? {items : List PyJson} {ts : List Text}
    (h : texts? items = some ts) : items = ts.map strOf := by
  unfold texts? at h
  obtain ⟨names, hnames, htexts⟩ := Option.bind_eq_some_iff.mp h
  rw [strings?_eq_some] at hnames
  subst hnames
  clear h
  induction names generalizing ts with
  | nil =>
      cases Option.some.inj htexts
      rfl
  | cons s names ih =>
      rw [List.mapM_cons] at htexts
      obtain ⟨t, ht, htexts⟩ := Option.bind_eq_some_iff.mp htexts
      obtain ⟨rest, hrest, htexts⟩ := Option.bind_eq_some_iff.mp htexts
      cases Option.some.inj htexts
      rw [List.map_cons, List.map_cons, ih hrest, str_of_text? ht]
      rfl

theorem of_acceptance {ids : List Text} (h : acceptance value = .ok ids) :
    value = listOf ids := by
  unfold acceptance at h
  cases value with
  | list items =>
      dsimp only at h
      split at h
      · cases h
      split at h
      · cases h
      split at h
      · cases h
      split at h
      · next hids =>
          split at h
          · cases h
            exact congrArg PyJson.list (of_texts? hids)
          · cases h
      · cases h
  | _ => cases h

theorem of_sourceType (h : sourceType value = .ok t) : value = strOf t := by
  unfold sourceType at h
  split at h
  · cases h
  split at h
  · next htext =>
      split at h
      · cases h
        exact (List.cons.inj (of_texts? htext)).1
      · cases h
  · cases h

/-- The instant that is written in a text. -/
def instantOf (rt : IntakeRuntime) : PyJson → Option Int
  | .str s => (rt.fromisoformat (replaceZ s)).bind DateTime.instant?
  | _ => none

theorem of_time {u : Timestamp} (h : time rt value name = .ok u) :
    instantOf rt value = some (u.instant : Int) := by
  unfold time at h
  cases value with
  | str s =>
      dsimp only at h
      split at h
      · cases h
      · next instant hinstant =>
          split at h
          · cases h
          · next hread =>
              cases h
              show (rt.fromisoformat (replaceZ s)).bind DateTime.instant? = _
              rw [hinstant, Timestamp.instant_of_ofInstant hread]
  | _ => cases h

/-- A time is told by its instant. -/
theorem time_of_instantOf {value' : PyJson}
    (h : instantOf rt value = instantOf rt value') {u : Timestamp}
    (hok : time rt value name = .ok u) : time rt value' name = .ok u := by
  have hsome := of_time hok
  cases value with
  | str s =>
      cases value' with
      | str s' =>
          unfold time at hok ⊢
          dsimp only at hok ⊢
          have hsame : (rt.fromisoformat (replaceZ s)).bind DateTime.instant?
              = (rt.fromisoformat (replaceZ s')).bind DateTime.instant? := h
          rw [← hsame]
          exact hok
      | _ =>
          rw [hsome] at h
          cases h
  | _ => cases hsome

end Answers

-- ================================================================ objects

/-- An object with the names, and no others. -/
def Opens (names : List PyStr) (value : PyJson) : Prop :=
  (∃ members, value = .dict members) ∧ closedSet value names = .ok ()

section Objects

variable {value : PyJson} {names : List PyStr} {name : String}

theorem Opens.subscript (h : Opens names value) (hname : py name ∈ names) :
    subscript value name = .ok (field value name) := by
  obtain ⟨⟨members, rfl⟩, hclosed⟩ := h
  exact subscript_of_closed hclosed hname

/-- What is closed, and subscripted from then on, is an object. -/
theorem closed_subscript_eq_ok {α : Type} {f : PyJson → Except Raised α}
    {a : α} (hname : py name ∈ names) :
    (closedSet value names >>= fun _ =>
        Contracts.subscript value name >>= f) = .ok a
      ↔ Opens names value ∧ f (field value name) = .ok a := by
  constructor
  · intro h
    obtain ⟨_, hclosed, h⟩ := bind_eq_ok.mp h
    obtain ⟨v, hv, h⟩ := bind_eq_ok.mp h
    cases value with
    | dict members =>
        have hopens : Opens names (.dict members) := ⟨⟨members, rfl⟩, hclosed⟩
        rw [hopens.subscript hname] at hv
        cases hv
        exact ⟨hopens, h⟩
    | _ => cases hv
  · rintro ⟨hopens, h⟩
    rw [hopens.2]
    show (Contracts.subscript value name >>= f) = _
    rw [hopens.subscript hname]
    exact h

theorem ArchitectureHandoffV1.fromDict_eq_ok {a : ArchitectureHandoffV1} :
    fromDict value = .ok a ↔ Opens fields value
      ∧ isOne (field value "architecture_contract_version") = true
      ∧ digest (field value "architecture_digest") "architecture_digest"
        = .ok a.architectureDigest
      ∧ digest (field value "architecture_evidence_digest")
        "architecture_evidence_digest" = .ok a.architectureEvidenceDigest
      ∧ sha (field value "exact_base_sha") "architecture.exact_base_sha"
        = .ok a.exactBaseSha
      ∧ sha (field value "exact_head_sha") "architecture.exact_head_sha"
        = .ok a.exactHeadSha := by
  refine (closed_subscript_eq_ok (by decide)).trans ?_
  refine and_congr_right fun hopens => ?_
  have hsub : ∀ name : String, py name ∈ fields →
      Contracts.subscript value name = .ok (field value name) :=
    fun _ h => hopens.subscript h
  rw [hsub "architecture_digest" (by decide),
    hsub "architecture_evidence_digest" (by decide),
    hsub "exact_base_sha" (by decide), hsub "exact_head_sha" (by decide)]
  simp only [bind_eq_ok, require_eq_ok, Except.ok.injEq]
  constructor
  · rintro ⟨_, hone, _, rfl, d, hd, _, rfl, e, he, _, rfl, b, hb, _, rfl, c,
      hc, rfl⟩
    exact ⟨hone, hd, he, hb, hc⟩
  · rintro ⟨hone, hd, he, hb, hc⟩
    exact ⟨(), hone, _, rfl, _, hd, _, rfl, _, he, _, rfl, _, hb, _, rfl, _,
      hc, rfl⟩

theorem GovernanceHandoffV1.fromDict_eq_ok {g : GovernanceHandoffV1} :
    fromDict value = .ok g ↔ Opens fields value
      ∧ isOne (field value "governance_contract_version") = true
      ∧ digest (field value "governance_digest") "governance_digest"
        = .ok g.governanceDigest
      ∧ digest (field value "governance_evidence_digest")
        "governance_evidence_digest" = .ok g.governanceEvidenceDigest
      ∧ digest (field value "architecture_digest")
        "governance.architecture_digest" = .ok g.architectureDigest
      ∧ sha (field value "exact_base_sha") "governance.exact_base_sha"
        = .ok g.exactBaseSha
      ∧ sha (field value "exact_head_sha") "governance.exact_head_sha"
        = .ok g.exactHeadSha := by
  refine (closed_subscript_eq_ok (by decide)).trans ?_
  refine and_congr_right fun hopens => ?_
  have hsub : ∀ name : String, py name ∈ fields →
      Contracts.subscript value name = .ok (field value name) :=
    fun _ h => hopens.subscript h
  rw [hsub "governance_digest" (by decide),
    hsub "governance_evidence_digest" (by decide),
    hsub "architecture_digest" (by decide),
    hsub "exact_base_sha" (by decide), hsub "exact_head_sha" (by decide)]
  simp only [bind_eq_ok, require_eq_ok, Except.ok.injEq]
  constructor
  · rintro ⟨_, hone, _, rfl, d, hd, _, rfl, e, he, _, rfl, a, ha, _, rfl, b,
      hb, _, rfl, c, hc, rfl⟩
    exact ⟨hone, hd, he, ha, hb, hc⟩
  · rintro ⟨hone, hd, he, ha, hb, hc⟩
    exact ⟨(), hone, _, rfl, _, hd, _, rfl, _, he, _, rfl, _, ha, _, rfl, _,
      hb, _, rfl, _, hc, rfl⟩

theorem TaskLimitsV1.of_limit {members : Members} {ceiling : Nat}
    {n : { n : Nat // n ≤ ceiling }}
    (h : limit members name ceiling = .ok n) :
    members.lookup (py name) = some (.int n.val) := by
  unfold limit at h
  split at h
  · next k hlookup =>
      split at h
      · cases h
        exact hlookup
      · cases h
  · cases h

/-- The names of an object, checked as a set or as a list. -/
theorem closed_of_opens {members : Members}
    (h : Opens names (.dict members)) : closed members names = .ok () := by
  obtain ⟨items, hitems, hset⟩ := closedSet_eq_ok.mp h.2
  cases Except.ok.inj hitems
  unfold M0AuthorityV1.isSet at hset
  rw [Bool.and_eq_true, List.all_eq_true, List.all_eq_true] at hset
  have hunknown : (members.map Prod.fst).filter (fun name => name ∉ names)
      = [] := by
    rw [List.filter_eq_nil_iff]
    intro key hkey
    obtain ⟨member, hmember, rfl⟩ := List.mem_map.mp hkey
    obtain ⟨s, hs, heq⟩ := isNamed_iff.mp
      (hset.1 _ (List.mem_map_of_mem hmember))
    cases heq
    simpa using hs
  have hmissing : names.filter
      (fun name => name ∉ members.map Prod.fst) = [] := by
    rw [List.filter_eq_nil_iff]
    intro key hkey
    obtain ⟨item, hitem, hnamed⟩ := List.any_eq_true.mp (hset.2 key hkey)
    obtain ⟨member, hmember, rfl⟩ := List.mem_map.mp hitem
    obtain ⟨s, hs, heq⟩ := isNamed_iff.mp hnamed
    cases heq
    rw [List.mem_singleton] at hs
    rw [← hs]
    simpa using ⟨member.2, hmember⟩
  unfold closed
  dsimp only
  rw [if_neg (not_not.mpr hunknown), if_neg (not_not.mpr hmissing)]

/-- The limits are those that `asdict` would write. -/
theorem TaskLimitsV1.ofValue_eq_ok {l : TaskLimitsV1} :
    ofValue value = .ok l ↔ Opens fields value
      ∧ ∀ member ∈ l.toDict, value.get? member.1 = some member.2 := by
  have hvalue : ofValue value = .ok l ↔ ∃ members, value = .dict members
      ∧ Opens fields value ∧ fromDict members = .ok l := by
    unfold ofValue
    rw [bind_eq_ok]
    cases value with
    | dict members =>
        constructor
        · rintro ⟨_, hclosed, h⟩
          refine ⟨members, rfl, ⟨⟨members, rfl⟩, hclosed⟩, ?_⟩
          cases hlimits : fromDict members with
          | ok l' =>
              dsimp only at h
              rw [hlimits] at h
              cases h
              rfl
          | error c =>
              dsimp only at h
              rw [hlimits] at h
              cases h
        · rintro ⟨members', heq, hopens, h⟩
          cases heq
          refine ⟨(), hopens.2, ?_⟩
          dsimp only
          rw [h]
          rfl
    | _ =>
        refine iff_of_false ?_ ?_
        · rintro ⟨_, _, h⟩
          cases h
        · rintro ⟨_, heq, _⟩
          cases heq
  rw [hvalue]
  constructor
  · rintro ⟨members, rfl, hopens, h⟩
    refine ⟨hopens, ?_⟩
    unfold fromDict at h
    obtain ⟨_, _, h⟩ := bind_eq_ok.mp h
    obtain ⟨wall, hwall, h⟩ := bind_eq_ok.mp h
    obtain ⟨cost, hcost, h⟩ := bind_eq_ok.mp h
    obtain ⟨tokens, htokens, h⟩ := bind_eq_ok.mp h
    obtain ⟨output, houtput, h⟩ := bind_eq_ok.mp h
    obtain ⟨events, hevents, h⟩ := bind_eq_ok.mp h
    obtain ⟨retries, hretries, h⟩ := bind_eq_ok.mp h
    obtain ⟨repairs, hrepairs, h⟩ := bind_eq_ok.mp h
    split at h
    · cases h
      simp only [toDict, List.forall_mem_cons]
      exact ⟨of_limit hwall, of_limit hcost, of_limit htokens,
        of_limit houtput, of_limit hevents, of_limit hretries,
        of_limit hrepairs, List.forall_mem_nil _⟩
    · cases h
  · rintro ⟨hopens, h⟩
    obtain ⟨members, rfl⟩ := hopens.1
    refine ⟨members, rfl, hopens, ?_⟩
    simp only [toDict, List.forall_mem_cons] at h
    obtain ⟨hwall, hcost, htokens, houtput, hevents, hretries, hrepairs, _⟩ :=
      h
    unfold fromDict
    rw [closed_of_opens hopens, limit_ok hwall l.bounded.1,
      limit_ok hcost l.bounded.2.1, limit_ok htokens l.bounded.2.2.1,
      limit_ok houtput l.bounded.2.2.2.1, limit_ok hevents l.bounded.2.2.2.2.1,
      limit_ok hretries l.bounded.2.2.2.2.2, limit_ok hrepairs l.repairs.2]
    exact dif_pos l.repairs

-- ============================================================== authority

/-- What `from_dict` found right in an authority. -/
def M0AuthorityV1.Accepts (rt : IntakeRuntime) (now : Timestamp)
    (value : PyJson) : M0AuthorityV1 → Prop
  | .observed observedAt checkName exactHeadSha =>
      Opens observedFields value
        ∧ time rt (field value "observed_at") "observed_at" = .ok observedAt
        ∧ (observedAt.instant ≤ now.instant
          ∧ now.instant ≤ observedAt.instant + 300 * 1000000)
        ∧ text rt (field value "check_name") "check_name" 256 = .ok checkName
        ∧ isCheckName checkName = true
        ∧ sha (field value "exact_head_sha") "m0.exact_head_sha"
          = .ok exactHeadSha
  | .exception bootstrapException issuer scope expiresAt =>
      Opens exceptionFields value
        ∧ time rt (field value "expires_at") "expires_at" = .ok expiresAt
        ∧ now.instant < expiresAt.instant
        ∧ identifier rt (field value "bootstrap_exception")
          "bootstrap_exception" = .ok bootstrapException
        ∧ identifier rt (field value "issuer") "issuer" = .ok issuer
        ∧ identifier rt (field value "scope") "scope" = .ok scope

/-- The two forms have no name in common. -/
theorem M0AuthorityV1.not_isSet_observed {items : List PyJson}
    (h : isSet items exceptionFields = true) :
    isSet items observedFields = false := by
  rw [← Bool.not_eq_true]
  intro hobserved
  unfold isSet at h hobserved
  rw [Bool.and_eq_true, List.all_eq_true, List.all_eq_true] at h hobserved
  obtain ⟨item, hitem, hnamed⟩ := List.any_eq_true.mp
    (h.2 (py "issuer") (by decide))
  obtain ⟨s, hs, rfl⟩ := isNamed_iff.mp hnamed
  rw [List.mem_singleton] at hs
  obtain ⟨t, ht, heq⟩ := isNamed_iff.mp (hobserved.1 _ hitem)
  cases heq
  rw [hs] at ht
  exact absurd ht (by decide)

theorem opens_of_isSet {items : List PyJson} {v : PyJson}
    (hitems : elements value = .ok items)
    (hset : M0AuthorityV1.isSet items names = true)
    (hv : subscript value name = .ok v) : Opens names value := by
  refine ⟨?_, closedSet_eq_ok.mpr ⟨items, hitems, hset⟩⟩
  cases value with
  | dict members => exact ⟨members, rfl⟩
  | _ => cases hv

theorem M0AuthorityV1.observe_eq_ok {rt : IntakeRuntime} {now : Timestamp}
    {a : M0AuthorityV1} (hopens : Opens observedFields value) :
    observe rt now value = .ok a
      ↔ ∃ t c s, a = .observed t c s
        ∧ Accepts rt now value (.observed t c s) := by
  have hsub : ∀ name : String, py name ∈ observedFields →
      subscript value name = .ok (field value name) :=
    fun _ h => hopens.subscript h
  unfold observe
  rw [hsub "observed_at" (by decide), hsub "check_name" (by decide),
    hsub "exact_head_sha" (by decide)]
  simp only [bind_eq_ok, require_eq_ok, Except.ok.injEq]
  constructor
  · rintro ⟨_, rfl, t, ht, _, hfresh, _, rfl, c, hc, _, hname, _, rfl, s, hs,
      rfl⟩
    exact ⟨t, c, s, rfl, hopens, ht, hfresh, hc, hname, hs⟩
  · rintro ⟨t, c, s, rfl, _, ht, hfresh, hc, hname, hs⟩
    exact ⟨_, rfl, t, ht, (), hfresh, _, rfl, c, hc, (), hname, _, rfl, s, hs,
      rfl⟩

theorem M0AuthorityV1.except_eq_ok {rt : IntakeRuntime} {now : Timestamp}
    {a : M0AuthorityV1} (hopens : Opens exceptionFields value) :
    except rt now value = .ok a
      ↔ ∃ b i s t, a = .exception b i s t
        ∧ Accepts rt now value (.exception b i s t) := by
  have hsub : ∀ name : String, py name ∈ exceptionFields →
      subscript value name = .ok (field value name) :=
    fun _ h => hopens.subscript h
  unfold except
  rw [hsub "expires_at" (by decide), hsub "bootstrap_exception" (by decide),
    hsub "issuer" (by decide), hsub "scope" (by decide)]
  simp only [bind_eq_ok, require_eq_ok, Except.ok.injEq]
  constructor
  · rintro ⟨_, rfl, t, ht, _, hfresh, _, rfl, b, hb, _, rfl, i, hi, _, rfl, s,
      hs, rfl⟩
    exact ⟨b, i, s, t, rfl, hopens, ht, hfresh, hb, hi, hs⟩
  · rintro ⟨b, i, s, t, rfl, _, ht, hfresh, hb, hi, hs⟩
    exact ⟨_, rfl, t, ht, (), hfresh, _, rfl, b, hb, _, rfl, i, hi, _, rfl, s,
      hs, rfl⟩

theorem M0AuthorityV1.fromDict_eq_ok {rt : IntakeRuntime} {now : Timestamp}
    {a : M0AuthorityV1} :
    fromDict rt now value = .ok a ↔ Accepts rt now value a := by
  unfold fromDict
  rw [bind_eq_ok]
  constructor
  · rintro ⟨items, hitems, h⟩
    split at h
    · next hset =>
        obtain ⟨v, hv, _⟩ := bind_eq_ok.mp h
        have hopens := opens_of_isSet hitems hset hv
        obtain ⟨t, c, s, rfl, haccepts⟩ := (observe_eq_ok hopens).mp h
        exact haccepts
    split at h
    · next hset =>
        obtain ⟨v, hv, _⟩ := bind_eq_ok.mp h
        have hopens := opens_of_isSet hitems hset hv
        obtain ⟨b, i, s, t, rfl, haccepts⟩ := (except_eq_ok hopens).mp h
        exact haccepts
    · cases h
  · intro h
    cases a with
    | observed t c s =>
        obtain ⟨items, hitems, hset⟩ := closedSet_eq_ok.mp h.1.2
        refine ⟨items, hitems, ?_⟩
        rw [if_pos hset]
        exact (observe_eq_ok h.1).mpr ⟨t, c, s, rfl, h⟩
    | exception b i s t =>
        obtain ⟨items, hitems, hset⟩ := closedSet_eq_ok.mp h.1.2
        refine ⟨items, hitems, ?_⟩
        rw [if_neg (by rw [not_isSet_observed hset]; decide), if_pos hset]
        exact (except_eq_ok h.1).mpr ⟨b, i, s, t, rfl, h⟩

end Objects

-- ================================================================ intakes

namespace TaskIntakeV1

/-- What `from_dict` found right in an intake. -/
structure Accepts (rt : IntakeRuntime) (now : Timestamp) (data : PyJson)
    (n : Normalized) : Prop where
  opens : Opens inputFields data
  version : isOne (field data "contract_version") = true
  architecture : ArchitectureHandoffV1.fromDict (field data "architecture")
    = .ok n.architecture
  governance : GovernanceHandoffV1.fromDict (field data "governance")
    = .ok n.governance
  handoffs : n.architecture.architectureDigest
      = n.governance.architectureDigest
    ∧ n.architecture.exactBaseSha = n.governance.exactBaseSha
    ∧ n.architecture.exactHeadSha = n.governance.exactHeadSha
  authority : M0AuthorityV1.fromDict rt now (field data "m0_authority")
    = .ok n.m0Authority
  head : ∀ head ∈ n.m0Authority.exactHeadSha,
    head = n.governance.exactHeadSha
  policyDigest : digest (field data "policy_digest") "policy_digest"
    = .ok n.policyDigest
  policy : ∀ name ∈ n.m0Authority.checkName,
    '@' :: n.policyDigest.text.take 12 <:+ name
  acceptanceIds : acceptance (field data "acceptance_ids")
    = .ok n.acceptanceIds
  sourceType : Contracts.sourceType (field data "source_type")
    = .ok n.sourceType
  requestId : identifier rt (field data "request_id") "request_id"
    = .ok n.requestId
  repositoryId : identifier rt (field data "repository_id") "repository_id"
    = .ok n.repositoryId
  sourceId : identifier rt (field data "source_id") "source_id"
    = .ok n.sourceId
  sourceDigest : digest (field data "source_digest") "source_digest"
    = .ok n.sourceDigest
  routeId : identifier rt (field data "route_id") "route_id" = .ok n.routeId
  changeId : identifier rt (field data "change_id") "change_id"
    = .ok n.changeId
  exactBaseSha : sha (field data "exact_base_sha") "exact_base_sha"
    = .ok n.exactBaseSha
  specDigest : digest (field data "spec_digest") "spec_digest"
    = .ok n.specDigest
  limits : TaskLimitsV1.ofValue (field data "limits") = .ok n.limits

variable {rt : IntakeRuntime} {now : Timestamp} {data : PyJson}

theorem opened_eq_ok : opened data = .ok ()
    ↔ Opens inputFields data
      ∧ isOne (field data "contract_version") = true := by
  refine (closed_subscript_eq_ok (by decide)).trans ?_
  rw [require_eq_ok]

theorem handoffs_eq_ok {p : ArchitectureHandoffV1 × GovernanceHandoffV1} :
    TaskIntakeV1.handoffs data = .ok p
      ↔ (Opens inputFields data
          ∧ isOne (field data "contract_version") = true)
        ∧ ArchitectureHandoffV1.fromDict (field data "architecture")
          = .ok p.1
        ∧ GovernanceHandoffV1.fromDict (field data "governance") = .ok p.2
        ∧ p.1.architectureDigest = p.2.architectureDigest
        ∧ p.1.exactBaseSha = p.2.exactBaseSha
        ∧ p.1.exactHeadSha = p.2.exactHeadSha := by
  have hsub (hopens : Opens inputFields data) : ∀ name : String,
      py name ∈ inputFields → subscript data name = .ok (field data name) :=
    fun _ h => hopens.subscript h
  unfold TaskIntakeV1.handoffs
  rw [← opened_eq_ok, bind_eq_ok]
  constructor
  · rintro ⟨_, hopened, h⟩
    have hsub := hsub (opened_eq_ok.mp hopened).1
    rw [hsub "architecture" (by decide), hsub "governance" (by decide)] at h
    simp only [bind_eq_ok, require_eq_ok, Except.ok.injEq, exists_eq_left']
      at h
    obtain ⟨a, ha, g, hg, _, hagree, rfl⟩ := h
    exact ⟨hopened, ha, hg, hagree⟩
  · rintro ⟨hopened, ha, hg, hagree⟩
    have hsub := hsub (opened_eq_ok.mp hopened).1
    refine ⟨(), hopened, ?_⟩
    rw [hsub "architecture" (by decide), hsub "governance" (by decide)]
    simp only [bind_eq_ok, require_eq_ok, Except.ok.injEq, exists_eq_left']
    exact ⟨_, ha, _, hg, (), hagree, rfl⟩

theorem normalized_eq_ok {n : Normalized} :
    normalized rt now data = .ok n ↔ Accepts rt now data n := by
  have hsub (hopens : Opens inputFields data) : ∀ name : String,
      py name ∈ inputFields → subscript data name = .ok (field data name) :=
    fun _ h => hopens.subscript h
  unfold normalized checked authorized
  constructor
  · intro h
    obtain ⟨c, hc, h⟩ := bind_eq_ok.mp h
    obtain ⟨a, ha, hc⟩ := bind_eq_ok.mp hc
    obtain ⟨p, hp, ha⟩ := bind_eq_ok.mp ha
    obtain ⟨⟨hopens, hone⟩, harchitecture, hgovernance, hagree⟩ :=
      handoffs_eq_ok.mp hp
    have hsub := hsub hopens
    obtain ⟨architecture, governance⟩ := p
    dsimp only at ha
    rw [hsub "m0_authority" (by decide), hsub "policy_digest" (by decide)]
      at ha
    rw [hsub "acceptance_ids" (by decide), hsub "source_type" (by decide)]
      at hc
    rw [hsub "request_id" (by decide), hsub "repository_id" (by decide),
      hsub "source_id" (by decide), hsub "source_digest" (by decide),
      hsub "route_id" (by decide), hsub "change_id" (by decide),
      hsub "exact_base_sha" (by decide), hsub "spec_digest" (by decide),
      hsub "limits" (by decide)] at h
    simp only [bind_eq_ok, require_eq_ok, Except.ok.injEq, exists_eq_left']
      at ha hc h
    obtain ⟨m, hm, _, hhead, policy, hpolicy, _, hsuffix, rfl⟩ := ha
    obtain ⟨ids, hids, source, hsource, rfl⟩ := hc
    obtain ⟨request, hrequest, repository, hrepository, sourceId, hsourceId,
      sourceDigest, hsourceDigest, route, hroute, change, hchange, base,
      hbase, spec, hspec, limits, hlimits, rfl⟩ := h
    exact ⟨hopens, hone, harchitecture, hgovernance, hagree, hm, hhead,
      hpolicy, hsuffix, hids, hsource, hrequest, hrepository, hsourceId,
      hsourceDigest, hroute, hchange, hbase, hspec, hlimits⟩
  · intro h
    have hsub := hsub h.opens
    have hp : TaskIntakeV1.handoffs data
        = .ok (n.architecture, n.governance) :=
      handoffs_eq_ok.mpr ⟨⟨h.opens, h.version⟩, h.architecture, h.governance,
        h.handoffs⟩
    rw [hp]
    rw [hsub "m0_authority" (by decide), hsub "policy_digest" (by decide),
      hsub "acceptance_ids" (by decide), hsub "source_type" (by decide),
      hsub "request_id" (by decide), hsub "repository_id" (by decide),
      hsub "source_id" (by decide), hsub "source_digest" (by decide),
      hsub "route_id" (by decide), hsub "change_id" (by decide),
      hsub "exact_base_sha" (by decide), hsub "spec_digest" (by decide),
      hsub "limits" (by decide)]
    simp only [bind_eq_ok, require_eq_ok, Except.ok.injEq, exists_eq_left']
    exact ⟨_, ⟨_, ⟨_, h.authority, (), h.head, _, h.policyDigest, (), h.policy,
      rfl⟩, _, h.acceptanceIds, _, h.sourceType, rfl⟩, _, h.requestId, _,
      h.repositoryId, _, h.sourceId, _, h.sourceDigest, _, h.routeId, _,
      h.changeId, _, h.exactBaseSha, _, h.specDigest, _, h.limits, rfl⟩

end TaskIntakeV1

end Exolon.Contracts
