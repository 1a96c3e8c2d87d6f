/-
Which intakes are refused with another exception than `ContractError`.

`Fits` says where `from_dict` takes a value for granted: its set is made, or
its elements are sorted, before anything is known of it; a text is encoded
before it is known to be encodable; a time is changed to UTC before it is
known to have a reading there. Each condition is one on the value at that
place, and stands only where the checks before it pass
(`fromDict_only_iff`).
-/
import Exolon.Factory.Intake
import Exolon.Lib.Transaction

namespace Exolon.Contracts

open Factory
open Semantic (isIdentifier isSortedUnique)
open Transaction (Only only_ok only_error only_bind bind_eq_ok)

/-- An error that is a `ContractError`. -/
def IsContract (e : Raised) : Prop := ∃ c, e = .contract c

/-- The value under a name of a `dict`. -/
def field (value : PyJson) (name : String) : PyJson :=
  (value.get? (py name)).getD .none

/-- A check that passes. -/
def Passes {ε α : Type} (x : Except ε α) : Prop := ∃ a, x = .ok a

-- ============================================================== conditions

/-- A value that `_closed` and the subscripts after it can take: an object,
or one that is refused before it is read. -/
def Closable (names : List PyStr) : PyJson → Prop
  | .dict _ => True
  | .str _ => True
  | .list items =>
      (∀ item ∈ items, item.isStr = true)
        ∧ M0AuthorityV1.isSet items names = false
  | _ => False

/-- A value that the two forms of an authority can be told from. -/
def Formed : PyJson → Prop
  | .dict _ => True
  | .str _ => True
  | .list items =>
      (∀ item ∈ items, hashable item = true)
        ∧ M0AuthorityV1.isSet items M0AuthorityV1.observedFields = false
        ∧ M0AuthorityV1.isSet items M0AuthorityV1.exceptionFields = false
  | _ => False

/-- A string has no unpaired surrogate. -/
def Encodable (value : PyJson) : Prop :=
  ∀ s, value = .str s → ∃ t, PyStr.text? s = some t

/-- A time has a reading in UTC. -/
def Datable (rt : IntakeRuntime) (value : PyJson) : Prop :=
  ∀ s instant, value = .str s →
    (rt.fromisoformat (replaceZ s)).bind DateTime.instant? = some instant →
      0 ≤ instant ∧ instant < Timestamp.maxDays * Timestamp.microsecondsADay

/-- A list can be made a set and sorted: its elements have a hash, and one
kind. -/
def Sortable : PyJson → Prop
  | .list items => (∀ item ∈ items, hashable item = true)
      ∧ ∀ a ∈ items, ∀ b ∈ items, kind a = kind b
  | _ => True

/-- Of an observed authority. -/
structure Observable (rt : IntakeRuntime) (now : Timestamp)
    (value : PyJson) : Prop where
  observedAt : Datable rt (field value "observed_at")
  checkName : (∃ t, time rt (field value "observed_at") "observed_at" = .ok t
      ∧ t.instant ≤ now.instant
      ∧ now.instant ≤ t.instant + 300 * 1000000) →
    Encodable (field value "check_name")

/-- Of an exception. -/
structure Exceptable (rt : IntakeRuntime) (now : Timestamp)
    (value : PyJson) : Prop where
  expiresAt : Datable rt (field value "expires_at")
  names : (∃ t, time rt (field value "expires_at") "expires_at" = .ok t
      ∧ now.instant < t.instant) →
    Encodable (field value "bootstrap_exception")
      ∧ (Passes (identifier rt (field value "bootstrap_exception")
          "bootstrap_exception") →
        Encodable (field value "issuer")
          ∧ (Passes (identifier rt (field value "issuer") "issuer") →
            Encodable (field value "scope")))

/-- Of an authority. -/
structure Authorizable (rt : IntakeRuntime) (now : Timestamp)
    (value : PyJson) : Prop where
  formed : Formed value
  observed : ∀ items, elements value = .ok items →
    M0AuthorityV1.isSet items M0AuthorityV1.observedFields = true →
      Observable rt now value
  exception : ∀ items, elements value = .ok items →
    M0AuthorityV1.isSet items M0AuthorityV1.observedFields = false →
    M0AuthorityV1.isSet items M0AuthorityV1.exceptionFields = true →
      Exceptable rt now value

/-- Of the values that are checked last, in their order. -/
def Nameable (rt : IntakeRuntime) (data : PyJson) : Prop :=
  let passes (name : String) := Passes (identifier rt (field data name) name)
  Encodable (field data "request_id")
    ∧ (passes "request_id" → Encodable (field data "repository_id")
    ∧ (passes "repository_id" → Encodable (field data "source_id")
    ∧ (passes "source_id" → Passes (digest (field data "source_digest")
        "source_digest") → Encodable (field data "route_id")
    ∧ (passes "route_id" → Encodable (field data "change_id")
    ∧ (passes "change_id"
      → Passes (sha (field data "exact_base_sha") "exact_base_sha")
      → Passes (digest (field data "spec_digest") "spec_digest")
      → Closable TaskLimitsV1.fields (field data "limits"))))))

/-- No value is taken for what it is not, where the checks before it pass. -/
structure Fits (rt : IntakeRuntime) (now : Timestamp) (data : PyJson) :
    Prop where
  intake : Closable TaskIntakeV1.inputFields data
  architecture : Passes (TaskIntakeV1.opened data) →
    Closable ArchitectureHandoffV1.fields (field data "architecture")
  governance : Passes (TaskIntakeV1.opened data) →
    Passes (ArchitectureHandoffV1.fromDict (field data "architecture")) →
      Closable GovernanceHandoffV1.fields (field data "governance")
  authority : Passes (TaskIntakeV1.handoffs data) →
    Authorizable rt now (field data "m0_authority")
  acceptanceIds : Passes (TaskIntakeV1.authorized rt now data) →
    Sortable (field data "acceptance_ids")
  sourceType : Passes (TaskIntakeV1.authorized rt now data) →
    Passes (acceptance (field data "acceptance_ids")) →
      hashable (field data "source_type") = true
  names : Passes (TaskIntakeV1.checked rt now data) → Nameable rt data

-- ================================================================= values

section Values

variable {α : Type} {names : List PyStr} {value : PyJson} {name : String}

@[simp] theorem only_refuse {code detail : String} :
    Only IsContract (refuse code detail : Except Raised α) ↔ True := by
  unfold refuse
  rw [only_error]
  exact iff_true_intro ⟨_, rfl⟩

@[simp] theorem only_require {p : Prop} [Decidable p]
    {code detail : String} :
    Only IsContract (require p code detail) ↔ True := by
  unfold require
  split
  · exact only_ok
  · exact only_refuse

theorem require_eq_ok {p : Prop} [Decidable p] {code detail : String}
    {u : Unit} : require p code detail = .ok u ↔ p := by
  unfold require
  by_cases h : p
  · rw [if_pos h]
    exact iff_of_true rfl h
  · rw [if_neg h]
    exact iff_of_false (fun heq => by cases heq) h

theorem isNamed_iff {v : PyJson} :
    isNamed names v = true ↔ ∃ s ∈ names, v = .str s := by
  cases v with
  | str s => simp [isNamed]
  | _ => simp [isNamed]

theorem strings?_eq_some {items : List PyJson} {texts : List PyStr} :
    strings? items = some texts ↔ items = texts.map .str := by
  induction items generalizing texts with
  | nil =>
      cases texts with
      | nil => exact iff_of_true rfl rfl
      | cons s texts =>
          exact iff_of_false (fun h => by cases h) (fun h => by cases h)
  | cons item items ih =>
      cases item with
      | str s =>
          rw [strings?, Option.map_eq_some_iff]
          cases texts with
          | nil =>
              refine iff_of_false ?_ (fun h => by cases h)
              rintro ⟨_, _, h⟩
              cases h
          | cons s' texts =>
              rw [List.map_cons, List.cons.injEq, PyJson.str.injEq]
              constructor
              · rintro ⟨rest, hrest, heq⟩
                cases heq
                exact ⟨rfl, ih.mp hrest⟩
              · rintro ⟨rfl, hrest⟩
                exact ⟨texts, ih.mpr hrest, rfl⟩
      | _ =>
          cases texts with
          | nil => exact iff_of_false (fun h => by cases h) (fun h => by cases h)
          | cons s texts =>
              exact iff_of_false (fun h => by cases h) (fun h => by cases h)

theorem strings?_isSome {items : List PyJson} :
    (∃ texts, strings? items = some texts)
      ↔ ∀ item ∈ items, item.isStr = true := by
  simp only [strings?_eq_some]
  constructor
  · rintro ⟨texts, rfl⟩ item hitem
    obtain ⟨s, _, rfl⟩ := List.mem_map.mp hitem
    rfl
  · intro h
    induction items with
    | nil => exact ⟨[], rfl⟩
    | cons item items ih =>
        rw [List.forall_mem_cons] at h
        obtain ⟨texts, rfl⟩ := ih h.2
        cases item with
        | str s => exact ⟨s :: texts, rfl⟩
        | _ => cases h.1

/-- What passes `_closed` has the names and no others. -/
theorem closedSet_eq_ok {u : Unit} :
    closedSet value names = .ok u
      ↔ ∃ items, elements value = .ok items
        ∧ M0AuthorityV1.isSet items names = true := by
  unfold closedSet
  rw [bind_eq_ok]
  refine exists_congr fun items => and_congr_right fun _ => ?_
  unfold M0AuthorityV1.isSet
  have hunknown : (items.filter fun item => !isNamed names item).isEmpty = true
      ↔ items.all (isNamed names) = true := by
    simp [List.filter_eq_nil_iff]
  have hmissing : (names.filter fun name => !items.any (isNamed [name])) = []
      ↔ (names.all fun name => items.any (isNamed [name])) = true := by
    simp [List.filter_eq_nil_iff]
  rw [Bool.and_eq_true, ← hunknown, ← hmissing]
  constructor
  · intro h
    dsimp only at h
    split at h
    · next hempty =>
        split at h
        · next hnil => exact ⟨hempty, hnil⟩
        · cases h
    · split at h <;> cases h
  · rintro ⟨hempty, hnil⟩
    rw [if_pos hempty, if_pos hnil]

/-- What `_closed` does with the elements of a set. -/
theorem only_closedItems {items : List PyJson} :
    Only IsContract (
      let unknown := items.filter fun item => !isNamed names item
      let missing := names.filter fun name => !items.any (isNamed [name])
      if unknown.isEmpty then
        if missing = [] then .ok ()
        else .error (.contract ⟨"missing_fields", joinedNames missing⟩)
      else
        match strings? unknown with
        | some names =>
            .error (.contract ⟨"unknown_fields", joinedNames names.dedup⟩)
        | none => .error .typeError : Except Raised Unit)
      ↔ ∀ item ∈ items, item.isStr = true := by
  have hknown : (∀ item ∈ items, item.isStr = true)
      ↔ ∀ item ∈ items.filter (fun item => !isNamed names item),
        item.isStr = true := by
    constructor
    · exact fun h item hitem => h item (List.mem_filter.mp hitem).1
    · intro h item hitem
      by_cases hnamed : isNamed names item = true
      · obtain ⟨s, _, rfl⟩ := isNamed_iff.mp hnamed
        rfl
      · exact h item (List.mem_filter.mpr ⟨hitem, by simpa using hnamed⟩)
  dsimp only
  rw [hknown, ← strings?_isSome]
  split
  · next hempty =>
      rw [List.isEmpty_iff] at hempty
      rw [hempty]
      refine iff_of_true ?_ ⟨[], rfl⟩
      split
      · exact only_ok.mpr trivial
      · exact only_error.mpr ⟨_, rfl⟩
  · split
    · next texts htexts =>
        exact iff_of_true (only_error.mpr ⟨_, rfl⟩) ⟨texts, htexts⟩
    · next hnone =>
        refine iff_of_false ?_ ?_
        · rw [only_error]
          rintro ⟨_, h⟩
          cases h
        · rintro ⟨texts, htexts⟩
          rw [hnone] at htexts
          cases htexts

/-- `_closed` refuses a list of strings, and no other list. -/
theorem only_closedSet : Only IsContract (closedSet value names)
    ↔ match value with
      | .dict _ => True
      | .str _ => True
      | .list items => ∀ item ∈ items, item.isStr = true
      | _ => False := by
  have htype : Only IsContract (.error .typeError : Except Raised Unit)
      ↔ False := by
    rw [only_error, iff_false]
    rintro ⟨_, h⟩
    cases h
  cases value with
  | dict members =>
      refine iff_of_true ?_ trivial
      refine only_closedItems.mpr fun item hitem => ?_
      obtain ⟨member, _, rfl⟩ := List.mem_map.mp hitem
      rfl
  | str s =>
      refine iff_of_true ?_ trivial
      refine only_closedItems.mpr fun item hitem => ?_
      obtain ⟨c, _, rfl⟩ := List.mem_map.mp hitem
      rfl
  | list items =>
      show Only IsContract ((if items.all hashable then .ok items
        else .error .typeError) >>= _) ↔ _
      by_cases hall : items.all hashable = true
      · rw [if_pos hall]
        exact only_closedItems
      · rw [if_neg hall]
        refine htype.trans (iff_of_false id fun hstr => hall ?_)
        rw [List.all_eq_true]
        intro item hitem
        have hitemstr := hstr item hitem
        cases item with
        | str s => rfl
        | _ => cases hitemstr
  | _ => exact htype

/-- An object that passes has every name. -/
theorem subscript_of_closed {members : Members}
    (h : closedSet (.dict members) names = .ok ())
    (hname : py name ∈ names) :
    subscript (.dict members) name = .ok (field (.dict members) name) := by
  obtain ⟨items, hitems, hset⟩ := closedSet_eq_ok.mp h
  cases Except.ok.inj hitems
  unfold M0AuthorityV1.isSet at hset
  rw [Bool.and_eq_true, List.all_eq_true, List.all_eq_true] at hset
  obtain ⟨item, hitem, hnamed⟩ := List.any_eq_true.mp (hset.2 _ hname)
  obtain ⟨member, hmember, rfl⟩ := List.mem_map.mp hitem
  obtain ⟨s, hs, heq⟩ := isNamed_iff.mp hnamed
  rw [List.mem_singleton] at hs
  cases heq
  have hsome : (members.lookup (py name)).isSome = true := by
    rw [List.lookup_isSome_iff]
    exact ⟨member, hmember, by rw [← hs]; exact beq_self_eq_true _⟩
  obtain ⟨v, hv⟩ := Option.isSome_iff_exists.mp hsome
  unfold subscript field PyJson.get?
  dsimp only
  rw [hv]
  rfl

/-- The characters of a string are no names. -/
theorem isSet_characters {s : PyStr} {items : List PyJson}
    (hitems : elements (.str s) = .ok items)
    (hlong : ∃ long ∈ names, long.length ≠ 1) :
    M0AuthorityV1.isSet items names = false := by
  cases Except.ok.inj hitems
  rw [← Bool.not_eq_true]
  intro hset
  unfold M0AuthorityV1.isSet at hset
  rw [Bool.and_eq_true, List.all_eq_true, List.all_eq_true] at hset
  obtain ⟨long, hmem, hne⟩ := hlong
  obtain ⟨item, hitem, hnamed⟩ := List.any_eq_true.mp (hset.2 long hmem)
  obtain ⟨c, _, rfl⟩ := List.mem_map.mp hitem
  obtain ⟨t, ht, heq⟩ := isNamed_iff.mp hnamed
  rw [List.mem_singleton] at ht
  cases PyJson.str.inj heq
  rw [← ht] at hne
  exact hne rfl

theorem only_typeError :
    Only IsContract (.error .typeError : Except Raised α) ↔ False := by
  rw [only_error, iff_false]
  rintro ⟨_, h⟩
  cases h

/-- What is closed, and read from then on as an object. -/
theorem only_closed {rest : Except Raised α}
    (hlong : ∃ long ∈ names, long.length ≠ 1)
    (hlist : ∀ items, value = .list items → rest = .error .typeError) :
    Only IsContract (closedSet value names >>= fun _ => rest)
      ↔ Closable names value
        ∧ (closedSet value names = .ok () →
          ∀ members, value = .dict members → Only IsContract rest) := by
  rw [only_bind, only_closedSet]
  cases value with
  | dict members =>
      refine and_congr_right fun _ => ?_
      constructor
      · intro h hclosed _ _
        exact h () hclosed
      · intro h _ hclosed
        exact h hclosed members rfl
  | str s =>
      refine and_congr_right fun _ => iff_of_true ?_ ?_
      · intro _ hclosed
        obtain ⟨items, hitems, hset⟩ := closedSet_eq_ok.mp hclosed
        rw [isSet_characters hitems hlong] at hset
        cases hset
      · intro _ members h
        cases h
  | list items =>
      have hdict : closedSet (.list items) names = .ok () →
          ∀ members, PyJson.list items = .dict members →
            Only IsContract rest := by
        intro _ members h
        cases h
      have hclosed (hstr : ∀ item ∈ items, item.isStr = true) :
          closedSet (.list items) names = .ok ()
            ↔ M0AuthorityV1.isSet items names = true := by
        have hall : items.all hashable = true := by
          rw [List.all_eq_true]
          intro item hitem
          have hitemstr := hstr item hitem
          cases item with
          | str s => rfl
          | _ => cases hitemstr
        have helements : elements (.list items) = .ok items := if_pos hall
        rw [closedSet_eq_ok, helements]
        simp only [Except.ok.injEq, exists_eq_left']
      rw [and_iff_left hdict, hlist items rfl]
      refine and_congr_right fun hstr => ?_
      rw [← Bool.not_eq_true, ← hclosed hstr]
      constructor
      · intro h hok
        exact only_typeError.mp (h () hok)
      · exact fun h u hok => absurd hok h
  | _ => simp [Closable]

/-- What is closed, and subscripted from then on. -/
theorem only_closed_subscript {f : PyJson → Except Raised α}
    (hlong : ∃ long ∈ names, long.length ≠ 1) (hname : py name ∈ names) :
    Only IsContract
        (closedSet value names >>= fun _ => subscript value name >>= f)
      ↔ Closable names value
        ∧ (closedSet value names = .ok () →
          ∀ members, value = .dict members →
            Only IsContract (f (field value name))) := by
  rw [only_closed hlong]
  · refine and_congr_right fun _ => ?_
    constructor
    · rintro h hclosed members rfl
      have hrest := h hclosed members rfl
      rw [subscript_of_closed hclosed hname] at hrest
      exact hrest
    · rintro h hclosed members rfl
      rw [subscript_of_closed hclosed hname]
      exact h hclosed members rfl
  · rintro items rfl
    rfl

end Values

-- ================================================================= checks

section Checks

variable {rt : IntakeRuntime} {value : PyJson} {name : String}

theorem only_text {maximum : Nat} :
    Only IsContract (text rt value name maximum) ↔ Encodable value := by
  unfold text Encodable
  cases value with
  | str s =>
      simp only [PyJson.str.injEq, forall_eq']
      by_cases hnil : s = []
      · subst hnil
        rw [if_pos rfl]
        exact iff_of_true (only_refuse.mpr trivial) ⟨[], rfl⟩
      · rw [if_neg hnil]
        cases PyStr.text? s with
        | none =>
            refine iff_of_false ?_ (fun ⟨_, h⟩ => by cases h)
            rw [only_error]
            rintro ⟨_, h⟩
            cases h
        | some t =>
            refine iff_of_true ?_ ⟨t, rfl⟩
            dsimp only
            split
            · exact only_refuse.mpr trivial
            · exact only_ok.mpr trivial
  | _ => exact iff_of_true (only_refuse.mpr trivial) (fun s h => by cases h)

theorem only_identifier :
    Only IsContract (identifier rt value name) ↔ Encodable value := by
  unfold identifier
  rw [only_bind, only_text]
  refine and_iff_left fun t _ => ?_
  split
  · exact only_ok.mpr trivial
  · exact only_refuse.mpr trivial

theorem only_sha : Only IsContract (sha value name) := by
  unfold sha
  split
  · exact only_ok.mpr trivial
  · exact only_refuse.mpr trivial

theorem only_digest : Only IsContract (digest value name) := by
  unfold digest
  split
  · exact only_ok.mpr trivial
  · exact only_refuse.mpr trivial

theorem only_time :
    Only IsContract (time rt value name) ↔ Datable rt value := by
  unfold time Datable
  cases value with
  | str s =>
      dsimp only
      cases hparsed : (rt.fromisoformat (replaceZ s)).bind
          DateTime.instant? with
      | none =>
          refine iff_of_true (only_refuse.mpr trivial) ?_
          rintro s' instant heq hsome
          cases heq
          rw [hparsed] at hsome
          cases hsome
      | some instant =>
          dsimp only
          cases hread : Timestamp.ofInstant instant with
          | none =>
              refine iff_of_false ?_ fun h => ?_
              · rw [only_error]
                rintro ⟨_, h⟩
                cases h
              · exact Timestamp.ofInstant_eq_none.mp hread
                  (h s instant rfl hparsed)
          | some t =>
              refine iff_of_true (only_ok.mpr trivial) ?_
              rintro s' instant' heq hsome
              cases heq
              rw [hparsed] at hsome
              cases hsome
              by_contra hout
              rw [Timestamp.ofInstant_eq_none.mpr hout] at hread
              cases hread
  | _ =>
      refine iff_of_true (only_refuse.mpr trivial) ?_
      intro s instant h
      cases h

/-- A list of one kind, told by the kinds without repetition. -/
theorem dedup_length_eq_one {items : List PyJson} (hne : items ≠ []) :
    (items.map kind).dedup.length = 1
      ↔ ∀ a ∈ items, ∀ b ∈ items, kind a = kind b := by
  constructor
  · intro h a ha b hb
    obtain ⟨k, hk⟩ := List.length_eq_one_iff.mp h
    have hkind : ∀ c ∈ items, kind c = k := by
      intro c hc
      have hmem := List.mem_dedup.mpr (List.mem_map_of_mem (f := kind) hc)
      rw [hk] at hmem
      exact List.mem_singleton.mp hmem
    rw [hkind a ha, hkind b hb]
  · intro h
    obtain ⟨a, rest, rfl⟩ := List.exists_cons_of_ne_nil hne
    have hall : ∀ k ∈ (a :: rest).map kind, k = kind a := by
      intro k hk
      obtain ⟨b, hb, rfl⟩ := List.mem_map.mp hk
      exact h b hb a List.mem_cons_self
    have hreplicate := List.eq_replicate_of_mem hall
    rw [hreplicate, List.length_map, List.length_cons,
      List.replicate_dedup (Nat.succ_ne_zero _)]
    rfl

theorem only_acceptance :
    Only IsContract (acceptance value) ↔ Sortable value := by
  unfold acceptance Sortable
  cases value with
  | list items =>
      dsimp only
      by_cases hnil : items = []
      · subst hnil
        refine iff_of_true (only_refuse.mpr trivial) ⟨?_, ?_⟩
        · exact fun _ h => by cases h
        · exact fun _ h => by cases h
      rw [if_neg (by rwa [List.isEmpty_iff]), ← List.all_eq_true]
      by_cases hall : items.all hashable = true
      · rw [if_neg (by rw [hall]; decide), and_iff_right hall,
          ← dedup_length_eq_one hnil]
        by_cases hone : (items.map kind).dedup.length = 1
        · rw [if_neg (not_not.mpr hone)]
          refine iff_of_true ?_ hone
          split
          · split
            · exact only_ok.mpr trivial
            · exact only_refuse.mpr trivial
          · exact only_refuse.mpr trivial
        · rw [if_pos hone]
          exact iff_of_false only_typeError.mp hone
      · rw [if_pos (by simpa using hall)]
        exact iff_of_false only_typeError.mp (fun h => hall h.1)
  | _ => exact iff_of_true (only_refuse.mpr trivial) trivial

theorem only_sourceType :
    Only IsContract (sourceType value) ↔ hashable value = true := by
  unfold sourceType
  by_cases hhash : hashable value = true
  · rw [if_neg (by rw [hhash]; decide)]
    refine iff_of_true ?_ hhash
    split
    · split
      · exact only_ok.mpr trivial
      · exact only_refuse.mpr trivial
    · exact only_refuse.mpr trivial
  · rw [if_pos (by simpa using hhash)]
    exact iff_of_false only_typeError.mp hhash

/-- The links of a chain that may fail only as they should. -/
theorem only_next {α β : Type} {x : Except Raised α}
    {f : α → Except Raised β} (hx : Only IsContract x)
    (hf : ∀ a, x = .ok a → Only IsContract (f a)) :
    Only IsContract (x >>= f) :=
  only_bind.mpr ⟨hx, hf⟩

/-- A subscript that is known. -/
theorem only_subscript {β : Type} {v : PyJson} {f : PyJson → Except Raised β}
    (h : subscript value name = .ok v) :
    Only IsContract (subscript value name >>= f) ↔ Only IsContract (f v) := by
  rw [h]
  exact Iff.rfl

/-- A link whose answer does not matter to the rest. -/
theorem only_bind_passes {α β : Type} {x : Except Raised α}
    {f : α → Except Raised β} {p : Prop}
    (h : ∀ a, x = .ok a → (Only IsContract (f a) ↔ p)) :
    Only IsContract (x >>= f) ↔ Only IsContract x ∧ (Passes x → p) := by
  rw [only_bind]
  refine and_congr_right fun _ => ?_
  constructor
  · rintro hall ⟨a, ha⟩
    exact (h a ha).mp (hall a ha)
  · intro hp a ha
    exact (h a ha).mpr (hp ⟨a, ha⟩)

end Checks

-- ================================================================= records

section Records

variable {rt : IntakeRuntime} {now : Timestamp} {value data : PyJson}
  {name : String}

theorem only_architecture : Only IsContract
      (ArchitectureHandoffV1.fromDict value)
    ↔ Closable ArchitectureHandoffV1.fields value := by
  have hlong : ∃ long ∈ ArchitectureHandoffV1.fields, long.length ≠ 1 :=
    ⟨py "architecture_contract_version", by decide, by decide⟩
  refine (only_closed_subscript hlong (by decide)).trans (and_iff_left ?_)
  rintro hclosed members rfl
  refine only_next (only_require.mpr trivial) fun _ _ => ?_
  refine (only_subscript (subscript_of_closed hclosed (by decide))).mpr ?_
  refine only_next only_digest fun _ _ => ?_
  refine (only_subscript (subscript_of_closed hclosed (by decide))).mpr ?_
  refine only_next only_digest fun _ _ => ?_
  refine (only_subscript (subscript_of_closed hclosed (by decide))).mpr ?_
  refine only_next only_sha fun _ _ => ?_
  refine (only_subscript (subscript_of_closed hclosed (by decide))).mpr ?_
  refine only_next only_sha fun _ _ => ?_
  exact only_ok.mpr trivial

theorem only_governance : Only IsContract
      (GovernanceHandoffV1.fromDict value)
    ↔ Closable GovernanceHandoffV1.fields value := by
  have hlong : ∃ long ∈ GovernanceHandoffV1.fields, long.length ≠ 1 :=
    ⟨py "governance_contract_version", by decide, by decide⟩
  refine (only_closed_subscript hlong (by decide)).trans (and_iff_left ?_)
  rintro hclosed members rfl
  refine only_next (only_require.mpr trivial) fun _ _ => ?_
  refine (only_subscript (subscript_of_closed hclosed (by decide))).mpr ?_
  refine only_next only_digest fun _ _ => ?_
  refine (only_subscript (subscript_of_closed hclosed (by decide))).mpr ?_
  refine only_next only_digest fun _ _ => ?_
  refine (only_subscript (subscript_of_closed hclosed (by decide))).mpr ?_
  refine only_next only_digest fun _ _ => ?_
  refine (only_subscript (subscript_of_closed hclosed (by decide))).mpr ?_
  refine only_next only_sha fun _ _ => ?_
  refine (only_subscript (subscript_of_closed hclosed (by decide))).mpr ?_
  refine only_next only_sha fun _ _ => ?_
  exact only_ok.mpr trivial

/-- The limits are not subscripted, but taken as keywords. -/
theorem only_limits : Only IsContract (TaskLimitsV1.ofValue value)
    ↔ Closable TaskLimitsV1.fields value := by
  have hlong : ∃ long ∈ TaskLimitsV1.fields, long.length ≠ 1 :=
    ⟨py "wall_seconds", by decide, by decide⟩
  refine (only_closed hlong ?_).trans (and_iff_left ?_)
  · rintro items rfl
    rfl
  · rintro _ members rfl e he
    cases hlimits : TaskLimitsV1.fromDict members with
    | ok l =>
        dsimp only at he
        rw [hlimits] at he
        cases he
    | error c =>
        dsimp only at he
        rw [hlimits] at he
        cases he
        exact ⟨c, rfl⟩

-- =============================================================== authority

/-- A set of names that an object has. -/
theorem subscript_of_isSet {members : Members} {items : List PyJson}
    {names : List PyStr} (hitems : elements (.dict members) = .ok items)
    (hset : M0AuthorityV1.isSet items names = true)
    (hname : py name ∈ names) :
    subscript (.dict members) name = .ok (field (.dict members) name) :=
  subscript_of_closed (closedSet_eq_ok.mpr ⟨items, hitems, hset⟩) hname

theorem only_observe {members : Members} {items : List PyJson}
    (hitems : elements (.dict members) = .ok items)
    (hset : M0AuthorityV1.isSet items M0AuthorityV1.observedFields = true) :
    Only IsContract (M0AuthorityV1.observe rt now (.dict members))
      ↔ Observable rt now (.dict members) := by
  unfold M0AuthorityV1.observe
  rw [only_subscript (subscript_of_isSet hitems hset (by decide)), only_bind,
    only_time]
  constructor
  · rintro ⟨hdate, hrest⟩
    refine ⟨hdate, ?_⟩
    rintro ⟨t, ht, hfresh⟩
    have hnext := (only_bind.mp (hrest t ht)).2 () (require_eq_ok.mpr hfresh)
    rw [only_subscript (subscript_of_isSet hitems hset (by decide)),
      only_bind, only_text] at hnext
    exact hnext.1
  · rintro ⟨hdate, hname⟩
    refine ⟨hdate, fun t ht => ?_⟩
    refine only_next (only_require.mpr trivial) fun u hu => ?_
    refine (only_subscript (subscript_of_isSet hitems hset (by decide))).mpr ?_
    refine only_next (only_text.mpr (hname ⟨t, ht, require_eq_ok.mp hu⟩))
      fun _ _ => ?_
    refine only_next (only_require.mpr trivial) fun _ _ => ?_
    refine (only_subscript (subscript_of_isSet hitems hset (by decide))).mpr ?_
    refine only_next only_sha fun _ _ => ?_
    exact only_ok.mpr trivial

theorem only_except {members : Members} {items : List PyJson}
    (hitems : elements (.dict members) = .ok items)
    (hset : M0AuthorityV1.isSet items M0AuthorityV1.exceptionFields = true) :
    Only IsContract (M0AuthorityV1.except rt now (.dict members))
      ↔ Exceptable rt now (.dict members) := by
  have hsub : ∀ name : String, py name ∈ M0AuthorityV1.exceptionFields →
      subscript (.dict members) name = .ok (field (.dict members) name) :=
    fun _ h => subscript_of_isSet hitems hset h
  unfold M0AuthorityV1.except
  rw [only_subscript (hsub _ (by decide)), only_bind, only_time]
  constructor
  · rintro ⟨hdate, hrest⟩
    refine ⟨hdate, ?_⟩
    rintro ⟨t, ht, hfresh⟩
    have hnext := (only_bind.mp (hrest t ht)).2 () (require_eq_ok.mpr hfresh)
    rw [only_subscript (hsub _ (by decide)), only_bind, only_identifier]
      at hnext
    refine ⟨hnext.1, ?_⟩
    rintro ⟨name, hname⟩
    have hissuer := hnext.2 name hname
    rw [only_subscript (hsub _ (by decide)), only_bind, only_identifier]
      at hissuer
    refine ⟨hissuer.1, ?_⟩
    rintro ⟨issuer, hok⟩
    have hscope := hissuer.2 issuer hok
    rw [only_subscript (hsub _ (by decide)), only_bind, only_identifier]
      at hscope
    exact hscope.1
  · rintro ⟨hdate, hnames⟩
    refine ⟨hdate, fun t ht => ?_⟩
    refine only_next (only_require.mpr trivial) fun u hu => ?_
    obtain ⟨hname, hissuer⟩ := hnames ⟨t, ht, require_eq_ok.mp hu⟩
    refine (only_subscript (hsub _ (by decide))).mpr ?_
    refine only_next (only_identifier.mpr hname) fun name hok => ?_
    obtain ⟨hissuer, hscope⟩ := hissuer ⟨name, hok⟩
    refine (only_subscript (hsub _ (by decide))).mpr ?_
    refine only_next (only_identifier.mpr hissuer) fun issuer hok => ?_
    refine (only_subscript (hsub _ (by decide))).mpr ?_
    refine only_next (only_identifier.mpr (hscope ⟨issuer, hok⟩))
      fun _ _ => ?_
    exact only_ok.mpr trivial

/-- A list of strings is a set of names, or is refused. -/
theorem elements_list {items : List PyJson} :
    elements (.list items)
      = if ∀ item ∈ items, hashable item = true then .ok items
        else .error .typeError := by
  unfold elements
  simp only [List.all_eq_true]

theorem subscript_list {items : List PyJson} :
    subscript (.list items) name = .error .typeError := rfl

theorem only_authority :
    Only IsContract (M0AuthorityV1.fromDict rt now value)
      ↔ Authorizable rt now value := by
  unfold M0AuthorityV1.fromDict
  rw [only_bind]
  cases value with
  | dict members =>
      constructor
      · rintro ⟨_, hrest⟩
        refine ⟨trivial, fun items hitems hset => ?_, ?_⟩
        · have h := hrest items hitems
          rw [if_pos hset] at h
          exact (only_observe hitems hset).mp h
        · intro items hitems hobserved hset
          have h := hrest items hitems
          rw [if_neg (by rw [hobserved]; decide), if_pos hset] at h
          exact (only_except hitems hset).mp h
      · rintro ⟨_, hobserve, hexcept⟩
        refine ⟨only_ok.mpr trivial, fun items hitems => ?_⟩
        by_cases hset : M0AuthorityV1.isSet items
            M0AuthorityV1.observedFields = true
        · rw [if_pos hset]
          exact (only_observe hitems hset).mpr (hobserve items hitems hset)
        · rw [if_neg hset]
          rw [Bool.not_eq_true] at hset
          by_cases hset' : M0AuthorityV1.isSet items
              M0AuthorityV1.exceptionFields = true
          · rw [if_pos hset']
            exact (only_except hitems hset').mpr
              (hexcept items hitems hset hset')
          · rw [if_neg hset']
            exact only_refuse.mpr trivial
  | str s =>
      have hobserved {items : List PyJson}
          (hitems : elements (.str s) = .ok items) :
          M0AuthorityV1.isSet items M0AuthorityV1.observedFields = false :=
        isSet_characters hitems ⟨py "observed_at", by decide, by decide⟩
      have hexception {items : List PyJson}
          (hitems : elements (.str s) = .ok items) :
          M0AuthorityV1.isSet items M0AuthorityV1.exceptionFields = false :=
        isSet_characters hitems ⟨py "issuer", by decide, by decide⟩
      refine iff_of_true ⟨only_ok.mpr trivial, ?_⟩ ⟨trivial, ?_, ?_⟩
      · intro items hitems
        rw [hobserved hitems, hexception hitems]
        exact only_refuse.mpr trivial
      · intro items hitems hset
        rw [hobserved hitems] at hset
        cases hset
      · intro items hitems _ hset
        rw [hexception hitems] at hset
        cases hset
  | list items =>
      rw [elements_list]
      by_cases hall : ∀ item ∈ items, hashable item = true
      · rw [if_pos hall]
        have helements : elements (.list items) = .ok items := by
          rw [elements_list, if_pos hall]
        constructor
        · rintro ⟨_, hrest⟩
          have h := hrest items rfl
          have hobserved : M0AuthorityV1.isSet items
              M0AuthorityV1.observedFields = false := by
            rw [← Bool.not_eq_true]
            intro hset
            rw [if_pos hset] at h
            exact only_typeError.mp h
          have hexception : M0AuthorityV1.isSet items
              M0AuthorityV1.exceptionFields = false := by
            rw [← Bool.not_eq_true]
            intro hset
            rw [if_neg (by rw [hobserved]; decide), if_pos hset] at h
            exact only_typeError.mp h
          refine ⟨⟨hall, hobserved, hexception⟩, ?_, ?_⟩
          · intro items' hitems' hset
            rw [helements] at hitems'
            cases hitems'
            rw [hobserved] at hset
            cases hset
          · intro items' hitems' _ hset
            rw [helements] at hitems'
            cases hitems'
            rw [hexception] at hset
            cases hset
        · rintro ⟨⟨_, hobserved, hexception⟩, _, _⟩
          refine ⟨only_ok.mpr trivial, ?_⟩
          rintro items' hitems'
          cases hitems'
          rw [hobserved, hexception]
          exact only_refuse.mpr trivial
      · rw [if_neg hall]
        exact iff_of_false (fun h => only_typeError.mp h.1)
          (fun h => hall h.formed.1)
  | _ =>
      refine iff_of_false ?_ (fun h => h.formed)
      rintro ⟨h, _⟩
      exact only_typeError.mp h

-- ================================================================== intake

/-- The fields of an intake are those of an object. -/
theorem only_opened : Only IsContract (TaskIntakeV1.opened data)
    ↔ Closable TaskIntakeV1.inputFields data := by
  have hlong : ∃ long ∈ TaskIntakeV1.inputFields, long.length ≠ 1 :=
    ⟨py "limits", by decide, by decide⟩
  refine (only_closed_subscript hlong (by decide)).trans (and_iff_left ?_)
  rintro _ members rfl
  exact only_require.mpr trivial

theorem subscript_of_opened {u : Unit} (h : TaskIntakeV1.opened data = .ok u)
    (hname : py name ∈ TaskIntakeV1.inputFields) :
    subscript data name = .ok (field data name) := by
  unfold TaskIntakeV1.opened at h
  obtain ⟨_, hclosed, hrest⟩ := bind_eq_ok.mp h
  obtain ⟨version, hversion, _⟩ := bind_eq_ok.mp hrest
  cases data with
  | dict members => exact subscript_of_closed hclosed hname
  | _ => cases hversion

theorem only_handoffs : Only IsContract (TaskIntakeV1.handoffs data)
    ↔ Closable TaskIntakeV1.inputFields data
      ∧ (Passes (TaskIntakeV1.opened data) →
        Closable ArchitectureHandoffV1.fields (field data "architecture")
        ∧ (Passes (ArchitectureHandoffV1.fromDict
            (field data "architecture")) →
          Closable GovernanceHandoffV1.fields (field data "governance"))) := by
  unfold TaskIntakeV1.handoffs
  rw [← only_opened]
  refine only_bind_passes fun _ hopened => ?_
  rw [only_subscript (subscript_of_opened hopened (by decide)),
    ← only_architecture]
  refine only_bind_passes fun _ _ => ?_
  rw [only_subscript (subscript_of_opened hopened (by decide)), only_bind,
    only_governance]
  refine and_iff_left fun _ _ => ?_
  exact only_next (only_require.mpr trivial) fun _ _ => only_ok.mpr trivial

theorem opened_of_handoffs
    {a : ArchitectureHandoffV1 × GovernanceHandoffV1}
    (h : TaskIntakeV1.handoffs data = .ok a) :
    ∃ u, TaskIntakeV1.opened data = .ok u :=
  let ⟨u, hu, _⟩ := bind_eq_ok.mp h
  ⟨u, hu⟩

theorem only_authorized : Only IsContract (TaskIntakeV1.authorized rt now data)
    ↔ Only IsContract (TaskIntakeV1.handoffs data)
      ∧ (Passes (TaskIntakeV1.handoffs data) →
        Authorizable rt now (field data "m0_authority")) := by
  unfold TaskIntakeV1.authorized
  refine only_bind_passes fun a ha => ?_
  obtain ⟨u, hopened⟩ := opened_of_handoffs ha
  obtain ⟨architecture, governance⟩ := a
  dsimp only
  rw [only_subscript (subscript_of_opened hopened (by decide)), only_bind,
    only_authority]
  refine and_iff_left fun authority _ => ?_
  refine only_next (only_require.mpr trivial) fun _ _ => ?_
  refine (only_subscript (subscript_of_opened hopened (by decide))).mpr ?_
  refine only_next only_digest fun _ _ => ?_
  exact only_next (only_require.mpr trivial) fun _ _ => only_ok.mpr trivial

theorem opened_of_authorized {a : TaskIntakeV1.Authorized}
    (h : TaskIntakeV1.authorized rt now data = .ok a) :
    ∃ u, TaskIntakeV1.opened data = .ok u :=
  let ⟨_, ha, _⟩ := bind_eq_ok.mp h
  opened_of_handoffs ha

theorem only_checked : Only IsContract (TaskIntakeV1.checked rt now data)
    ↔ Only IsContract (TaskIntakeV1.authorized rt now data)
      ∧ (Passes (TaskIntakeV1.authorized rt now data) →
        Sortable (field data "acceptance_ids")
        ∧ (Passes (acceptance (field data "acceptance_ids")) →
          hashable (field data "source_type") = true)) := by
  unfold TaskIntakeV1.checked
  refine only_bind_passes fun a ha => ?_
  obtain ⟨u, hopened⟩ := opened_of_authorized ha
  rw [only_subscript (subscript_of_opened hopened (by decide)),
    ← only_acceptance]
  refine only_bind_passes fun _ _ => ?_
  rw [only_subscript (subscript_of_opened hopened (by decide)), only_bind,
    only_sourceType]
  exact and_iff_left fun _ _ => only_ok.mpr trivial

theorem opened_of_checked {c : TaskIntakeV1.Checked}
    (h : TaskIntakeV1.checked rt now data = .ok c) :
    ∃ u, TaskIntakeV1.opened data = .ok u :=
  let ⟨_, ha, _⟩ := bind_eq_ok.mp h
  opened_of_authorized ha

theorem only_normalized : Only IsContract (TaskIntakeV1.normalized rt now data)
    ↔ Only IsContract (TaskIntakeV1.checked rt now data)
      ∧ (Passes (TaskIntakeV1.checked rt now data) → Nameable rt data) := by
  unfold TaskIntakeV1.normalized
  refine only_bind_passes fun c hc => ?_
  obtain ⟨u, hopened⟩ := opened_of_checked hc
  have hsub : ∀ name : String, py name ∈ TaskIntakeV1.inputFields →
      subscript data name = .ok (field data name) :=
    fun _ h => subscript_of_opened hopened h
  unfold Nameable
  rw [only_subscript (hsub _ (by decide)), ← only_identifier]
  refine only_bind_passes fun _ _ => ?_
  rw [only_subscript (hsub _ (by decide)), ← only_identifier]
  refine only_bind_passes fun _ _ => ?_
  rw [only_subscript (hsub _ (by decide)), ← only_identifier]
  refine only_bind_passes fun _ _ => ?_
  rw [only_subscript (hsub _ (by decide)), only_bind_passes,
    and_iff_right only_digest]
  intro _ _
  rw [only_subscript (hsub _ (by decide)), ← only_identifier]
  refine only_bind_passes fun _ _ => ?_
  rw [only_subscript (hsub _ (by decide)), ← only_identifier]
  refine only_bind_passes fun _ _ => ?_
  rw [only_subscript (hsub _ (by decide)), only_bind_passes,
    and_iff_right only_sha]
  intro _ _
  rw [only_subscript (hsub _ (by decide)), only_bind_passes,
    and_iff_right only_digest]
  intro _ _
  rw [only_subscript (hsub _ (by decide)), only_bind, only_limits]
  exact and_iff_left fun _ _ => only_ok.mpr trivial

/-- `from_dict` returns an intake or raises `ContractError`, exactly where no
value is taken for what it is not. -/
theorem fromDict_only_iff :
    Only IsContract (TaskIntakeV1.fromDict rt now data)
      ↔ Fits rt now data := by
  have hintake : Only IsContract (TaskIntakeV1.fromDict rt now data)
      ↔ Only IsContract (TaskIntakeV1.normalized rt now data) := by
    unfold TaskIntakeV1.fromDict
    rw [only_bind]
    exact and_iff_left fun _ _ => only_ok.mpr trivial
  rw [hintake, only_normalized, only_checked, only_authorized, only_handoffs]
  constructor
  · rintro ⟨⟨⟨⟨hclosed, hhandoffs⟩, hauthority⟩, hvalues⟩, hnames⟩
    exact {
      intake := hclosed
      architecture := fun h => (hhandoffs h).1
      governance := fun h => (hhandoffs h).2
      authority := hauthority
      acceptanceIds := fun h => (hvalues h).1
      sourceType := fun h => (hvalues h).2
      names := hnames }
  · intro h
    exact ⟨⟨⟨⟨h.intake, fun ho => ⟨h.architecture ho, h.governance ho⟩⟩,
      h.authority⟩, fun ha => ⟨h.acceptanceIds ha, h.sourceType ha⟩⟩, h.names⟩

end Records

-- ================================================================= escapes

/-- A request of the intake, by its id and the end of its authority. -/
def requestOf (requestId expiresAt : PyStr) : PyJson :=
  let digit (width : Nat) (c : Char) : PyJson :=
    .str ((List.replicate width c).map codePoint)
  .dict [
    (py "contract_version", .int 1),
    (py "request_id", .str requestId),
    (py "repository_id", .str (py "repo")),
    (py "source_type", .str (py "manual")),
    (py "source_id", .str (py "source")),
    (py "source_digest", digit 64 '0'),
    (py "route_id", .str (py "route")),
    (py "change_id", .str (py "change")),
    (py "exact_base_sha", digit 40 'c'),
    (py "spec_digest", digit 64 '1'),
    (py "architecture", .dict [
      (py "architecture_contract_version", .int 1),
      (py "architecture_digest", digit 64 'a'),
      (py "architecture_evidence_digest", digit 64 'b'),
      (py "exact_base_sha", digit 40 'c'),
      (py "exact_head_sha", digit 40 'd')]),
    (py "governance", .dict [
      (py "governance_contract_version", .int 1),
      (py "governance_digest", digit 64 'e'),
      (py "governance_evidence_digest", digit 64 'f'),
      (py "architecture_digest", digit 64 'a'),
      (py "exact_base_sha", digit 40 'c'),
      (py "exact_head_sha", digit 40 'd')]),
    (py "policy_digest", digit 64 '2'),
    (py "m0_authority", .dict [
      (py "bootstrap_exception", .str (py "bootstrap")),
      (py "issuer", .str (py "owner")),
      (py "scope", .str (py "intake")),
      (py "expires_at", .str expiresAt)]),
    (py "acceptance_ids", .list [.str (py "AC-001")]),
    (py "limits", .dict [
      (py "wall_seconds", .int 60),
      (py "max_cost_usd_micros", .int 1),
      (py "max_token_units", .int 1),
      (py "max_output_bytes", .int 1),
      (py "max_events", .int 1),
      (py "infrastructure_retries", .int 0),
      (py "semantic_repairs", .int 1)])]

/-- A time of day, to the hour, of the first days of 2026. -/
def january (day hour : Nat) (hday : 1 ≤ day ∧ day ≤ 31) (hhour : hour < 24) :
    Timestamp where
  year := 2026
  month := 1
  day := day
  hour := hour
  minute := 0
  second := 0
  microsecond := 0
  date := ⟨by decide, by decide, by decide, by decide, hday.1, hday.2⟩
  time := ⟨hhour, by decide, by decide, by decide⟩

/-- The last second there is a reading of. -/
def lastSecond : Timestamp where
  year := 9999
  month := 12
  day := 31
  hour := 23
  minute := 59
  second := 59
  microsecond := 0
  date := by decide
  time := by decide

/-- An hour in microseconds. -/
def hourLong : Int := 3600000000

/-- What `fromisoformat` reads of four texts. -/
def isoTimes : List (PyStr × DateTime) := [
  (py "2026-01-02T00:00:00+00:00",
    ⟨january 2 0 (by decide) (by decide), some 0⟩),
  (py "2026-01-02T01:00:00+01:00",
    ⟨january 2 1 (by decide) (by decide), some hourLong⟩),
  (py "2026-01-02T00:00:00", ⟨january 2 0 (by decide) (by decide), none⟩),
  (py "9999-12-31T23:59:59-01:00", ⟨lastSecond, some (-hourLong)⟩)]

def digestLiteral (s : String) : Digest :=
  (digestOf s.toList).getD .genesis

/-- SHA-256 of three messages, told by their lengths. -/
def threeMessages (message : List UInt8) : Digest :=
  if message.length = 1474 then
    digestLiteral ("cd2af530c421edf47201f73cd3d08be0"
      ++ "5b78089baa3182d0c8825a6102bc9bff")
  else if message.length = 1616 then
    digestLiteral ("99a19935c0876dc0cb7988da581dab48"
      ++ "da49690dca1c8e20bbcbde016c16492a")
  else
    digestLiteral ("6830a18bf38b5f166f3aa6c21615b8e3"
      ++ "d825f6f8f82210866923c490ca8d2b16")

def sampleRuntime : IntakeRuntime where
  sha256 := threeMessages
  isNfc _ := true
  fromisoformat := fun s => isoTimes.lookup s

/-- The first noon of 2026. -/
def firstNoon : Timestamp := january 1 12 (by decide) (by decide)

/-- What is raised, if anything is. -/
def raised {α : Type} : Except Raised α → Option Raised
  | .ok _ => none
  | .error e => some e

theorem not_only_of_raised {α : Type} {x : Except Raised α} {e : Raised}
    (h : raised x = some e) (he : ∀ c, e ≠ .contract c) :
    ¬ Only IsContract x := by
  intro honly
  cases x with
  | ok a => cases h
  | error e' =>
      cases Option.some.inj h
      obtain ⟨c, hc⟩ := honly e rfl
      exact he c hc

/-- No object at all, an unpaired surrogate in a text, and a time with an
offset that leads out of the calendar. -/
theorem fromDict_escapes :
    raised (TaskIntakeV1.fromDict sampleRuntime firstNoon .none)
        = some .typeError
      ∧ raised (TaskIntakeV1.fromDict sampleRuntime firstNoon
          (requestOf [0xD800] (py "2026-01-02T00:00:00Z")))
        = some .unicodeEncodeError
      ∧ raised (TaskIntakeV1.fromDict sampleRuntime firstNoon
          (requestOf (py "r1") (py "9999-12-31T23:59:59-01:00")))
        = some .overflowError
      ∧ ¬ Only IsContract (TaskIntakeV1.fromDict sampleRuntime firstNoon
          (requestOf (py "r1") (py "9999-12-31T23:59:59-01:00"))) := by
  have hoverflow : raised (TaskIntakeV1.fromDict sampleRuntime firstNoon
      (requestOf (py "r1") (py "9999-12-31T23:59:59-01:00")))
        = some .overflowError := by decide +kernel
  refine ⟨rfl, by decide +kernel, hoverflow, ?_⟩
  exact not_only_of_raised hoverflow (fun c h => by cases h)

end Exolon.Contracts
