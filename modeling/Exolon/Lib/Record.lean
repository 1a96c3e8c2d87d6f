/-
Records that are hashed by their members.

A `Document` is a type whose values print as JSON and are told by it, in
whatever order the members come out. A record is a list of its fields, each
with a name and a projection; `members_same` says that two records which
are written alike agree in every field, and that is the whole argument for
any record whose names are distinct.
-/
import Exolon.Lib.Canonical

namespace Exolon

-- ============================================================ documents

/-- A type whose values are told by their JSON text. -/
class Document (α : Type) where
  json : α → Json
  plain (a : α) : (json a).Plain
  told {κ : Type} [LinearOrder κ] (key : Text → κ) (a b : α) :
    (json a).reorder key = (json b).reorder key → a = b

namespace Document

instance : Document Text where
  json := .str
  plain _ := trivial
  told _ _ _ h := Json.str.inj h

instance : Document Int where
  json := .int
  plain _ := rfl
  told _ _ _ h := (Json.num.inj h).1

instance : Document Nat where
  json n := .int n
  plain _ := rfl
  told _ _ _ h := Int.ofNat.inj (Json.num.inj h).1

instance : Document Bool where
  json := .bool
  plain _ := trivial
  told _ _ _ h := Json.bool.inj h

/-- A text or `None`. -/
instance : Document (Option Text) where
  json
    | none => .null
    | some t => .str t
  plain
    | none => trivial
    | some _ => trivial
  told _
    | none, none, _ => rfl
    | none, some _, h => by cases h
    | some _, none, h => by cases h
    | some _, some _, h => congrArg some (Json.str.inj h)

section Lists

variable {α : Type} [Document α]

theorem plainItems_map (as : List α) : Json.PlainItems (as.map json) := by
  induction as with
  | nil => exact trivial
  | cons a as ih => exact ⟨plain a, ih⟩

theorem reorderItems_told {κ : Type} [LinearOrder κ] (key : Text → κ)
    {as bs : List α}
    (h : Json.reorderItems key (as.map json)
      = Json.reorderItems key (bs.map json)) : as = bs := by
  induction as generalizing bs with
  | nil =>
      cases bs with
      | nil => rfl
      | cons b bs => cases h
  | cons a as ih =>
      cases bs with
      | nil => cases h
      | cons b bs =>
          rw [List.map_cons, List.map_cons, Json.reorderItems,
            Json.reorderItems, List.cons.injEq] at h
          rw [told key a b h.1, ih h.2]

instance : Document (List α) where
  json as := .arr (as.map json)
  plain as := plainItems_map as
  told key _ _ h := reorderItems_told key (Json.arr.inj h)

end Lists

end Document

-- =============================================================== fields

/-- A member of a record's document; `same` is what two records agree in
when it is written alike. -/
structure Member (α : Type) where
  name : Text
  json : α → Json
  same : α → α → Prop
  plain (a : α) : (json a).Plain
  told {κ : Type} [LinearOrder κ] (key : Text → κ) (a b : α) :
    (json a).reorder key = (json b).reorder key → same a b

namespace Member

variable {α β : Type}

/-- A field of the record. -/
def of [Document β] (name : String) (get : α → β) : Member α where
  name := name.toList
  json a := Document.json (get a)
  same a b := get a = get b
  plain a := Document.plain (get a)
  told key a b := Document.told key (get a) (get b)

/-- A text that is the same in every record, as the name of a contract. -/
def const (name text : String) : Member α where
  name := name.toList
  json _ := .str text.toList
  same _ _ := True
  plain _ := trivial
  told _ _ _ _ := trivial

@[simp] theorem same_of [Document β] (name : String) (get : α → β)
    (a b : α) : (of name get).same a b ↔ get a = get b := Iff.rfl

@[simp] theorem same_const (name text : String) (a b : α) :
    (const name text).same a b ↔ True := Iff.rfl

end Member

section Members

variable {α : Type} {fields : List (Member α)}

/-- The document of a record. -/
def Json.members (fields : List (Member α)) (a : α) : Json :=
  .obj (fields.map fun f => (f.name, f.json a))

theorem Json.plain_members (fields : List (Member α)) (a : α) :
    (Json.members fields a).Plain := by
  show Json.PlainMembers _
  rw [Json.plainMembers_iff]
  intro member hmember
  obtain ⟨f, _, rfl⟩ := List.mem_map.mp hmember
  exact f.plain a

variable {κ : Type} [LinearOrder κ] {key : Text → κ}

/-- Members that were sorted alike were alike, if each name stands once. -/
theorem eq_of_perm_of_names {members members' : List (Text × Json)}
    (hnames : members.map Prod.fst = members'.map Prod.fst)
    (hnodup : (members.map Prod.fst).Nodup)
    (hperm : members.Perm members') : members = members' := by
  induction members generalizing members' with
  | nil => exact (hperm.nil_eq)
  | cons member members ih =>
      cases members' with
      | nil => exact absurd hperm.length_eq (by simp)
      | cons member' members' =>
          rw [List.map_cons, List.map_cons, List.cons.injEq] at hnames
          rw [List.map_cons, List.nodup_cons] at hnodup
          -- the first member stands at the front of the other list too
          have hfirst : member = member' := by
            have hmem := hperm.mem_iff.mp List.mem_cons_self
            rcases List.mem_cons.mp hmem with heq | hmem
            · exact heq
            · have hname := List.mem_map_of_mem (f := Prod.fst) hmem
              rw [← hnames.2] at hname
              exact absurd hname hnodup.1
          subst hfirst
          rw [ih hnames.2 hnodup.2 hperm.cons_inv]

/-- Two records that are written alike agree in every field. -/
theorem members_same (hnodup : (fields.map Member.name).Nodup) {a b : α}
    (h : (Json.members fields a).reorder key
      = (Json.members fields b).reorder key) :
    ∀ f ∈ fields, f.same a b := by
  have hnames (c : α) : (fields.map fun f => (f.name, f.json c)).map Prod.fst
      = fields.map Member.name := by
    rw [List.map_map]
    rfl
  have hlists : Json.reorderMembers key (fields.map fun f => (f.name, f.json a))
      = Json.reorderMembers key
        (fields.map fun f => (f.name, f.json b)) := by
    refine eq_of_perm_of_names ?_ ?_ ?_
    · rw [Json.names_reorderMembers, Json.names_reorderMembers, hnames,
        hnames]
    · rw [Json.names_reorderMembers, hnames]
      exact hnodup
    · have hsorted := Json.obj.inj h
      exact (List.perm_insertionSort _ _).symm.trans
        ((List.Perm.of_eq hsorted).trans (List.perm_insertionSort _ _))
  intro f hf
  have hpairs : ∀ f ∈ fields,
      (f.name, (f.json a).reorder key) = (f.name, (f.json b).reorder key) := by
    rw [Json.reorderMembers_eq_map, Json.reorderMembers_eq_map, List.map_map,
      List.map_map] at hlists
    exact List.map_inj_left.mp hlists
  exact f.told key a b (Prod.mk.inj (hpairs f hf)).2

/-- A member that holds a record of its own, over the same values. -/
def Member.nested (name : String) (fields : List (Member α))
    (hnodup : (fields.map Member.name).Nodup) : Member α where
  name := name.toList
  json := Json.members fields
  same a b := ∀ f ∈ fields, f.same a b
  plain := Json.plain_members fields
  told _ _ _ h := members_same hnodup h

@[simp] theorem Member.same_nested (name : String) (fields : List (Member α))
    (hnodup : (fields.map Member.name).Nodup) (a b : α) :
    (Member.nested name fields hnodup).same a b ↔
      ∀ f ∈ fields, f.same a b := Iff.rfl

/-- Records that agree in the member write it alike. -/
def Member.Whole (f : Member α) : Prop :=
  ∀ a b : α, f.same a b → f.json a = f.json b

theorem Member.whole_of {β : Type} [Document β] (name : String)
    (get : α → β) : (Member.of name get).Whole :=
  fun _ _ h => congrArg Document.json h

theorem Member.whole_const (name text : String) :
    (Member.const name text : Member α).Whole := fun _ _ _ => rfl

theorem Json.members_congr (hwhole : ∀ f ∈ fields, f.Whole) {a b : α}
    (h : ∀ f ∈ fields, f.same a b) :
    Json.members fields a = Json.members fields b := by
  have hpairs : ∀ f ∈ fields, (f.name, f.json a) = (f.name, f.json b) :=
    fun f hf => Prod.ext rfl (hwhole f hf a b (h f hf))
  exact congrArg Json.obj (List.map_congr_left hpairs)

theorem Member.whole_nested {name : String}
    (hnodup : (fields.map Member.name).Nodup)
    (hwhole : ∀ f ∈ fields, f.Whole) :
    (Member.nested name fields hnodup).Whole :=
  fun _ _ h => Json.members_congr hwhole h

/-- A record is a document when its fields are all of it. -/
abbrev Document.record (fields : List (Member α))
    (hnodup : (fields.map Member.name).Nodup)
    (hwhole : ∀ a b : α, (∀ f ∈ fields, f.same a b) → a = b) :
    Document α where
  json := Json.members fields
  plain := Json.plain_members fields
  told _ a b h := hwhole a b (members_same hnodup h)

end Members

end Exolon
