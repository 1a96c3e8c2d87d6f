/-
Canonical JSON: one text for what two JSON values have in common.

A writer that hashes a value first brings its members into an order and
then prints it without blanks. `reorder` is the first step, for an order
given by an injective key (`reorder_reorder`: the order before does not
matter), `write` the second one. `write_inj` says that nothing is lost:
what is written reads back (`reads_write`). The order itself is
`sortedBy`: values with distinct keys have one.

`Plain` values have integers only, `Lawful` ones no name twice in an
object, which is what a dictionary or a database's JSON column holds.
-/
import Exolon.Lib.Json
import Exolon.Lib.Sorting

namespace Exolon

namespace Json

-- ==================================================== the other values

theorem Reads.null : Reads ['n', 'u', 'l', 'l'] .null := by
  intro n rest hn _
  obtain ⟨m, rfl⟩ : ∃ m, n = m + 1 := ⟨n - 1, by simp at hn; omega⟩
  simp [parseValue, skipBlanks, isBlank]

theorem Reads.obj_nil : Reads ['{', '}'] (.obj []) := by
  intro n rest hn _
  obtain ⟨m, rfl⟩ : ∃ m, n = m + 1 := ⟨n - 1, by simp at hn; omega⟩
  simp [parseValue, skipBlanks, isBlank]

theorem Reads.arr_nil : Reads ['[', ']'] (.arr []) := by
  intro n rest hn _
  obtain ⟨m, rfl⟩ : ∃ m, n = m + 1 := ⟨n - 1, by simp at hn; omega⟩
  simp [parseValue, skipBlanks, isBlank]

/-- What a value is read from is not the end of an array. -/
theorem Reads.ne_bracket {t rest cs : Text} {v : Json} (h : Reads t v)
    (hrest : Ends rest) : skipBlanks (t ++ rest) ≠ ']' :: cs := by
  intro hskip
  have hread := h (t.length + 1) rest (by omega) hrest
  rw [parseValue, hskip] at hread
  simp [parseNumber, parseMagnitude, spanDigits] at hread

/-- An array from its items, the first one and the ones each put after a
comma. -/
theorem Reads.arr {t : Text} {v : Json} {ts : List Text} {vs : List Json}
    (h : Reads t v) (hs : List.Forall₂ Reads ts vs) :
    Reads ('[' :: t ++ ts.flatMap (fun t => ',' :: t) ++ [']'])
      (.arr (v :: vs)) := by
  -- the items, at any fuel their length allows
  have hitems : ∀ n rest,
      (t ++ ts.flatMap (fun t => ',' :: t)).length ≤ n →
      parseItems (n + 1)
          (t ++ ts.flatMap (fun t => ',' :: t) ++ ']' :: rest)
        = some (v :: vs, rest) := by
    induction hs generalizing t v with
    | nil =>
        intro n rest hn
        have hval := h n (']' :: rest) (by simp at hn; omega) (.bracket rest)
        rw [List.flatMap_nil, List.append_nil, parseItems]
        simp [hval, skipBlanks, isBlank]
    | @cons t' v' ts vs h' hs ih =>
        intro n rest hn
        simp only [List.flatMap_cons, List.length_append, List.length_cons]
          at hn
        obtain ⟨k, rfl⟩ : ∃ k, n = k + 1 := ⟨n - 1, by omega⟩
        have htail := ih h' k rest (by rw [List.length_append]; omega)
        have hval := h (k + 1) (',' :: (t' ++ ts.flatMap (fun t => ',' :: t)
          ++ ']' :: rest)) (by omega) (.comma _)
        rw [List.flatMap_cons, List.append_assoc, parseItems]
        simp only [List.cons_append, List.append_assoc] at htail hval ⊢
        simp [hval, skipBlanks, isBlank, htail]
  intro n rest hn _
  simp only [List.length_append, List.length_cons, List.length_nil] at hn
  obtain ⟨k, rfl⟩ : ∃ k, n = k + 2 := ⟨n - 2, by omega⟩
  have hread := hitems k rest (by rw [List.length_append]; omega)
  have hends : Ends (ts.flatMap (fun t => ',' :: t) ++ ']' :: rest) := by
    cases ts with
    | nil => exact .bracket rest
    | cons t' ts => exact .comma _
  rw [parseValue]
  simp only [List.cons_append, List.append_assoc, skipBlanks, isBlank]
    at hread ⊢
  simp [hread]
  split
  case h_1 hskip => exact absurd hskip (h.ne_bracket hends)
  case h_2 => rfl

-- ============================================================ predicates

mutual

/-- All numbers are integers. -/
def Plain : Json → Prop
  | .null | .bool _ | .str _ => True
  | .num _ exponent => exponent = 0
  | .arr items => PlainItems items
  | .obj members => PlainMembers members

def PlainItems : List Json → Prop
  | [] => True
  | item :: items => Plain item ∧ PlainItems items

def PlainMembers : List (Text × Json) → Prop
  | [] => True
  | member :: members => Plain member.2 ∧ PlainMembers members

end

mutual

/-- No object has a name twice. -/
def Lawful : Json → Prop
  | .null | .bool _ | .num _ _ | .str _ => True
  | .arr items => LawfulItems items
  | .obj members => (members.map Prod.fst).Nodup ∧ LawfulMembers members

def LawfulItems : List Json → Prop
  | [] => True
  | item :: items => Lawful item ∧ LawfulItems items

def LawfulMembers : List (Text × Json) → Prop
  | [] => True
  | member :: members => Lawful member.2 ∧ LawfulMembers members

end

-- ============================================================== the writer

/-- A scalar in a string: the quote, the backslash and the controls are
escaped. -/
def escapeScalar (c : Char) : Text :=
  if c = '"' then ['\\', '"']
  else if c = '\\' then ['\\', '\\']
  else if c = '\n' then ['\\', 'n']
  else if c = '\r' then ['\\', 'r']
  else if c = '\t' then ['\\', 't']
  else if c = '\x0c' then ['\\', 'f']
  else if c = '\x08' then ['\\', 'b']
  else if c.toNat < 0x20 then '\\' :: 'u' :: paddedHexText 4 c.toNat
  else [c]

def quote (s : Text) : Text := '"' :: s.flatMap escapeScalar ++ ['"']

/-- Texts with a comma between them. -/
def commas : List Text → Text
  | [] => []
  | t :: ts => t ++ ts.flatMap fun t => ',' :: t

mutual

/-- The text of a value, without blanks. -/
def write : Json → Text
  | .null => ['n', 'u', 'l', 'l']
  | .bool true => ['t', 'r', 'u', 'e']
  | .bool false => ['f', 'a', 'l', 's', 'e']
  | .num mantissa _ => intText mantissa
  | .str s => quote s
  | .arr items => '[' :: commas (itemTexts items) ++ [']']
  | .obj members => '{' :: commas (memberTexts members) ++ ['}']

def itemTexts : List Json → List Text
  | [] => []
  | item :: items => write item :: itemTexts items

def memberTexts : List (Text × Json) → List Text
  | [] => []
  | member :: members =>
      (quote member.1 ++ ':' :: write member.2) :: memberTexts members

end

-- ============================================================== the order

section Order

variable {κ : Type} [LinearOrder κ] (key : Text → κ)

mutual

/-- The members of every object in the order of their keys. -/
def reorder : Json → Json
  | .null => .null
  | .bool b => .bool b
  | .num mantissa exponent => .num mantissa exponent
  | .str s => .str s
  | .arr items => .arr (reorderItems items)
  | .obj members => .obj ((reorderMembers members).insertionSort
      fun a b => key a.1 ≤ key b.1)

def reorderItems : List Json → List Json
  | [] => []
  | item :: items => reorder item :: reorderItems items

def reorderMembers : List (Text × Json) → List (Text × Json)
  | [] => []
  | (name, value) :: members =>
      (name, reorder value) :: reorderMembers members

end

end Order

-- ======================================================== what is written

/-- An escaped scalar spells the scalar. -/
theorem spells_escapeScalar (c : Char) {body s : Text} (h : Spells body s) :
    Spells (escapeScalar c ++ body) (c :: s) := by
  unfold escapeScalar
  by_cases hquote : c = '"'
  · rw [if_pos hquote, hquote]
    exact .escape (by decide) rfl h
  rw [if_neg hquote]
  by_cases hslash : c = '\\'
  · rw [if_pos hslash, hslash]
    exact .escape (by decide) rfl h
  rw [if_neg hslash]
  by_cases hline : c = '\n'
  · rw [if_pos hline, hline]
    exact .escape (by decide) rfl h
  rw [if_neg hline]
  by_cases hreturn : c = '\r'
  · rw [if_pos hreturn, hreturn]
    exact .escape (by decide) rfl h
  rw [if_neg hreturn]
  by_cases htab : c = '\t'
  · rw [if_pos htab, htab]
    exact .escape (by decide) rfl h
  rw [if_neg htab]
  by_cases hfeed : c = '\x0c'
  · rw [if_pos hfeed, hfeed]
    exact .escape (by decide) rfl h
  rw [if_neg hfeed]
  by_cases hback : c = '\x08'
  · rw [if_pos hback, hback]
    exact .escape (by decide) rfl h
  rw [if_neg hback]
  by_cases hcontrol : c.toNat < 0x20
  · rw [if_pos hcontrol]
    obtain ⟨h₃, h₂, h₁, h₀, hdigits, hunit, _⟩ :=
      paddedHexText_codeUnit c.toNat hcontrol
    have hspells := Spells.unicode hunit (by omega) h
    rw [Char.ofNat_toNat] at hspells
    rw [hdigits]
    exact hspells
  · rw [if_neg hcontrol]
    exact .plain hquote hslash (by omega) h

theorem spells_escaped (s : Text) : Spells (s.flatMap escapeScalar) s := by
  induction s with
  | nil => exact .nil
  | cons c s ih =>
      rw [List.flatMap_cons]
      exact spells_escapeScalar c ih

theorem reads_quote (s : Text) : Reads (quote s) (.str s) :=
  .str (spells_escaped s)

mutual

/-- What is written reads back: by induction on the value. -/
theorem reads_write : ∀ v : Json, Plain v → Reads (write v) v
  | .null, _ => .null
  | .bool true, _ => .true
  | .bool false, _ => .false
  | .num mantissa exponent, h => by
      have hinteger : exponent = 0 := h
      rw [hinteger]
      exact .int mantissa
  | .str s, _ => reads_quote s
  | .arr [], _ => .arr_nil
  | .arr (item :: items), h => by
      have hitems := reads_items (item :: items) h
      rw [itemTexts] at hitems
      rw [write, itemTexts, commas]
      cases hitems with
      | cons hitem hitems =>
          simpa only [List.cons_append] using Reads.arr hitem hitems
  | .obj [], _ => .obj_nil
  | .obj (member :: members), h => by
      have hmembers := reads_members (member :: members) h
      rw [memberTexts] at hmembers
      rw [write, memberTexts, commas]
      cases hmembers with
      | cons hmember hmembers =>
          simpa only [List.cons_append] using Reads.obj hmember hmembers

theorem reads_items : ∀ items : List Json, PlainItems items →
    List.Forall₂ Reads (itemTexts items) items
  | [], _ => .nil
  | item :: items, h =>
      .cons (reads_write item h.1) (reads_items items h.2)

theorem reads_members : ∀ members : List (Text × Json),
    PlainMembers members →
    List.Forall₂ ReadsMember (memberTexts members) members
  | [], _ => .nil
  | (name, value) :: members, h =>
      .cons ⟨name.flatMap escapeScalar, write value, by simp [quote],
        spells_escaped name, reads_write value h.1⟩
        (reads_members members h.2)

end

/-- Nothing is lost in writing. -/
theorem write_inj {v v' : Json} (h : Plain v) (h' : Plain v')
    (heq : write v = write v') : v = v' := by
  have hread : parse (write v ++ []) = some v := (reads_write v h).parse rfl
  have hread' : parse (write v' ++ []) = some v' :=
    (reads_write v' h').parse rfl
  rw [heq] at hread
  exact Option.some.inj (hread.symm.trans hread')

-- ===================================================== members in order

section Lookup

variable {α β : Type} [BEq α] [LawfulBEq α] {entries : List (α × β)} {a : α}
  {b : β}

/-- What is found under a name stands in the list. -/
theorem mem_of_lookup (h : entries.lookup a = some b) : (a, b) ∈ entries := by
  induction entries with
  | nil => cases h
  | cons entry entries ih =>
      obtain ⟨other, v⟩ := entry
      rw [List.lookup_cons] at h
      by_cases heq : a = other
      · subst heq
        rw [beq_self_eq_true] at h
        obtain rfl := Option.some.inj h
        exact List.mem_cons_self
      · rw [beq_false_of_ne heq] at h
        exact List.mem_cons_of_mem _ (ih h)

theorem lookup_of_mem (hnodup : (entries.map Prod.fst).Nodup)
    (h : (a, b) ∈ entries) : entries.lookup a = some b := by
  induction entries with
  | nil => cases h
  | cons entry entries ih =>
      obtain ⟨other, v⟩ := entry
      rw [List.map_cons, List.nodup_cons] at hnodup
      rw [List.lookup_cons]
      by_cases heq : a = other
      · subst heq
        rw [beq_self_eq_true]
        rcases List.mem_cons.mp h with h | h
        · exact congrArg some (Prod.mk.inj h).2.symm
        · exact absurd (List.mem_map_of_mem h) hnodup.1
      · rw [beq_false_of_ne heq]
        rcases List.mem_cons.mp h with h | h
        · exact absurd (Prod.mk.inj h).1 heq
        · exact ih hnodup.2 h

/-- Where the entries stand does not matter to a lookup. -/
theorem lookup_perm {entries' : List (α × β)} (hperm : entries.Perm entries')
    (hnodup : (entries.map Prod.fst).Nodup) (name : α) :
    entries.lookup name = entries'.lookup name := by
  have hnodup' : (entries'.map Prod.fst).Nodup :=
    (hperm.map Prod.fst).nodup_iff.mp hnodup
  cases h : entries'.lookup name with
  | none =>
      by_contra hne
      obtain ⟨value, hvalue⟩ := Option.ne_none_iff_exists'.mp hne
      have hmem := hperm.mem_iff.mp (mem_of_lookup hvalue)
      rw [lookup_of_mem hnodup' hmem] at h
      cases h
  | some value =>
      exact lookup_of_mem hnodup (hperm.mem_iff.mpr (mem_of_lookup h))

end Lookup

section Members

variable {κ : Type} [LinearOrder κ] {key : Text → κ}
  {members members' : List (Text × Json)}

/-- Members with distinct names have one order. -/
theorem insertionSort_perm (hkey : Function.Injective key)
    (hperm : members.Perm members')
    (hnodup : (members.map Prod.fst).Nodup) :
    members.insertionSort (fun a b => key a.1 ≤ key b.1)
      = members'.insertionSort fun a b => key a.1 ≤ key b.1 := by
  have hkeys : (members.map fun member => key member.1).Nodup := by
    have hmapped := hnodup.map hkey
    rw [List.map_map] at hmapped
    exact hmapped
  exact sortedBy_perm hperm hkeys

theorem reorderMembers_eq_map (key : Text → κ)
    (members : List (Text × Json)) :
    reorderMembers key members
      = members.map fun member => (member.1, reorder key member.2) := by
  induction members with
  | nil => rfl
  | cons member members ih =>
      rw [reorderMembers, ih]
      rfl

/-- The order of members is not part of their names. -/
theorem names_reorderMembers (members : List (Text × Json)) :
    (reorderMembers key members).map Prod.fst = members.map Prod.fst := by
  rw [reorderMembers_eq_map, List.map_map]
  rfl

theorem lawfulMembers_iff :
    LawfulMembers members ↔ ∀ member ∈ members, Lawful member.2 := by
  induction members with
  | nil => simp [LawfulMembers]
  | cons member members ih => simp [LawfulMembers, ih]

theorem plainMembers_iff :
    PlainMembers members ↔ ∀ member ∈ members, Plain member.2 := by
  induction members with
  | nil => simp [PlainMembers]
  | cons member members ih => simp [PlainMembers, ih]

end Members

section Reorder

variable {κ κ' : Type} [LinearOrder κ] [LinearOrder κ'] {key : Text → κ}
  {key' : Text → κ'}

mutual

/-- Reordering adds no number. -/
theorem plain_reorder : ∀ v : Json, Plain v → Plain (reorder key v)
  | .null, h | .bool _, h | .num _ _, h | .str _, h => h
  | .arr items, h => plainItems_reorder items h
  | .obj members, h => by
      have hmembers := plainMembers_reorder members h
      rw [reorder, Plain]
      rw [plainMembers_iff] at hmembers ⊢
      intro member hmember
      exact hmembers member ((List.mem_insertionSort _).mp hmember)

theorem plainItems_reorder : ∀ items : List Json, PlainItems items →
    PlainItems (reorderItems key items)
  | [], h => h
  | item :: items, h =>
      ⟨plain_reorder item h.1, plainItems_reorder items h.2⟩

theorem plainMembers_reorder : ∀ members : List (Text × Json),
    PlainMembers members → PlainMembers (reorderMembers key members)
  | [], h => h
  | (_, value) :: members, h =>
      ⟨plain_reorder value h.1, plainMembers_reorder members h.2⟩

end

mutual

/-- An order over another one is the order: by induction on the value. -/
theorem reorder_reorder (hkey : Function.Injective key) :
    ∀ v : Json, Lawful v → reorder key (reorder key' v) = reorder key v
  | .null, _ | .bool _, _ | .num _ _, _ | .str _, _ => by
      simp only [reorder]
  | .arr items, h => by
      rw [reorder, reorder, reorder, reorderItems_reorder hkey items h]
  | .obj members, h => by
      have hmembers := reorderMembers_reorder hkey members h.2
      rw [reorder, reorder, reorder]
      congr 1
      rw [← hmembers]
      refine insertionSort_perm hkey ?_ ?_
      · rw [reorderMembers_eq_map key, reorderMembers_eq_map key]
        exact (List.perm_insertionSort _ _).map _
      · rw [names_reorderMembers]
        have hperm := (List.perm_insertionSort
          (fun a b : Text × Json => key' a.1 ≤ key' b.1)
          (reorderMembers key' members)).map Prod.fst
        rw [names_reorderMembers] at hperm
        exact hperm.nodup_iff.mpr h.1

theorem reorderItems_reorder (hkey : Function.Injective key) :
    ∀ items : List Json, LawfulItems items →
      reorderItems key (reorderItems key' items) = reorderItems key items
  | [], _ => rfl
  | item :: items, h => by
      rw [reorderItems, reorderItems, reorderItems,
        reorder_reorder hkey item h.1, reorderItems_reorder hkey items h.2]

theorem reorderMembers_reorder (hkey : Function.Injective key) :
    ∀ members : List (Text × Json), LawfulMembers members →
      reorderMembers key (reorderMembers key' members)
        = reorderMembers key members
  | [], _ => rfl
  | (name, value) :: members, h => by
      rw [reorderMembers, reorderMembers, reorderMembers,
        reorder_reorder hkey value h.1,
        reorderMembers_reorder hkey members h.2]

end

mutual

/-- Reordering makes no name stand twice. -/
theorem lawful_reorder : ∀ v : Json, Lawful v → Lawful (reorder key v)
  | .null, h | .bool _, h | .num _ _, h | .str _, h => h
  | .arr items, h => lawfulItems_reorder items h
  | .obj members, h => by
      have hmembers := lawfulMembers_reorder members h.2
      have hperm := (List.perm_insertionSort
        (fun a b : Text × Json => key a.1 ≤ key b.1)
        (reorderMembers key members))
      rw [reorder, Lawful]
      rw [lawfulMembers_iff] at hmembers ⊢
      refine ⟨?_, ?_⟩
      · rw [(hperm.map Prod.fst).nodup_iff, names_reorderMembers]
        exact h.1
      · intro member hmember
        exact hmembers member ((List.mem_insertionSort _).mp hmember)

theorem lawfulItems_reorder : ∀ items : List Json, LawfulItems items →
    LawfulItems (reorderItems key items)
  | [], h => h
  | item :: items, h =>
      ⟨lawful_reorder item h.1, lawfulItems_reorder items h.2⟩

theorem lawfulMembers_reorder : ∀ members : List (Text × Json),
    LawfulMembers members → LawfulMembers (reorderMembers key members)
  | [], h => h
  | (_, value) :: members, h =>
      ⟨lawful_reorder value h.1, lawfulMembers_reorder members h.2⟩

end

/-- An object is ordered by its names, wherever its members stood. -/
theorem reorder_perm (hkey : Function.Injective key)
    {members members' : List (Text × Json)} (hperm : members.Perm members')
    (hnodup : (members.map Prod.fst).Nodup) :
    reorder key (.obj members) = reorder key (.obj members') := by
  rw [reorder, reorder]
  congr 1
  refine insertionSort_perm hkey ?_ ?_
  · rw [reorderMembers_eq_map, reorderMembers_eq_map]
    exact hperm.map _
  · rw [names_reorderMembers]
    exact hnodup

/-- A name still has its value, in order. -/
theorem get?_reorder {members : List (Text × Json)}
    (h : (members.map Prod.fst).Nodup) (name : Text) :
    (reorder key (.obj members)).get? name
      = ((Json.obj members).get? name).map (reorder key) := by
  have hsort : (reorderMembers key members).Perm
      ((reorderMembers key members).insertionSort
        fun a b => key a.1 ≤ key b.1) :=
    (List.perm_insertionSort _ _).symm
  rw [reorder, get?, get?, ← lookup_perm hsort, reorderMembers_eq_map]
  · clear h hsort
    induction members with
    | nil => rfl
    | cons member members ih =>
        obtain ⟨other, value⟩ := member
        rw [List.map_cons, List.lookup_cons, List.lookup_cons]
        cases name == other with
        | true => rfl
        | false => exact ih
  · rw [names_reorderMembers]
    exact h

/-- Two values that are written alike, in whatever order they came, are
the same up to order. -/
theorem reorder_inj_of_write {v v' : Json} (h : Plain v) (h' : Plain v')
    (heq : write (reorder key v) = write (reorder key v')) :
    reorder key v = reorder key v' :=
  write_inj (plain_reorder v h) (plain_reorder v' h') heq

end Reorder

end Json

end Exolon
