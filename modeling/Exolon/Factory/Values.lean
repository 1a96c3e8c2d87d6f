/-
Values of the factory's tables: digests, UUIDs, times, JSON columns.

Each type holds what its column can: the checks of the schema are fields of
the structures. A time is its UTC reading, which is what the canonical form
prints, whatever offset the session reads it in; a UUID is its canonical
text, and a JSON column has its members in the database's own order.
-/
import Exolon.Lib.Canonical

namespace Exolon.Factory

-- =============================================================== digests

/-- `char(64)`, and the schema's check of it. -/
structure Digest where
  text : Text
  length_eq : text.length = 64
  hex : ∀ c ∈ text, ('0' ≤ c ∧ c ≤ '9') ∨ ('a' ≤ c ∧ c ≤ 'f')
  deriving DecidableEq

theorem Digest.length_of {text : Text} (h : text.length = 64
    ∧ ∀ c ∈ text, ('0' ≤ c ∧ c ≤ '9') ∨ ('a' ≤ c ∧ c ≤ 'f')) :
    text.length = 64 := h.1

theorem Digest.hex_of {text : Text} (h : text.length = 64
    ∧ ∀ c ∈ text, ('0' ≤ c ∧ c ≤ '9') ∨ ('a' ≤ c ∧ c ≤ 'f')) :
    ∀ c ∈ text, ('0' ≤ c ∧ c ≤ '9') ∨ ('a' ≤ c ∧ c ≤ 'f') := h.2

/-- Sixty-four zeros, before the first entry of every chain. -/
def Digest.genesis : Digest where
  text := List.replicate 64 '0'
  length_eq := List.length_replicate
  hex := fun c hc => by
    rw [List.eq_of_mem_replicate hc]
    decide

theorem Digest.ext_text {d d' : Digest} (h : d.text = d'.text) : d = d' := by
  cases d
  cases d'
  cases h
  rfl

-- ================================================================= UUIDs

/-- The places of the hyphens in a canonical UUID. -/
def isUuidHyphen (i : Nat) : Bool := i == 8 || i == 13 || i == 18 || i == 23

/-- Eight, four, four, four and twelve hexadecimal digits. -/
def isCanonicalUuid (text : Text) : Bool :=
  text.length == 36 && text.zipIdx.all fun p =>
    if isUuidHyphen p.2 then p.1 == '-'
    else ('0' ≤ p.1 && p.1 ≤ '9') || ('a' ≤ p.1 && p.1 ≤ 'f')

/-- A UUID, as `str` prints it. -/
structure Uuid where
  text : Text
  canonical : isCanonicalUuid text = true
  deriving DecidableEq

theorem Uuid.ext_text {u u' : Uuid} (h : u.text = u'.text) : u = u' := by
  cases u
  cases u'
  cases h
  rfl

-- ================================================================= times

def isLeapYear (year : Nat) : Bool :=
  year % 4 == 0 && (year % 100 != 0 || year % 400 == 0)

def daysInMonth (year month : Nat) : Nat :=
  if month = 2 then if isLeapYear year then 29 else 28
  else if month = 4 ∨ month = 6 ∨ month = 9 ∨ month = 11 then 30
  else 31

/-- A point in time, to the microsecond, read in UTC. -/
structure Timestamp where
  year : Nat
  month : Nat
  day : Nat
  hour : Nat
  minute : Nat
  second : Nat
  microsecond : Nat
  date : 1 ≤ year ∧ year ≤ 9999 ∧ 1 ≤ month ∧ month ≤ 12 ∧ 1 ≤ day
    ∧ day ≤ daysInMonth year month
  time : hour < 24 ∧ minute < 60 ∧ second < 60 ∧ microsecond < 1000000
  deriving DecidableEq

namespace Timestamp

/-- `isoformat` leaves the microseconds out when there are none. -/
def fraction (microsecond : Nat) : Text :=
  if microsecond = 0 then [] else '.' :: paddedText 6 microsecond

/-- The canonical text: `isoformat` in UTC, with `Z` for the offset. -/
def isoformat (t : Timestamp) : Text :=
  paddedText 4 t.year ++ '-' :: (paddedText 2 t.month
    ++ '-' :: (paddedText 2 t.day
    ++ 'T' :: (paddedText 2 t.hour
    ++ ':' :: (paddedText 2 t.minute
    ++ ':' :: (paddedText 2 t.second
    ++ (fraction t.microsecond ++ ['Z']))))))

theorem length_paddedText {width n : Nat} (hwidth : 0 < width)
    (h : n < 10 ^ width) : (paddedText width n).length = width := by
  have hlen := (Nat.length_toDigits_le_iff (by decide) hwidth).mpr h
  unfold paddedText
  rw [List.length_leftpad]
  exact Nat.max_eq_left hlen

/-- Zeros in front do not change a number. -/
theorem paddedText_value (width n : Nat) :
    Nat.ofDigitChars 10 (paddedText width n) 0 = n := by
  unfold paddedText List.leftpad
  rw [Nat.ofDigitChars_append, Nat.ofDigitChars_replicate_zero, Nat.mul_zero]
  exact natText_value n

/-- A field of fixed width, and what follows it. -/
theorem paddedText_append_inj {width n n' : Nat} {rest rest' : Text}
    (hwidth : 0 < width) (h : n < 10 ^ width) (h' : n' < 10 ^ width)
    (heq : paddedText width n ++ rest = paddedText width n' ++ rest') :
    n = n' ∧ rest = rest' := by
  have hlen : (paddedText width n).length = (paddedText width n').length := by
    rw [length_paddedText hwidth h, length_paddedText hwidth h']
  obtain ⟨hdigits, hrest⟩ := List.append_inj heq hlen
  refine ⟨?_, hrest⟩
  rw [← paddedText_value width n, hdigits, paddedText_value]

theorem fraction_inj {n n' : Nat} (h : n < 1000000) (h' : n' < 1000000)
    (heq : fraction n ++ ['Z'] = fraction n' ++ ['Z']) : n = n' := by
  unfold fraction at heq
  by_cases hzero : n = 0
  · by_cases hzero' : n' = 0
    · rw [hzero, hzero']
    · rw [if_pos hzero, if_neg hzero'] at heq
      cases heq
  · by_cases hzero' : n' = 0
    · rw [if_neg hzero, if_pos hzero'] at heq
      cases heq
    · rw [if_neg hzero, if_neg hzero'] at heq
      exact (paddedText_append_inj (by decide) h h'
        (List.cons.inj heq).2).1

/-- Different times print differently. -/
theorem isoformat_inj {t t' : Timestamp} (heq : t.isoformat = t'.isoformat) :
    t = t' := by
  have hmonth (u : Timestamp) : u.month < 100 ∧ u.day < 100
      ∧ u.hour < 100 ∧ u.minute < 100 ∧ u.second < 100 := by
    have hdays : daysInMonth u.year u.month ≤ 31 := by
      unfold daysInMonth
      split
      · split <;> omega
      · split <;> omega
    have hdate := u.date
    have htime := u.time
    omega
  have hyear (u : Timestamp) : u.year < 10 ^ 4 := by
    have hdate := u.date
    omega
  obtain ⟨hmonth₁, hday₁, hhour₁, hminute₁, hsecond₁⟩ := hmonth t
  obtain ⟨hmonth₂, hday₂, hhour₂, hminute₂, hsecond₂⟩ := hmonth t'
  unfold isoformat at heq
  obtain ⟨hy, heq⟩ := paddedText_append_inj (by decide) (hyear t) (hyear t')
    heq
  obtain ⟨hmo, heq⟩ := paddedText_append_inj (by decide) hmonth₁ hmonth₂
    (List.cons.inj heq).2
  obtain ⟨hd, heq⟩ := paddedText_append_inj (by decide) hday₁ hday₂
    (List.cons.inj heq).2
  obtain ⟨hh, heq⟩ := paddedText_append_inj (by decide) hhour₁ hhour₂
    (List.cons.inj heq).2
  obtain ⟨hmi, heq⟩ := paddedText_append_inj (by decide) hminute₁ hminute₂
    (List.cons.inj heq).2
  obtain ⟨hs, heq⟩ := paddedText_append_inj (by decide) hsecond₁ hsecond₂
    (List.cons.inj heq).2
  have hus := fraction_inj t.time.2.2.2 t'.time.2.2.2 heq
  cases t
  cases t'
  cases hy
  cases hmo
  cases hd
  cases hh
  cases hmi
  cases hs
  cases hus
  rfl

end Timestamp

-- ================================================================= bytes

/-- The bytes of a text. -/
def utf8 (text : Text) : List UInt8 := text.flatMap String.utf8EncodeChar

theorem utf8_inj {text text' : Text} (h : utf8 text = utf8 text') :
    text = text' := by
  have hbytes : text.utf8Encode = text'.utf8Encode :=
    congrArg List.toByteArray h
  have hdecode : text.utf8Encode.utf8Decode? = text'.utf8Encode.utf8Decode? :=
    congrArg ByteArray.utf8Decode? hbytes
  rw [List.utf8Decode?_utf8Encode, List.utf8Decode?_utf8Encode] at hdecode
  exact congrArg Array.toList (Option.some.inj hdecode)

theorem utf8_append (t u : Text) : utf8 (t ++ u) = utf8 t ++ utf8 u :=
  List.flatMap_append

/-- A text of ASCII has a byte for each scalar. -/
theorem utf8_length_of_ascii {t : Text} (h : ∀ c ∈ t, c.toNat < 128) :
    (utf8 t).length = t.length := by
  induction t with
  | nil => rfl
  | cons c t ih =>
      rw [List.forall_mem_cons] at h
      have hone : (String.utf8EncodeChar c).length = 1 := by
        rw [String.length_utf8EncodeChar]
        exact Char.utf8Size_eq_one_iff.mpr (Nat.le_of_lt_succ h.1)
      show (String.utf8EncodeChar c ++ utf8 t).length = _
      rw [List.length_append, hone, ih h.2, List.length_cons]
      omega

-- ========================================================== JSON columns

/-- The order `jsonb` keeps an object's names in: shorter ones first. -/
def jsonbKey (name : Text) : ℕ ×ₗ Text :=
  toLex ((utf8 name).length, name)

theorem jsonbKey_injective : Function.Injective jsonbKey := by
  intro name name' h
  exact (Prod.mk.inj (toLex.injective h)).2

/-- What a `jsonb` column holds of strings, integers, booleans, nulls, and
arrays and objects of them. -/
structure Jsonb where
  value : Json
  plain : value.Plain
  lawful : value.Lawful
  ordered : value.reorder jsonbKey = value

/-- What a caller hands over for such a column. -/
structure Metadata where
  value : Json
  plain : value.Plain
  lawful : value.Lawful

/-- `{}` -/
def Metadata.empty : Metadata where
  value := .obj []
  plain := trivial
  lawful := ⟨List.nodup_nil, trivial⟩

/-- What the column keeps of it. -/
def Metadata.stored (m : Metadata) : Jsonb where
  value := m.value.reorder jsonbKey
  plain := Json.plain_reorder m.value m.plain
  lawful := Json.lawful_reorder m.value m.lawful
  ordered := Json.reorder_reorder jsonbKey_injective m.value m.lawful

/-- `canonical_json`: names by their scalars, and no blanks. -/
def canonicalJson (v : Json) : Text := (v.reorder id).write

/-- The way through the column does not show in the canonical form. -/
theorem canonicalJson_stored (m : Metadata) :
    canonicalJson m.stored.value = canonicalJson m.value := by
  unfold canonicalJson Metadata.stored
  rw [Json.reorder_reorder Function.injective_id m.value m.lawful]

theorem canonicalJson_inj {a b : Jsonb}
    (h : canonicalJson a.value = canonicalJson b.value) : a = b := by
  have horder := Json.reorder_inj_of_write a.plain b.plain h
  have hforget (c : Jsonb) :
      (c.value.reorder id).reorder jsonbKey = c.value :=
    (Json.reorder_reorder jsonbKey_injective c.value c.lawful).trans
      c.ordered
  have hvalue : a.value = b.value := by
    rw [← hforget a, ← hforget b, horder]
  cases a
  cases b
  cases hvalue
  rfl

end Exolon.Factory
