/-
A JSON reader, and what makes a text assembled by hand readable.

`parse` follows the JSON grammar: insignificant blanks, escapes with
surrogate pairs, numbers without superfluous zeros, and no trailing text.
Objects keep their members as written, so a repeated name is visible in
the value (`Json.names`) and not silently resolved.

# How a writer is proved right against it

`Reads text v` says the reader consumes `text` wherever it stands and
answers `v`. A writer's proof never unfolds the reader: it has one rule
for each thing it prints.

- `Reads.int`, `Reads.bool`, `Reads.str`: the scalars;
- `Reads.obj`: an object, from one `Reads` a member;
- `Reads.parse`: a whole text, from its value's `Reads`.

For strings, `Spells body s` is the part between the quotes; it composes
scalar by scalar (`Spells.plain`, `Spells.escape`, `Spells.unicode`).
-/
import Exolon.Lib.Text

namespace Exolon

/-- A JSON value. A number is `mantissa * 10 ^ exponent`. -/
inductive Json where
  | null
  | bool (b : Bool)
  | num (mantissa exponent : Int)
  | str (s : Text)
  | arr (items : List Json)
  | obj (members : List (Text × Json))

namespace Json

/-- A JSON integer. -/
abbrev int (z : Int) : Json := .num z 0

/-- The member names of an object, as written. -/
def names : Json → List Text
  | .obj members => members.map Prod.fst
  | _ => []

/-- The value of the first member of that name. -/
def get? (name : Text) : Json → Option Json
  | .obj members => members.lookup name
  | _ => none

-- ============================================================= the reader

/-- The blanks the grammar allows between tokens. -/
def isBlank (c : Char) : Bool :=
  c == ' ' || c == '\t' || c == '\n' || c == '\r'

/-- Drop leading blanks. -/
def skipBlanks : Text → Text
  | [] => []
  | c :: rest => if isBlank c then skipBlanks rest else c :: rest

/-- The value of a hexadecimal digit. -/
def hexDigit? (c : Char) : Option Nat :=
  if '0' ≤ c ∧ c ≤ '9' then some (c.toNat - '0'.toNat)
  else if 'a' ≤ c ∧ c ≤ 'f' then some (c.toNat - 'a'.toNat + 10)
  else if 'A' ≤ c ∧ c ≤ 'F' then some (c.toNat - 'A'.toNat + 10)
  else none

/-- The code unit four hexadecimal digits spell. -/
def codeUnit? (h₃ h₂ h₁ h₀ : Char) : Option Nat := do
  let d₃ ← hexDigit? h₃
  let d₂ ← hexDigit? h₂
  let d₁ ← hexDigit? h₁
  let d₀ ← hexDigit? h₀
  some (((d₃ * 16 + d₂) * 16 + d₁) * 16 + d₀)

/-- The scalar a one-letter escape stands for. -/
def shortEscape? : Char → Option Char
  | '"' => some '"'
  | '\\' => some '\\'
  | '/' => some '/'
  | 'b' => some '\x08'
  | 'f' => some '\x0c'
  | 'n' => some '\n'
  | 'r' => some '\r'
  | 't' => some '\t'
  | _ => none

/-- Read a string body up to its closing quote. -/
def parseString : Text → Option (Text × Text)
  | [] => none
  | '"' :: rest => some ([], rest)
  | '\\' :: 'u' :: h₃ :: h₂ :: h₁ :: h₀ :: rest => do
      let unit ← codeUnit? h₃ h₂ h₁ h₀
      if unit < 0xD800 ∨ 0xDFFF < unit then
        let (s, rest) ← parseString rest
        some (Char.ofNat unit :: s, rest)
      else if unit ≤ 0xDBFF then
        -- a high surrogate: its low half must follow
        match rest with
        | '\\' :: 'u' :: l₃ :: l₂ :: l₁ :: l₀ :: rest => do
            let low ← codeUnit? l₃ l₂ l₁ l₀
            if 0xDC00 ≤ low ∧ low ≤ 0xDFFF then
              let (s, rest) ← parseString rest
              some (Char.ofNat
                (0x10000 + (unit - 0xD800) * 0x400 + (low - 0xDC00)) :: s, rest)
            else none
        | _ => none
      else none
  | '\\' :: c :: rest => do
      let scalar ← shortEscape? c
      let (s, rest) ← parseString rest
      some (scalar :: s, rest)
  | c :: rest =>
      if c = '\\' ∨ c.toNat < 0x20 then none
      else do
        let (s, rest) ← parseString rest
        some (c :: s, rest)

/-- The digits at the front of a text. -/
def spanDigits (cs : Text) : Text × Text :=
  (cs.takeWhile Char.isDigit, cs.dropWhile Char.isDigit)

/-- Read an exponent, if one stands here. -/
def parseExponent : Text → Option (Int × Text)
  | c :: rest =>
      if c = 'e' ∨ c = 'E' then
        let (negative, rest) := match rest with
          | '-' :: rest => (true, rest)
          | '+' :: rest => (false, rest)
          | rest => (false, rest)
        let (ds, rest) := spanDigits rest
        if ds = [] then none
        else
          let e : Int := Nat.ofDigitChars 10 ds 0
          some (if negative then -e else e, rest)
      else some (0, c :: rest)
  | [] => some (0, [])

/-- Read the digits after a decimal point, if one stands here. -/
def parseFraction : Text → Option (Text × Text)
  | '.' :: rest =>
      let (ds, rest) := spanDigits rest
      if ds = [] then none else some (ds, rest)
  | rest => some ([], rest)

/-- Read a number without its sign. -/
def parseMagnitude (cs : Text) : Option ((Nat × Int) × Text) := do
  let (whole, rest) := spanDigits cs
  if whole = [] ∨ (whole.head? = some '0' ∧ whole ≠ ['0']) then none
  else
    let (fraction, rest) ← parseFraction rest
    let (e, rest) ← parseExponent rest
    some ((Nat.ofDigitChars 10 (whole ++ fraction) 0,
      e - fraction.length), rest)

/-- Read a number. -/
def parseNumber : Text → Option (Json × Text)
  | '-' :: rest => do
      let ((m, e), rest) ← parseMagnitude rest
      some (.num (-(m : Int)) e, rest)
  | cs => do
      let ((m, e), rest) ← parseMagnitude cs
      some (.num m e, rest)

mutual

/-- Read one value. The fuel bounds the nesting and the members; the
length of the text is always enough. -/
def parseValue : Nat → Text → Option (Json × Text)
  | 0, _ => none
  | n + 1, cs =>
      match skipBlanks cs with
      | 'n' :: 'u' :: 'l' :: 'l' :: rest => some (.null, rest)
      | 't' :: 'r' :: 'u' :: 'e' :: rest => some (.bool true, rest)
      | 'f' :: 'a' :: 'l' :: 's' :: 'e' :: rest => some (.bool false, rest)
      | '"' :: rest => do
          let (s, rest) ← parseString rest
          some (.str s, rest)
      | '[' :: rest =>
          match skipBlanks rest with
          | ']' :: rest => some (.arr [], rest)
          | _ => do
              let (items, rest) ← parseItems n rest
              some (.arr items, rest)
      | '{' :: rest =>
          match skipBlanks rest with
          | '}' :: rest => some (.obj [], rest)
          | _ => do
              let (members, rest) ← parseMembers n rest
              some (.obj members, rest)
      | cs => parseNumber cs

/-- Read the items of an array and its closing bracket. -/
def parseItems : Nat → Text → Option (List Json × Text)
  | 0, _ => none
  | n + 1, cs => do
      let (item, rest) ← parseValue n cs
      match skipBlanks rest with
      | ',' :: rest => do
          let (items, rest) ← parseItems n rest
          some (item :: items, rest)
      | ']' :: rest => some ([item], rest)
      | _ => none

/-- Read the members of an object and its closing brace. -/
def parseMembers : Nat → Text → Option (List (Text × Json) × Text)
  | 0, _ => none
  | n + 1, cs =>
      match skipBlanks cs with
      | '"' :: rest => do
          let (name, rest) ← parseString rest
          match skipBlanks rest with
          | ':' :: rest => do
              let (value, rest) ← parseValue n rest
              match skipBlanks rest with
              | ',' :: rest => do
                  let (members, rest) ← parseMembers n rest
                  some ((name, value) :: members, rest)
              | '}' :: rest => some ([(name, value)], rest)
              | _ => none
          | _ => none
      | _ => none

end

/-- Read a whole text as one value, with nothing after it but blanks. -/
def parse (cs : Text) : Option Json := do
  let (value, rest) ← parseValue (cs.length + 1) cs
  if skipBlanks rest = [] then some value else none

-- ======================================================= reading tokens

/-- Blanks are skipped up to the first other scalar. -/
theorem skipBlanks_of_not_blank {c : Char} {cs : Text}
    (hc : isBlank c = false) : skipBlanks (c :: cs) = c :: cs := by
  simp [skipBlanks, hc]

theorem isBlank_of_isDigit {c : Char} (hc : c.isDigit = true) :
    isBlank c = false := by
  cases hb : isBlank c with
  | false => rfl
  | true =>
      simp only [isBlank, Bool.or_eq_true, beq_iff_eq] at hb
      rcases hb with ((rfl | rfl) | rfl) | rfl <;> exact absurd hc (by decide)

/-- What may stand after a value: nothing that would continue a number. -/
def Ends (rest : Text) : Prop :=
  ∀ c, rest.head? = some c →
    c.isDigit = false ∧ c ≠ '.' ∧ c ≠ 'e' ∧ c ≠ 'E'

theorem Ends.comma (cs : Text) : Ends (',' :: cs) := by
  intro c hc
  cases hc
  decide

theorem Ends.brace (cs : Text) : Ends ('}' :: cs) := by
  intro c hc
  cases hc
  decide

theorem Ends.bracket (cs : Text) : Ends (']' :: cs) := by
  intro c hc
  cases hc
  decide

/-- Blanks end a value, and so does the end of the text. -/
theorem Ends.of_blank {rest : Text} (h : skipBlanks rest = []) :
    Ends rest := by
  intro c hc
  cases rest with
  | nil => cases hc
  | cons d rest =>
      obtain rfl : d = c := by simpa using hc
      cases hb : isBlank d with
      | false =>
          rw [skipBlanks_of_not_blank hb] at h
          cases h
      | true =>
          simp only [isBlank, Bool.or_eq_true, beq_iff_eq] at hb
          rcases hb with ((rfl | rfl) | rfl) | rfl <;> decide

/-- Digits in front of something else are read off exactly. -/
theorem spanDigits_append {ds rest : Text}
    (hds : ∀ c ∈ ds, c.isDigit = true) (hrest : Ends rest) :
    spanDigits (ds ++ rest) = (ds, rest) := by
  unfold spanDigits
  have hstop : rest.takeWhile Char.isDigit = []
      ∧ rest.dropWhile Char.isDigit = rest := by
    cases rest with
    | nil => exact ⟨rfl, rfl⟩
    | cons c rest =>
        have hc := (hrest c rfl).1
        simp [hc]
  rw [List.takeWhile_append_of_pos hds, List.dropWhile_append_of_pos hds,
    hstop.1, hstop.2, List.append_nil]

theorem parseFraction_of_ends {rest : Text} (hrest : Ends rest) :
    parseFraction rest = some ([], rest) := by
  unfold parseFraction
  split
  case h_1 => exact absurd rfl (hrest '.' rfl).2.1
  case h_2 => rfl

theorem parseExponent_of_ends {rest : Text} (hrest : Ends rest) :
    parseExponent rest = some (0, rest) := by
  cases rest with
  | nil => rfl
  | cons c rest =>
      have hc := (hrest c rfl).2.2
      simp [parseExponent, hc.1, hc.2]

/-- A printed number is read back. -/
theorem parseMagnitude_natText (n : Nat) {rest : Text} (hrest : Ends rest) :
    parseMagnitude (natText n ++ rest) = some ((n, 0), rest) := by
  have hspan := spanDigits_append (fun c => natText_isDigit (n := n)) hrest
  have hok : ¬(natText n = [] ∨
      ((natText n).head? = some '0' ∧ natText n ≠ ['0'])) := by
    rintro (h | ⟨h, h'⟩)
    · exact natText_ne_nil n h
    · rcases natText_head n with h'' | h''
      · exact h'' h
      · exact h' h''
  simp [parseMagnitude, hspan, hok, parseFraction_of_ends hrest,
    parseExponent_of_ends hrest, natText_value]

theorem parseNumber_intText (z : Int) {rest : Text} (hrest : Ends rest) :
    parseNumber (intText z ++ rest) = some (.int z, rest) := by
  cases z with
  | ofNat n =>
      unfold parseNumber
      have hmag := parseMagnitude_natText n hrest
      split
      case h_1 rest' heq =>
        -- an unsigned number does not start with a sign
        have hmem : '-' ∈ natText n := by
          cases hn : natText n with
          | nil => exact absurd hn (natText_ne_nil n)
          | cons c cs =>
              rw [show intText (Int.ofNat n) = natText n from rfl, hn] at heq
              injection heq with hc _
              simp [hc]
        exact absurd (natText_isDigit hmem) (by decide)
      case h_2 =>
        rw [show intText (Int.ofNat n) = natText n from rfl, hmag]
        rfl
  | negSucc n =>
      have hmag := parseMagnitude_natText (n + 1) hrest
      simp only [intText, List.cons_append, parseNumber, hmag]
      rfl

-- ======================================================= reading strings

section Strings

attribute [local simp] parseString

/-- `body` between quotes is the string `s`. -/
def Spells (body s : Text) : Prop :=
  ∀ rest, parseString (body ++ '"' :: rest) = some (s, rest)

theorem Spells.nil : Spells [] [] := fun _ => by simp

/-- A scalar that needs no escape. -/
theorem Spells.plain {c : Char} {body s : Text} (hquote : c ≠ '"')
    (hslash : c ≠ '\\') (hcontrol : 0x20 ≤ c.toNat) (h : Spells body s) :
    Spells (c :: body) (c :: s) := by
  intro rest
  rw [List.cons_append, parseString]
  · simp [hslash, h rest, Nat.not_lt.mpr hcontrol]
  · exact hquote
  · intro _ _ _ _ _ hc
    exact absurd hc hslash
  · intro _ _ hc
    exact absurd hc hslash

/-- A one-letter escape. -/
theorem Spells.escape {c d : Char} {body s : Text} (hu : c ≠ 'u')
    (hc : shortEscape? c = some d) (h : Spells body s) :
    Spells ('\\' :: c :: body) (d :: s) := by
  intro rest
  rw [List.cons_append, List.cons_append, parseString]
  · simp [hc, h rest]
  · intro _ _ _ _ _ heq
    exact absurd heq.symm (by simpa using Ne.symm hu)

/-- A scalar of the basic plane by its code. -/
theorem Spells.unicode {h₃ h₂ h₁ h₀ : Char} {unit : Nat} {body s : Text}
    (hunit : codeUnit? h₃ h₂ h₁ h₀ = some unit) (hbasic : unit < 0xD800)
    (h : Spells body s) :
    Spells ('\\' :: 'u' :: h₃ :: h₂ :: h₁ :: h₀ :: body)
      (Char.ofNat unit :: s) := by
  intro rest
  simp [hunit, hbasic, h rest]

/-- A control scalar is escaped by its four-digit code. -/
theorem paddedHexText_codeUnit : ∀ n < 0x20, ∃ h₃ h₂ h₁ h₀,
    paddedHexText 4 n = [h₃, h₂, h₁, h₀]
      ∧ codeUnit? h₃ h₂ h₁ h₀ = some n
      ∧ '\n' ∉ paddedHexText 4 n := by
  have hspelt : ∀ n < 0x20, paddedHexText 4 n
      = ['0', '0', (paddedHexText 4 n).getD 2 '0',
        (paddedHexText 4 n).getD 3 '0'] := by decide
  have hcode : ∀ n < 0x20, codeUnit? '0' '0'
      ((paddedHexText 4 n).getD 2 '0') ((paddedHexText 4 n).getD 3 '0')
      = some n := by decide
  have hline : ∀ n < 0x20, '\n' ∉ paddedHexText 4 n := by decide
  exact fun n hn => ⟨_, _, _, _, hspelt n hn, hcode n hn, hline n hn⟩

/-- A text without quotes, backslashes or control scalars spells
itself. -/
theorem Spells.of_plain {s : Text}
    (h : ∀ c ∈ s, c ≠ '"' ∧ c ≠ '\\' ∧ 0x20 ≤ c.toNat) : Spells s s := by
  induction s with
  | nil => exact .nil
  | cons c s ih =>
      obtain ⟨hquote, hslash, hcontrol⟩ := h c List.mem_cons_self
      refine .plain hquote hslash hcontrol (ih fun d hd => ?_)
      exact h d (List.mem_cons_of_mem c hd)

end Strings

-- ======================================================== reading values

section Values

attribute [local simp] parseValue skipBlanks isBlank

/-- The reader consumes `text` wherever it stands and answers `v`. -/
def Reads (text : Text) (v : Json) : Prop :=
  ∀ n rest, text.length ≤ n → Ends rest →
    parseValue n (text ++ rest) = some (v, rest)

/-- A value that starts like a number is read as one. -/
theorem parseValue_number {n : Nat} {c : Char} {cs : Text}
    (hc : c = '-' ∨ c.isDigit = true) :
    parseValue (n + 1) (c :: cs) = parseNumber (c :: cs) := by
  have hblank : isBlank c = false := by
    rcases hc with rfl | hc
    · rfl
    · exact isBlank_of_isDigit hc
  have hne : c ≠ 'n' ∧ c ≠ 't' ∧ c ≠ 'f' ∧ c ≠ '"' ∧ c ≠ '[' ∧ c ≠ '{' := by
    rcases hc with rfl | hc
    · decide
    · refine ⟨?_, ?_, ?_, ?_, ?_, ?_⟩ <;> rintro rfl <;>
        exact absurd hc (by decide)
  rw [parseValue, skipBlanks_of_not_blank hblank]
  split <;> simp_all

theorem Reads.int (z : Int) : Reads (intText z) (.int z) := by
  intro n rest hn hrest
  have hnum := parseNumber_intText z hrest
  cases ht : intText z with
  | nil =>
      cases z with
      | ofNat m => exact absurd ht (natText_ne_nil m)
      | negSucc m => cases ht
  | cons c cs =>
      obtain ⟨m, rfl⟩ : ∃ m, n = m + 1 := by
        rw [ht] at hn
        exact ⟨n - 1, by simp at hn; omega⟩
      rw [List.cons_append, parseValue_number, ← List.cons_append, ← ht, hnum]
      exact intText_char (by rw [ht]; exact List.mem_cons_self)

theorem Reads.true : Reads ['t', 'r', 'u', 'e'] (.bool Bool.true) := by
  intro n rest hn _
  obtain ⟨m, rfl⟩ : ∃ m, n = m + 1 := ⟨n - 1, by simp at hn; omega⟩
  simp

theorem Reads.false :
    Reads ['f', 'a', 'l', 's', 'e'] (.bool Bool.false) := by
  intro n rest hn _
  obtain ⟨m, rfl⟩ : ∃ m, n = m + 1 := ⟨n - 1, by simp at hn; omega⟩
  simp

theorem Reads.str {body s : Text} (h : Spells body s) :
    Reads ('"' :: body ++ ['"']) (.str s) := by
  intro n rest hn _
  obtain ⟨m, rfl⟩ : ∃ m, n = m + 1 := ⟨n - 1, by simp at hn; omega⟩
  have hstr := h rest
  simp [hstr]

end Values

/-- One member of an object, name and value. -/
def ReadsMember (text : Text) (member : Text × Json) : Prop :=
  ∃ name value, text = '"' :: name ++ '"' :: ':' :: value
    ∧ Spells name member.1 ∧ Reads value member.2

/-- A member is read up to what follows its value. -/
theorem ReadsMember.parse {text : Text} {member : Text × Json}
    (h : ReadsMember text member) {n : Nat} {rest : Text}
    (hn : text.length ≤ n + 1) (hrest : Ends rest) :
    parseMembers (n + 1) (text ++ rest) =
      match skipBlanks rest with
      | ',' :: rest => do
          let (members, rest) ← parseMembers n rest
          some (member :: members, rest)
      | '}' :: rest => some ([member], rest)
      | _ => none := by
  obtain ⟨name, value, rfl, hname, hvalue⟩ := h
  have hlen : value.length ≤ n := by
    simp at hn
    omega
  have hstr := hname (':' :: (value ++ rest))
  have hval := hvalue n rest hlen hrest
  rw [parseMembers]
  simp [skipBlanks, isBlank, hstr, hval]

/-- An object from its members, the first one and the ones each put after
a comma. -/
theorem Reads.obj {t : Text} {m : Text × Json} {ts : List Text}
    {ms : List (Text × Json)} (h : ReadsMember t m)
    (hs : List.Forall₂ ReadsMember ts ms) :
    Reads ('{' :: t ++ ts.flatMap (fun t => ',' :: t) ++ ['}'])
      (.obj (m :: ms)) := by
  -- the members, at any fuel their length allows
  have hmembers : ∀ n rest,
      (t ++ ts.flatMap (fun t => ',' :: t)).length ≤ n →
      parseMembers (n + 1)
          (t ++ ts.flatMap (fun t => ',' :: t) ++ '}' :: rest)
        = some (m :: ms, rest) := by
    induction hs generalizing t m with
    | nil =>
        intro n rest hn
        rw [List.flatMap_nil, List.append_nil,
          h.parse (by simp at hn; omega) (.brace rest)]
        simp [skipBlanks, isBlank]
    | @cons t' m' ts ms h' hs ih =>
        intro n rest hn
        simp only [List.flatMap_cons, List.length_append, List.length_cons]
          at hn
        obtain ⟨k, rfl⟩ : ∃ k, n = k + 1 := ⟨n - 1, by omega⟩
        have htail := ih h' k rest (by rw [List.length_append]; omega)
        rw [List.flatMap_cons, List.append_assoc, h.parse (by omega)]
        · simp only [List.cons_append, List.append_assoc] at htail ⊢
          simp [skipBlanks, isBlank, htail]
        · exact .comma _
  intro n rest hn _
  simp only [List.length_append, List.length_cons, List.length_nil] at hn
  obtain ⟨k, rfl⟩ : ∃ k, n = k + 2 := ⟨n - 2, by omega⟩
  have hread := hmembers k rest (by rw [List.length_append]; omega)
  obtain ⟨name, value, rfl, _, _⟩ := h
  rw [parseValue]
  simp only [List.cons_append, List.append_assoc, skipBlanks, isBlank]
    at hread ⊢
  simp [hread, skipBlanks, isBlank]

/-- A text that reads as a value, and blanks after it, is one document. -/
theorem Reads.parse {text rest : Text} {v : Json} (h : Reads text v)
    (hrest : skipBlanks rest = []) : parse (text ++ rest) = some v := by
  unfold Json.parse
  rw [h _ rest (by simp; omega) (.of_blank hrest)]
  simp [hrest]

end Json

end Exolon
