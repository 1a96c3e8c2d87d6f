/-
Python's strings and its JSON decoder.

A `str` is a list of code points: an escape such as `\ud800` puts an
unpaired surrogate into it, and `encode("utf-8")` raises on one. `loads` is
`json.loads` with the two hooks a strict caller sets, `object_pairs_hook`
and `parse_constant`; a hook is called when its object is closed or its
constant is read, so what it raises comes before any later error of the
text.

# What else the decoder raises

Beside `JSONDecodeError` (`decode`) the interpreter raises `ValueError` for
an integer of more than 4300 digits (`intDigits`) and `RecursionError` for
a nesting deeper than it has stack for (`recursion`); the depth is an
argument.
-/
import Exolon.Lib.Json

namespace Exolon

-- =============================================================== strings

/-- A code point, surrogates included. -/
abbrev CodePoint := Fin 0x110000

/-- A `str`. -/
abbrev PyStr := List CodePoint

instance : LawfulBEq PyStr := inferInstanceAs (LawfulBEq (List CodePoint))

instance codePoint_neZero : NeZero 0x110000 := ⟨Nat.succ_ne_zero _⟩

theorem toNat_lt_codePoints (c : Char) : c.toNat < 0x110000 := by
  have hvalid := c.valid
  rw [UInt32.isValidChar, Nat.isValidChar] at hvalid
  show c.val.toNat < 0x110000
  omega

/-- The code point of a scalar. -/
def codePoint (c : Char) : CodePoint := ⟨c.toNat, toNat_lt_codePoints c⟩

/-- A literal of the source. -/
def py (s : String) : PyStr := s.toList.map codePoint

namespace PyStr

/-- The scalar of a code point that is no surrogate. -/
def scalar? (p : CodePoint) : Option Char :=
  if 0xD800 ≤ p.val ∧ p.val ≤ 0xDFFF then none else some (Char.ofNat p.val)

/-- The text of a `str` without surrogates. -/
def text? (s : PyStr) : Option Text := s.mapM scalar?

/-- `encode("utf-8")`; `none` is `UnicodeEncodeError`. -/
def encode? (s : PyStr) : Option (List UInt8) :=
  (text? s).map fun t => t.flatMap String.utf8EncodeChar

end PyStr

-- ================================================================ values

/-- A `float`, by the decimal it was read from: the value is the nearest
double of `mantissa * 10 ^ exponent`. -/
structure PyFloat where
  mantissa : Int
  exponent : Int
  deriving DecidableEq

/-- `math.isfinite`: from halfway past the greatest double on, the nearest
double is infinite. -/
def PyFloat.isFinite (f : PyFloat) : Bool :=
  let bound := 2 ^ 1024 - 2 ^ 970
  if 0 ≤ f.exponent then f.mantissa.natAbs * 10 ^ f.exponent.toNat < bound
  else f.mantissa.natAbs < bound * 10 ^ (-f.exponent).toNat

/-- What `json.loads` answers. A `dict` keeps the order of its keys. -/
inductive PyJson where
  | none
  | bool (b : Bool)
  | int (i : Int)
  | float (f : PyFloat)
  | str (s : PyStr)
  | list (items : List PyJson)
  | dict (members : List (PyStr × PyJson))

namespace PyJson

/-- `value.get(key)` of a `dict`. -/
def get? (key : PyStr) : PyJson → Option PyJson
  | .dict members => members.lookup key
  | _ => Option.none

/-- The keys of a `dict`. -/
def keys : PyJson → List PyStr
  | .dict members => members.map Prod.fst
  | _ => []

/-- `isinstance(value, str)` -/
def isStr : PyJson → Bool
  | .str _ => true
  | _ => false

/-- `type(value) is int` -/
def isInt : PyJson → Bool
  | .int _ => true
  | _ => false

/-- The strings of a list of strings. -/
def strings? : PyJson → Option (List PyStr)
  | .list items => items.mapM fun item =>
      match item with
      | .str s => some s
      | _ => Option.none
  | _ => Option.none

-- ============================================================= the hooks

/-- How the decoder ends without a value. -/
inductive LoadError (ε : Type) where
  | decode
  | intDigits
  | recursion
  | hook (e : ε)
  deriving DecidableEq

/-- `object_pairs_hook` and `parse_constant`. -/
structure Hooks (ε : Type) where
  pairs : List (PyStr × PyJson) → Except ε PyJson
  constant : Text → Except ε PyJson

variable {ε : Type}

/-- Call a hook. -/
def hooked (answer : Except ε PyJson) (rest : Text) :
    Except (LoadError ε) (PyJson × Text) :=
  match answer with
  | .ok value => .ok (value, rest)
  | .error e => .error (.hook e)

-- =========================================================== the decoder

/-- A string body up to its closing quote. A high surrogate takes a low one
that follows it, and stands alone otherwise. -/
def scanString : Text → Option (PyStr × Text)
  | [] => Option.none
  | '"' :: rest => some ([], rest)
  | '\\' :: 'u' :: h₃ :: h₂ :: h₁ :: h₀ :: rest => do
      let unit ← Json.codeUnit? h₃ h₂ h₁ h₀
      match rest with
      | '\\' :: 'u' :: l₃ :: l₂ :: l₁ :: l₀ :: after => do
          let low ← Json.codeUnit? l₃ l₂ l₁ l₀
          if 0xD800 ≤ unit ∧ unit ≤ 0xDBFF ∧ 0xDC00 ≤ low ∧ low ≤ 0xDFFF then
            let (s, rest) ← scanString after
            some (Fin.ofNat 0x110000
              (0x10000 + (unit - 0xD800) * 0x400 + (low - 0xDC00)) :: s, rest)
          else
            let (s, rest) ← scanString
              ('\\' :: 'u' :: l₃ :: l₂ :: l₁ :: l₀ :: after)
            some (Fin.ofNat 0x110000 unit :: s, rest)
      | rest => do
          let (s, rest) ← scanString rest
          some (Fin.ofNat 0x110000 unit :: s, rest)
  | '\\' :: c :: rest => do
      let scalar ← Json.shortEscape? c
      let (s, rest) ← scanString rest
      some (codePoint scalar :: s, rest)
  | c :: rest =>
      if c = '\\' ∨ c.toNat < 0x20 then Option.none
      else do
        let (s, rest) ← scanString rest
        some (codePoint c :: s, rest)

/-- The digits after a decimal point, and what follows; without a digit
the point does not belong to the number. -/
def scanFraction : Text → Text × Text
  | '.' :: rest =>
      let (digits, after) := Json.spanDigits rest
      if digits = [] then ([], '.' :: rest) else (digits, after)
  | rest => ([], rest)

/-- An exponent; without a digit its letter does not belong to the
number. -/
def scanExponent (cs : Text) : Option Int × Text :=
  match cs with
  | c :: rest =>
      if c = 'e' ∨ c = 'E' then
        let (negative, signed) := match rest with
          | '-' :: rest => (true, rest)
          | '+' :: rest => (false, rest)
          | rest => (false, rest)
        let (digits, after) := Json.spanDigits signed
        if digits = [] then (Option.none, cs)
        else
          let e : Int := Nat.ofDigitChars 10 digits 0
          (some (if negative then -e else e), after)
      else (Option.none, cs)
  | [] => (Option.none, [])

/-- A number without its sign. -/
def scanMagnitude (negative : Bool) (cs : Text) :
    Except (LoadError ε) (PyJson × Text) :=
  let (whole, rest) := match cs with
    | '0' :: rest => (['0'], rest)
    | cs => Json.spanDigits cs
  if whole = [] then .error .decode
  else
    let (fraction, rest) := scanFraction rest
    let (exponent, rest) := scanExponent rest
    let m : Int := Nat.ofDigitChars 10 (whole ++ fraction) 0
    let signed := if negative then -m else m
    if fraction = [] ∧ exponent = Option.none then
      if 4300 < whole.length then .error .intDigits
      else .ok (.int signed, rest)
    else .ok (.float ⟨signed, exponent.getD 0 - fraction.length⟩, rest)

mutual

/-- One value, without blanks before it. The fuel bounds the recursion and
the length of the text is always enough; `depth` is the nesting there is
stack for. -/
def scanOnce (hooks : Hooks ε) :
    Nat → Nat → Text → Except (LoadError ε) (PyJson × Text)
  | 0, _, _ => .error .decode
  | n + 1, depth, cs =>
      match cs with
      | '"' :: rest =>
          match scanString rest with
          | some (s, rest) => .ok (.str s, rest)
          | Option.none => .error .decode
      | '{' :: rest =>
          match depth with
          | 0 => .error .recursion
          | depth + 1 =>
              match Json.skipBlanks rest with
              | '}' :: rest => hooked (hooks.pairs []) rest
              | rest =>
                  match scanMembers hooks n depth rest with
                  | .ok (members, rest) => hooked (hooks.pairs members) rest
                  | .error e => .error e
      | '[' :: rest =>
          match depth with
          | 0 => .error .recursion
          | depth + 1 =>
              match Json.skipBlanks rest with
              | ']' :: rest => .ok (.list [], rest)
              | rest =>
                  match scanItems hooks n depth rest with
                  | .ok (items, rest) => .ok (.list items, rest)
                  | .error e => .error e
      | 'n' :: 'u' :: 'l' :: 'l' :: rest => .ok (.none, rest)
      | 't' :: 'r' :: 'u' :: 'e' :: rest => .ok (.bool true, rest)
      | 'f' :: 'a' :: 'l' :: 's' :: 'e' :: rest => .ok (.bool false, rest)
      | 'N' :: 'a' :: 'N' :: rest =>
          hooked (hooks.constant ['N', 'a', 'N']) rest
      | 'I' :: 'n' :: 'f' :: 'i' :: 'n' :: 'i' :: 't' :: 'y' :: rest =>
          hooked (hooks.constant
            ['I', 'n', 'f', 'i', 'n', 'i', 't', 'y']) rest
      | '-' :: 'I' :: 'n' :: 'f' :: 'i' :: 'n' :: 'i' :: 't' :: 'y' :: rest =>
          hooked (hooks.constant
            ['-', 'I', 'n', 'f', 'i', 'n', 'i', 't', 'y']) rest
      | '-' :: rest => scanMagnitude true rest
      | cs => scanMagnitude false cs

/-- The items of an array and its closing bracket. -/
def scanItems (hooks : Hooks ε) :
    Nat → Nat → Text → Except (LoadError ε) (List PyJson × Text)
  | 0, _, _ => .error .decode
  | n + 1, depth, cs =>
      match scanOnce hooks n depth cs with
      | .error e => .error e
      | .ok (item, rest) =>
          match Json.skipBlanks rest with
          | ']' :: rest => .ok ([item], rest)
          | ',' :: rest =>
              match scanItems hooks n depth (Json.skipBlanks rest) with
              | .ok (items, rest) => .ok (item :: items, rest)
              | .error e => .error e
          | _ => .error .decode

/-- The members of an object and its closing brace. -/
def scanMembers (hooks : Hooks ε) :
    Nat → Nat → Text → Except (LoadError ε) (List (PyStr × PyJson) × Text)
  | 0, _, _ => .error .decode
  | n + 1, depth, cs =>
      match cs with
      | '"' :: rest =>
          match scanString rest with
          | Option.none => .error .decode
          | some (key, rest) =>
              match Json.skipBlanks rest with
              | ':' :: rest =>
                  match scanOnce hooks n depth (Json.skipBlanks rest) with
                  | .error e => .error e
                  | .ok (value, rest) =>
                      match Json.skipBlanks rest with
                      | '}' :: rest => .ok ([(key, value)], rest)
                      | ',' :: rest =>
                          match scanMembers hooks n depth
                            (Json.skipBlanks rest) with
                          | .ok (members, rest) =>
                              .ok ((key, value) :: members, rest)
                          | .error e => .error e
                      | _ => .error .decode
              | _ => .error .decode
      | _ => .error .decode

end

/-- `json.loads` of a text. A byte order mark is refused. -/
def loads (hooks : Hooks ε) (depth : Nat) (text : Text) :
    Except (LoadError ε) PyJson :=
  if text.head? = some (Char.ofNat 0xFEFF) then .error .decode
  else
    match scanOnce hooks (text.length + 1) depth (Json.skipBlanks text) with
    | .error e => .error e
    | .ok (value, rest) =>
        if Json.skipBlanks rest = [] then .ok value else .error .decode

-- ====================================================== errors of hooks

theorem hooked_hook {answer : Except ε PyJson} {rest : Text} {e : ε}
    (h : hooked answer rest = .error (.hook e)) : answer = .error e := by
  unfold hooked at h
  split at h
  · cases h
  · cases h
    rfl

theorem scanMagnitude_hook {negative : Bool} {cs : Text} {e : ε} :
    scanMagnitude negative cs ≠ .error (.hook e) := by
  intro h
  unfold scanMagnitude at h
  dsimp only at h
  split_ifs at h
  all_goals cases h

/-- What raises a hook's error, when everything nested does. -/
structure HookErrors (P : ε → Prop) (hooks : Hooks ε) (n : Nat) : Prop where
  once : ∀ {depth cs e}, scanOnce hooks n depth cs = .error (.hook e) → P e
  items : ∀ {depth cs e}, scanItems hooks n depth cs = .error (.hook e) → P e
  members : ∀ {depth cs e},
    scanMembers hooks n depth cs = .error (.hook e) → P e

theorem scanOnce_hook {P : ε → Prop} {hooks : Hooks ε} {n : Nat}
    (hpairs : ∀ {members e}, hooks.pairs members = .error e → P e)
    (hconstant : ∀ {text e}, hooks.constant text = .error e → P e)
    (ih : HookErrors P hooks n) {depth : Nat} {cs : Text} {e : ε}
    (h : scanOnce hooks (n + 1) depth cs = .error (.hook e)) : P e := by
  rw [scanOnce.eq_def] at h
  dsimp only at h
  split at h
  · split at h <;> cases h
  · split at h
    · cases h
    · split at h
      · exact hpairs (hooked_hook h)
      · split at h
        · exact hpairs (hooked_hook h)
        · cases h
          exact ih.members ‹_›
  · split at h
    · cases h
    · split at h
      · cases h
      · split at h
        · cases h
        · cases h
          exact ih.items ‹_›
  · cases h
  · cases h
  · cases h
  · exact hconstant (hooked_hook h)
  · exact hconstant (hooked_hook h)
  · exact hconstant (hooked_hook h)
  · exact absurd h scanMagnitude_hook
  · exact absurd h scanMagnitude_hook

theorem scanItems_hook {P : ε → Prop} {hooks : Hooks ε} {n : Nat}
    (ih : HookErrors P hooks n) {depth : Nat} {cs : Text} {e : ε}
    (h : scanItems hooks (n + 1) depth cs = .error (.hook e)) : P e := by
  rw [scanItems.eq_def] at h
  dsimp only at h
  split at h
  · cases h
    exact ih.once ‹_›
  · split at h
    · cases h
    · split at h
      · cases h
      · cases h
        exact ih.items ‹_›
    · cases h

theorem scanMembers_hook {P : ε → Prop} {hooks : Hooks ε} {n : Nat}
    (ih : HookErrors P hooks n) {depth : Nat} {cs : Text} {e : ε}
    (h : scanMembers hooks (n + 1) depth cs = .error (.hook e)) : P e := by
  rw [scanMembers.eq_def] at h
  dsimp only at h
  split at h
  · split at h
    · cases h
    · split at h
      · split at h
        · cases h
          exact ih.once ‹_›
        · split at h
          · cases h
          · split at h
            · cases h
            · cases h
              exact ih.members ‹_›
          · cases h
      · cases h
  · cases h

/-- Whatever the decoder raises for a hook, a hook has raised. -/
theorem loads_hook {P : ε → Prop} {hooks : Hooks ε}
    (hpairs : ∀ {members e}, hooks.pairs members = .error e → P e)
    (hconstant : ∀ {text e}, hooks.constant text = .error e → P e)
    {depth : Nat} {text : Text} {e : ε}
    (h : loads hooks depth text = .error (.hook e)) : P e := by
  have hall : ∀ n, HookErrors P hooks n := by
    intro n
    induction n with
    | zero =>
        constructor
        · intro depth cs e h
          rw [scanOnce.eq_def] at h
          cases h
        · intro depth cs e h
          rw [scanItems.eq_def] at h
          cases h
        · intro depth cs e h
          rw [scanMembers.eq_def] at h
          cases h
    | succ n ih =>
        exact ⟨scanOnce_hook hpairs hconstant ih, scanItems_hook ih,
          scanMembers_hook ih⟩
  unfold loads at h
  split at h
  · cases h
  · split at h
    · cases h
      exact (hall _).once ‹_›
    · split at h <;> cases h

end PyJson

end Exolon
