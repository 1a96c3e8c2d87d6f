/-
Text as a list of Unicode scalars, and decimal printing on it.

A program that assembles its output by hand appends literals and printed
numbers. Both sides of a round trip need the same three facts about a
printed number: it is not empty, it holds digits only (after a sign), and
it does not start with a superfluous zero. They are stated here once;
`natText_value` is the inverse.
-/
import Mathlib

namespace Exolon

/-- A text, scalar by scalar. -/
abbrev Text := List Char

/-- What holds of each scalar of a text is decided along the text, never
over all the scalars there are. -/
instance (priority := 2000) Text.decidableForall {p : Char → Prop}
    [DecidablePred p] (text : List Char) : Decidable (∀ c ∈ text, p c) :=
  List.decidableBAll p text

/-- What a sort of texts and a search among them rest on. -/
instance : LawfulBEq Text := inferInstanceAs (LawfulBEq (List Char))

instance : IsTrans Text fun a b => a ≤ b := inferInstance

instance : Std.Antisymm (α := Text) fun a b => a ≤ b := inferInstance

instance : Std.Total (α := Text) fun a b => a ≤ b := inferInstance

-- ============================================================ printing

/-- A number in decimal. -/
def natText (n : Nat) : Text := Nat.toDigits 10 n

/-- An integer in decimal, with a sign when it is negative. -/
def intText : Int → Text
  | .ofNat n => natText n
  | .negSucc n => '-' :: natText (n + 1)

/-- A number in decimal, filled up with zeros to `width` digits. -/
def paddedText (width n : Nat) : Text := (natText n).leftpad width '0'

/-- A number in lower-case hexadecimal, filled up with zeros. -/
def paddedHexText (width n : Nat) : Text :=
  (Nat.toDigits 16 n).leftpad width '0'

-- ================================================= printed numbers

theorem natText_ne_nil (n : Nat) : natText n ≠ [] := Nat.toDigits_ne_nil

theorem natText_isDigit {n : Nat} {c : Char} (h : c ∈ natText n) :
    c.isDigit = true :=
  Nat.isDigit_of_mem_toDigits (by decide) (by decide) h

theorem natText_value (n : Nat) : Nat.ofDigitChars 10 (natText n) 0 = n :=
  Nat.ofDigitChars_ten_toDigits

/-- A printed number is one digit, or starts with a nonzero one. -/
theorem natText_head (n : Nat) :
    (natText n).head? ≠ some '0' ∨ natText n = ['0'] := by
  unfold natText
  induction n using Nat.strongRecOn with
  | ind n ih =>
      by_cases hlt : n < 10
      · rw [Nat.toDigits_of_lt_base hlt]
        cases n with
        | zero => exact .inr rfl
        | succ m => left; simp
      · left
        rw [Nat.toDigits_of_base_le (by decide) (by omega)]
        have hq : 0 < n / 10 := by omega
        rcases ih (n / 10) (by omega) with h | h
        · cases hd : Nat.toDigits 10 (n / 10) with
          | nil => exact absurd hd Nat.toDigits_ne_nil
          | cons c cs => simpa [hd] using h
        · have hval := natText_value (n / 10)
          unfold natText at hval
          rw [h] at hval
          have hzero : Nat.ofDigitChars 10 ['0'] 0 = 0 := by decide
          omega

/-- The scalars a printed integer can hold. -/
theorem intText_char {z : Int} {c : Char} (h : c ∈ intText z) :
    c = '-' ∨ c.isDigit = true := by
  cases z with
  | ofNat n => exact .inr (natText_isDigit h)
  | negSucc n =>
      rcases List.mem_cons.mp h with rfl | h
      · exact .inl rfl
      · exact .inr (natText_isDigit h)

theorem paddedText_isDigit {width n : Nat} {c : Char}
    (h : c ∈ paddedText width n) : c.isDigit = true := by
  unfold paddedText List.leftpad at h
  rcases List.mem_append.mp h with h | h
  · rw [List.eq_of_mem_replicate h]
    rfl
  · exact natText_isDigit h

end Exolon
