/-
Command lines and their words, as `shlex` has them.

`join` quotes each word and puts blanks between them; `split` reads words in
the POSIX way, one character at a time. A quoted word is read back as it was
(`scan_quote`), and so is a joined line (`split_join`).

`split` answers `none` where `shlex.split` raises: a quotation is not
closed, or nothing is escaped.
-/
import Exolon.Lib.PyJson

namespace Exolon.Guard

-- ============================================================== characters

/-- `str.isspace`, and `\s` of a regular expression. -/
def isSpace (p : CodePoint) : Bool :=
  (9 ≤ p.val && p.val ≤ 13) || (28 ≤ p.val && p.val ≤ 32) || p.val == 0x85
    || p.val == 0xA0 || p.val == 0x1680
    || (0x2000 ≤ p.val && p.val ≤ 0x200A) || p.val == 0x2028
    || p.val == 0x2029 || p.val == 0x202F || p.val == 0x205F
    || p.val == 0x3000

/-- `str.strip` -/
def strip (s : PyStr) : PyStr :=
  ((s.dropWhile isSpace).reverse.dropWhile isSpace).reverse

/-- `str.split`, at blanks: `word` has the characters of the word that is
read, backwards. -/
def splitBlanks (word : PyStr) : PyStr → List PyStr
  | [] => if word = [] then [] else [word.reverse]
  | c :: cs =>
      if isSpace c then
        if word = [] then splitBlanks [] cs
        else word.reverse :: splitBlanks [] cs
      else splitBlanks (c :: word) cs

/-- `c in "..."` -/
def isOneOf (s : String) (c : CodePoint) : Bool := (py s).contains c

-- ================================================================= quoting

/-- A letter, a digit or one of a few marks: these need no quotes. -/
def isSafe (c : CodePoint) : Bool :=
  (48 ≤ c.val && c.val ≤ 57) || (65 ≤ c.val && c.val ≤ 90)
    || (97 ≤ c.val && c.val ≤ 122) || isOneOf "_@%+=:,.-/" c

def apostrophe : CodePoint := codePoint '\''

/-- A character within single quotes. -/
def quoteChar (c : CodePoint) : PyStr :=
  if c = apostrophe then py "'\"'\"'" else [c]

/-- `shlex.quote` -/
def quote (w : PyStr) : PyStr :=
  if w = [] then py "''"
  else if w.all isSafe then w
  else apostrophe :: w.flatMap quoteChar ++ [apostrophe]

/-- `shlex.join` -/
def join (words : List PyStr) : PyStr :=
  List.intercalate (py " ") (words.map quote)

-- ================================================================= reading

/-- Where `shlex` is: between words, or with a part of a word in hand. -/
inductive Lexer where
  | blank
  | word (token : PyStr)
  | quoted (q : CodePoint) (token : PyStr)
  | escaped (q : Option CodePoint) (token : PyStr)

/-- `shlex.split`, from somewhere on. -/
def scan : Lexer → PyStr → Option (List PyStr)
  | .blank, [] => some []
  | .blank, c :: cs =>
      if isOneOf " \t\r\n" c then scan .blank cs
      else if c = codePoint '\\' then scan (.escaped none []) cs
      else if isOneOf "'\"" c then scan (.quoted c []) cs
      else scan (.word [c]) cs
  | .word token, [] => some [token]
  | .word token, c :: cs =>
      if isOneOf " \t\r\n" c then (scan .blank cs).map (token :: ·)
      else if isOneOf "'\"" c then scan (.quoted c token) cs
      else if c = codePoint '\\' then scan (.escaped none token) cs
      else scan (.word (token ++ [c])) cs
  | .quoted _ _, [] => none
  | .quoted q token, c :: cs =>
      if c = q then scan (.word token) cs
      else if c = codePoint '\\' ∧ q = codePoint '"' then
        scan (.escaped (some q) token) cs
      else scan (.quoted q (token ++ [c])) cs
  | .escaped _ _, [] => none
  | .escaped none token, c :: cs => scan (.word (token ++ [c])) cs
  | .escaped (some q) token, c :: cs =>
      -- within quotes only the quote and the backslash are escaped
      if c = codePoint '\\' ∨ c = q then scan (.quoted q (token ++ [c])) cs
      else scan (.quoted q (token ++ [codePoint '\\', c])) cs

/-- `shlex.split` -/
def split (s : PyStr) : Option (List PyStr) := scan .blank s

-- ================================================================== lemmas

theorem not_special_of_safe {c : CodePoint} (h : isSafe c = true) :
    isOneOf " \t\r\n" c = false ∧ isOneOf "'\"" c = false
      ∧ c ≠ codePoint '\\' := by
  have hunsafe : (py " \t\r\n'\"\\").all (fun d => !isSafe d) = true := by
    decide +kernel
  rw [List.all_eq_true] at hunsafe
  have hno : c ∉ py " \t\r\n'\"\\" := by
    intro hmem
    have hfalse := hunsafe c hmem
    rw [h] at hfalse
    cases hfalse
  refine ⟨?_, ?_, ?_⟩
  · rw [← Bool.not_eq_true]
    intro hblank
    unfold isOneOf at hblank
    rw [List.contains_iff_mem] at hblank
    exact hno (List.mem_append_left (py "'\"\\") hblank)
  · rw [← Bool.not_eq_true]
    intro hquote
    unfold isOneOf at hquote
    rw [List.contains_iff_mem] at hquote
    exact hno (List.mem_append_right (py " \t\r\n")
      (List.mem_append_left (py "\\") hquote))
  · rintro rfl
    exact hno (List.mem_append_right (py " \t\r\n'\"")
      List.mem_cons_self)

theorem scan_safe {token w rest : PyStr} (h : w.all isSafe = true) :
    scan (.word token) (w ++ rest) = scan (.word (token ++ w)) rest := by
  induction w generalizing token with
  | nil => rw [List.nil_append, List.append_nil]
  | cons c w ih =>
      rw [List.all_cons, Bool.and_eq_true] at h
      obtain ⟨hblank, hquote, hslash⟩ := not_special_of_safe h.1
      rw [List.cons_append, scan, if_neg (by rw [hblank]; decide),
        if_neg (by rw [hquote]; decide), if_neg hslash, ih h.2,
        List.append_assoc]
      rfl

/-- Within single quotes a word is read as it was. -/
theorem scan_quoteChars {token w rest : PyStr} :
    scan (.quoted apostrophe token) (w.flatMap quoteChar ++ rest)
      = scan (.quoted apostrophe (token ++ w)) rest := by
  induction w generalizing token with
  | nil => rw [List.flatMap_nil, List.nil_append, List.append_nil]
  | cons c w ih =>
      rw [List.flatMap_cons, List.append_assoc]
      unfold quoteChar
      by_cases hquote : c = apostrophe
      · -- out of the quotes, a quoted quote, and in again
        rw [if_pos hquote]
        show scan (.quoted apostrophe (token ++ [apostrophe]))
          (w.flatMap quoteChar ++ rest) = _
        rw [ih, hquote, List.append_assoc]
        rfl
      · rw [if_neg hquote]
        show scan (.quoted apostrophe token)
          (c :: (w.flatMap quoteChar ++ rest)) = _
        rw [scan, if_neg hquote, if_neg (fun h => absurd h.2 (by decide)),
          ih, List.append_assoc]
        rfl

/-- A quoted word is read as it was. -/
theorem scan_quote {w rest : PyStr} :
    scan .blank (quote w ++ rest) = scan (.word w) rest := by
  unfold quote
  split
  · next hnil =>
      subst hnil
      rfl
  split
  · next hne hsafe =>
      obtain ⟨c, w, rfl⟩ := List.exists_cons_of_ne_nil hne
      have hall := hsafe
      rw [List.all_cons, Bool.and_eq_true] at hsafe
      obtain ⟨hblank, hquote, hslash⟩ := not_special_of_safe hsafe.1
      rw [List.cons_append, scan, if_neg (by rw [hblank]; decide),
        if_neg hslash, if_neg (by rw [hquote]; decide), scan_safe hsafe.2]
      rfl
  · show scan (.quoted apostrophe [])
      ((w.flatMap quoteChar ++ [apostrophe]) ++ rest) = _
    rw [List.append_assoc, scan_quoteChars]
    rfl

theorem join_cons (w : PyStr) (words : List PyStr) :
    join (w :: words)
      = quote w ++ words.flatMap fun v => codePoint ' ' :: quote v := by
  induction words generalizing w with
  | nil => simp [join, List.intercalate]
  | cons v words ih =>
      have hcons : join (w :: v :: words)
          = quote w ++ (codePoint ' ' :: join (v :: words)) := by
        simp [join, List.intercalate, py]
      rw [hcons, ih, List.flatMap_cons, List.cons_append]

/-- A joined line is read as its words. -/
theorem split_join (words : List PyStr) : split (join words) = some words := by
  cases words with
  | nil => rfl
  | cons w words =>
      unfold split
      rw [join_cons, scan_quote]
      induction words generalizing w with
      | nil => rfl
      | cons v words ih =>
          rw [List.flatMap_cons, List.cons_append, scan,
            if_pos (by decide), scan_quote, ih]
          rfl

end Exolon.Guard
