/-
The patterns of the shell guard.

File patterns are those of `fnmatch`: `parse` takes one apart, `fnmatchcase`
matches it. The regular expressions of `_policy_legacy` stand here as they
are written there, piece by piece. Where one is asked whether it is found,
only `search` is used; where its group is read, the order of the attempts
matters, and `Regex` keeps it.

# What is left open

`Unicode` has the classes of characters that the expressions ask for: what
`\w` and `\d` take, and what two characters are the same under
`IGNORECASE`. For a letter of an expression of the source the other writings
are known and stand in `isLetter`.
-/
import Exolon.Guard.Words
import Exolon.Lib.Regex

namespace Exolon.Guard

/-- Classes of characters. -/
structure Unicode where
  isAlnum : CodePoint → Bool
  isDecimal : CodePoint → Bool
  sameFold : CodePoint → CodePoint → Bool

-- ============================================================ file patterns

/-- A part of a file pattern. -/
inductive Part where
  | star
  | any
  | char (c : CodePoint)
  | set (negated : Bool) (ranges : List (CodePoint × CodePoint))

/-- The ranges between brackets; a hyphen at an end is one itself, and a
range that runs backwards is empty. -/
def ranges : PyStr → List (CodePoint × CodePoint)
  | [] => []
  | [a] => [(a, a)]
  | a :: b :: rest =>
      if b = codePoint '-' then
        match rest with
        | [] => [(a, a), (b, b)]
        | c :: rest => (if a ≤ c then [(a, c)] else []) ++ ranges rest
      else (a, a) :: ranges (b :: rest)

/-- A set after its opening bracket, and what follows it. -/
def parseSet (cs : PyStr) : Option (Part × PyStr) :=
  let negated := cs.head? == some (codePoint '!')
  let body := if negated then cs.drop 1 else cs
  -- a bracket that closes at once stands for itself
  let first := if body.head? == some (codePoint ']') then body.take 1 else []
  let tail := body.drop first.length
  let inner := tail.takeWhile fun c => c != codePoint ']'
  match tail.dropWhile fun c => c != codePoint ']' with
  | [] => none
  | _ :: rest => some (.set negated (ranges (first ++ inner)), rest)

/-- The parts of a file pattern; the fuel is its length. -/
def parse : Nat → PyStr → List Part
  | 0, _ => []
  | _ + 1, [] => []
  | n + 1, c :: cs =>
      if c = codePoint '*' then .star :: parse n cs
      else if c = codePoint '?' then .any :: parse n cs
      else if c = codePoint '[' then
        match parseSet cs with
        | some (part, rest) => part :: parse n rest
        | none => .char c :: parse n cs
      else .char c :: parse n cs

def fits : List Part → PyStr → Bool
  | [], s => s.isEmpty
  | .star :: parts, s => s.tails.any (fits parts)
  | .any :: parts, _ :: s => fits parts s
  | .char c :: parts, d :: s => c == d && fits parts s
  | .set negated ranges :: parts, d :: s =>
      (ranges.any fun range => range.1 ≤ d && d ≤ range.2) != negated
        && fits parts s
  | _ :: _, [] => false

/-- `fnmatch.fnmatchcase` -/
def fnmatchcase (name pattern : PyStr) : Bool :=
  fits (parse pattern.length pattern) name

-- ===================================================== parts of expressions

open Regex

abbrev Pattern := Regex CodePoint

/-- The characters of a text, as they are. -/
def literal (s : String) : Pattern :=
  all ((py s).map fun c => one fun d => d == c)

/-- A letter under `IGNORECASE`: beside its two cases some letters have
others that fold to them. -/
def isLetter (letter : Char) (c : CodePoint) : Bool :=
  c == codePoint letter.toLower || c == codePoint letter.toUpper
    || letter.toLower == 's' && c.val == 0x17F
    || letter.toLower == 'k' && c.val == 0x212A
    || letter.toLower == 'i' && (c.val == 0x130 || c.val == 0x131)

/-- A word under `IGNORECASE`. -/
def word (s : String) : Pattern := all (s.toList.map fun c => one (isLetter c))

/-- One of some words. -/
def anyWord (ws : List String) : Pattern := Regex.any (ws.map word)

/-- `\s` -/
def space : Pattern := one isSpace

/-- `\S` -/
def nonspace : Pattern := one fun c => !isSpace c

/-- `[...]`, of some characters. -/
def oneOf (s : String) : Pattern := one (isOneOf s)

/-- `[^...]`, of some characters. -/
def noneOf (s : String) : Pattern := one fun c => !isOneOf s c

/-- `[^...]`, of some characters and the blanks. -/
def noSpaceNor (s : String) : Pattern := one fun c => !isSpace c && !isOneOf s c

/-- `^` -/
def atStart : Pattern := assert fun before _ => before.isNone

/-- `$`: also before a line end that is the last character. -/
def atEnd : Pattern := assert fun _ rest => rest.isEmpty || rest == py "\n"

variable (u : Unicode)

/-- `\w` -/
def isWordChar (c : CodePoint) : Bool := u.isAlnum c || c == codePoint '_'

/-- `\b` -/
def boundary : Pattern := assert fun before rest =>
  before.any (isWordChar u) != rest.head?.any (isWordChar u)

-- ============================================================== expressions

/-- `_COMMAND_SPLIT` -/
def commandSplit : Pattern :=
  Regex.any [literal "&&", literal "||", oneOf ";|\n"]

/-- `_UNWRAP_SHELL` -/
def unwrapShell : Pattern := all [
  atStart, star space,
  opt (all [anyWord ["sudo", "doas"], plus space]),
  opt (all [literal "/", opt (all [word "usr", literal "/"]), word "bin",
    literal "/"]),
  anyWord ["bash", "sh", "zsh", "dash", "ksh"],
  plus space, literal "-", star nonspace, word "c", star nonspace, plus space,
  group (seq (one fun _ => true) (lazyStar (one fun _ => true))),
  star space, atEnd]

/-- `_SHELL_REDIRECTION` -/
def shellRedirection : Pattern := all [
  Regex.any [atStart, one fun c => isSpace c || isOneOf ";&|" c],
  Regex.any [
    all [star (one u.isDecimal), literal ">", opt (literal ">")],
    all [literal "&", literal ">", opt (literal ">")]],
  star space,
  group (Regex.any [
    all [literal "\"", plus (noneOf "\""), literal "\""],
    all [literal "'", plus (noneOf "'"), literal "'"],
    plus (noSpaceNor ";&|")])]

/-- `[^\n]*` -/
def restOfLine : Pattern := star (noneOf "\n")

/-- A command, and something after it on its line. -/
def onLine (command rest : Pattern) : Pattern :=
  all [boundary u, command, boundary u, restOfLine, rest]

/-- `_SHELL_MUTATION_SIGNAL` -/
def shellMutationSignal : Pattern := Regex.any [
  all [
    Regex.any [atStart, seq (oneOf ";&|") (star space), space],
    anyWord ["rm", "mv", "cp", "install", "touch", "truncate", "mkdir", "rmdir",
      "ln", "chmod", "chown", "chgrp", "tee", "patch", "rsync"],
    boundary u],
  onLine u (word "sed") (all [space, literal "-", word "i",
    alt (boundary u) (one fun c =>
      ("abcdefghijklmnopqrstuvwxyz".toList.any fun l => isLetter l c))]),
  onLine u (word "perl") (all [space, literal "-", star (noSpaceNor ""),
    word "i", star (noSpaceNor ""), boundary u]),
  onLine u (Regex.any [
      seq (word "python") (opt (seq (literal "3")
        (opt (seq (literal ".") (plus (one u.isDecimal)))))),
      anyWord ["node", "ruby", "php"]])
    (all [space, literal "-", anyWord ["c", "e", "r"], boundary u]),
  onLine u (word "git") (all [space,
    anyWord ["apply", "checkout", "restore", "rm", "mv", "clean"],
    boundary u]),
  onLine u (word "ruff") (all [literal "--", word "fix", boundary u]),
  onLine u (word "curl") (all [space,
    alt (seq (literal "-") (word "o")) (seq (literal "--") (word "output")),
    alt space (literal "=")]),
  onLine u (word "wget") (all [space,
    alt (seq (literal "-") (word "o"))
      (all [literal "--", word "output", literal "-", word "document"]),
    alt space (literal "=")]),
  onLine u (word "dd") (all [boundary u, word "of", literal "="]),
  onLine u (anyWord ["tar", "unzip"]) (alt
    (all [space, literal "-", alt (word "x")
      (all [star (noSpaceNor ""), word "x", star (noSpaceNor "")])])
    (all [boundary u, word "extract", boundary u]))]

/-- `[A-Za-z_]` -/
def isNameStart (c : CodePoint) : Bool :=
  (65 ≤ c.val && c.val ≤ 90) || (97 ≤ c.val && c.val ≤ 122)
    || c == codePoint '_'

/-- `[A-Za-z0-9_]` -/
def isNameChar (c : CodePoint) : Bool :=
  isNameStart c || (48 ≤ c.val && c.val ≤ 57)

/-- The expansions of `_dynamic_target_mentions_control_plane`, and what
follows one. -/
def expansion : Pattern := all [
  Regex.any [
    all [literal "$", one isNameStart, star (one isNameChar)],
    all [literal "$", literal "\x7b", plus (noneOf "\x7d"), literal "\x7d"],
    all [literal "$(", star (noneOf ")"), literal ")"],
    all [literal "\x60", star (noneOf "\x60"), literal "\x60"]],
  literal "/",
  group (plus nonspace)]

/-- `re.escape(s)`, under `IGNORECASE`. -/
def escaped (s : PyStr) : Pattern := all (s.map fun c => one (u.sameFold c))

/-- What follows a path in a command. -/
def pathEnd : Pattern := assert fun _ rest =>
  rest.isEmpty || rest == py "\n"
    || rest.head?.any fun c => isSpace c || isOneOf "'\"),;:&|" c

/-- `relative` of `_opaque_control_plane_reference` -/
def relativeReference (start : PyStr) (exact : Bool) : Pattern := all [
  Regex.any [atStart, one fun c => isSpace c || isOneOf "'\"=(:,>" c],
  opt (literal "./"),
  escaped u start,
  if exact then pathEnd else nothing]

/-- `absolute` of `_opaque_control_plane_reference` -/
def absoluteReference (path : PyStr) (exact : Bool) : Pattern :=
  seq (escaped u path) (if exact then pathEnd else nothing)

end Exolon.Guard
