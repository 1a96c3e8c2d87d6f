/-
The targets of a shell command, and whether they are of the control plane.

The guard cuts a command at its separators, reads the words of each piece,
and asks what the piece would write: the redirections, and the operands of a
command that is known. A target that resolves to a protected path is
reported; one that is not known is looked for in the text.

# What is left open

`Place` is the repository in its file system: how a path resolves, and what
is a directory. Resolving may raise; `safe_relative_path` catches that, and
`_directory_target` catches an `OSError` only.
-/
import Exolon.Guard.Patterns

namespace Exolon.Guard

open Regex (matchAt search findAll)

/-- What resolving a path raises. -/
inductive PathError where
  | valueError
  | osError
  deriving DecidableEq

/-- A root, and the file system around it. -/
structure Place where
  root : PyStr
  resolve : PyStr → Except PathError (List PyStr)
  isDir : List PyStr → Bool

-- =================================================================== texts

/-- `value.replace('\\', '/')` -/
def slashes (s : PyStr) : PyStr :=
  s.map fun c => if c = codePoint '\\' then codePoint '/' else c

/-- `value.rstrip('/')` -/
def rstripSlashes (s : PyStr) : PyStr :=
  (s.reverse.dropWhile fun c => c == codePoint '/').reverse

/-- `value.strip('"\'')` -/
def stripQuotes (s : PyStr) : PyStr :=
  ((s.dropWhile (isOneOf "'\"")).reverse.dropWhile (isOneOf "'\"")).reverse

/-- `value.rsplit('/', 1)[-1]` -/
def lastSegment (s : PyStr) : PyStr :=
  (s.reverse.takeWhile fun c => c != codePoint '/').reverse

/-- `value.lower()`, as far as it is asked for names of ASCII: the Kelvin
sign is the one other character with such a small letter. -/
def lower (s : PyStr) : PyStr :=
  s.map fun c =>
    if h : 65 ≤ c.val ∧ c.val ≤ 90 then ⟨c.val + 32, by omega⟩
    else if c.val = 0x212A then codePoint 'k'
    else c

/-- A text stands at the start of another. -/
def startsWith (s : String) (t : PyStr) : Bool := (py s).isPrefixOf t

def endsWith (s : String) (t : PyStr) : Bool := (py s).isSuffixOf t

/-- `$(`, `${`, `$`, a backtick, `*`, `?` or `[`: the first two have the
third. -/
def hasMarker (s : PyStr) : Bool := s.any (isOneOf "$\x60*?[")

def withoutDots : PyStr → PyStr
  | c :: d :: rest =>
      if c = codePoint '.' ∧ d = codePoint '/' then withoutDots rest
      else c :: d :: rest
  | s => s

/-- `_normalize_repo_path` -/
def normalizeRepoPath (value : PyStr) : PyStr := withoutDots (slashes value)

/-- `_glob_match` -/
def globMatch (path pattern : PyStr) : Bool :=
  fnmatchcase (normalizeRepoPath path) (normalizeRepoPath pattern)

/-- `_matches_any` -/
def matchesAny (path : PyStr) (patterns : List PyStr) : Bool :=
  patterns.any (globMatch path)

/-- `_literal_pattern_prefix` -/
def literalPatternPrefix (pattern : PyStr) : PyStr :=
  (normalizeRepoPath pattern).takeWhile fun c => !isOneOf "*?[" c

-- ================================================================= options

def wrappers : List PyStr :=
  [py "sudo", py "doas", py "command", py "time", py "nohup", py "nice"]

/-- `^[A-Za-z_][A-Za-z0-9_]*=` -/
def isAssignment : PyStr → Bool
  | [] => false
  | c :: cs =>
      isNameStart c && (cs.dropWhile isNameChar).head? == some (codePoint '=')

/-- `_shell_argv` -/
def shellArgv (chunk : PyStr) : List PyStr :=
  let stripped := strip (chunk.takeWhile fun c => c != codePoint '#')
  let tokens := (split stripped).getD (splitBlanks [] stripped)
  (tokens.dropWhile isAssignment).dropWhile fun token =>
    wrappers.contains (lower token)

/-- What a token says of an option. -/
inductive OptionReading where
  | takesNext
  | holds (value : PyStr)
  | other

/-- A token, read as the option: the next token is its value, or it holds
the value itself. In a group of short options the last one may take the
next token. -/
def readOption (short long : PyStr) (grouped : String) (token : PyStr) :
    OptionReading :=
  let letters := token.drop 1
  let name := short.drop 1
  let others := letters.take (letters.length - name.length)
  if token = short ∨ token = long then .takesNext
  else if (long ++ py "=").isPrefixOf token then
    .holds (token.drop (long.length + 1))
  else if short.isPrefixOf token ∧ startsWith "--" token = false then
    .holds (token.drop short.length)
  else if startsWith "-" token ∧ startsWith "--" token = false
      ∧ name.isSuffixOf letters ∧ others ≠ [] ∧ others.all (isOneOf grouped)
  then .takesNext
  else .other

/-- `_option_values`, of the tokens after the command. -/
def optionValues (short long : PyStr) (grouped : String) :
    List PyStr → List PyStr
  | [] => []
  | [token] =>
      match readOption short long grouped token with
      | .holds value => [value]
      | _ => []
  | token :: next :: rest =>
      match readOption short long grouped token with
      | .takesNext => next :: optionValues short long grouped rest
      | .holds value => value :: optionValues short long grouped (next :: rest)
      | .other => optionValues short long grouped (next :: rest)

/-- `_has_option`, of the tokens after the command. -/
def hasOption (names tokens : List PyStr) : Bool :=
  tokens.any fun token => names.any fun name =>
    token == name
      || startsWith "--" name && (name ++ py "=").isPrefixOf token
      || startsWith "-" name && !startsWith "--" name
        && name.isPrefixOf token && token != py "-"

/-- `_operands`, of the tokens after the command; `after` says that `--` has
been there. -/
def operands (valueOptions : List PyStr) : Bool → List PyStr → List PyStr
  | _, [] => []
  | after, token :: rest =>
      if token = py "--" then operands valueOptions true rest
      else if after = false ∧ startsWith "-" token then
        if token ∈ valueOptions then
          match rest with
          | [] => []
          | _ :: rest => operands valueOptions after rest
        else operands valueOptions after rest
      else token :: operands valueOptions after rest

/-- `_command_name` -/
def commandName : List PyStr → PyStr
  | [] => []
  | token :: _ =>
      let command := lower (lastSegment (slashes token))
      if endsWith ".exe" command then command.take (command.length - 4)
      else command

-- =================================================================== paths

/-- A path, from the root if it is relative. -/
def Place.absolute (place : Place) (raw : PyStr) : PyStr :=
  if startsWith "/" raw then raw else place.root ++ codePoint '/' :: raw

/-- `as_posix` of a relative path. -/
def posix (parts : List PyStr) : PyStr :=
  if parts = [] then py "." else List.intercalate (py "/") parts

/-- `safe_relative_path` -/
def safeRelativePath (place : Place) (raw : PyStr) : Option PyStr :=
  match place.resolve (place.absolute raw), place.resolve place.root with
  | .ok parts, .ok base =>
      if base.isPrefixOf parts then some (posix (parts.drop base.length))
      else none
  | _, _ => none

/-- `_directory_target` -/
def directoryTarget (place : Place) (raw : PyStr) (explicit : Bool) :
    Except PathError Bool :=
  if explicit || endsWith "/" raw || endsWith "\\" raw then .ok true
  else if hasMarker raw then .ok false
  else
    match place.resolve (place.absolute raw) with
    | .ok parts => .ok (place.isDir parts)
    | .error .osError => .ok false
    | .error .valueError => .error .valueError

/-- `_joined_target` -/
def joinedTarget (directory source : PyStr) : Option PyStr :=
  let basename := lastSegment (rstripSlashes (slashes source))
  let directory := rstripSlashes (slashes directory)
  if basename = [] ∨ basename = py "." ∨ basename = py ".."
      ∨ hasMarker basename then none
  else if directory = [] ∨ directory = py "." then some basename
  else some (directory ++ codePoint '/' :: basename)

-- ================================================================= targets

/-- The destinations, and in a directory what the sources become there. -/
def joinTargets (place : Place) (explicit : Bool)
    (sources : List PyStr) : List PyStr → Except PathError (List PyStr)
  | [] => .ok []
  | destination :: rest => do
      let isDirectory ← directoryTarget place destination explicit
      let others ← joinTargets place explicit sources rest
      .ok ((if isDirectory then sources.filterMap (joinedTarget destination)
        else []) ++ others)

/-- `_copy_like_targets` -/
def copyLikeTargets (place : Place) (command : PyStr)
    (tokens : List PyStr) : Except PathError (List PyStr) := do
  let valueOptions := [py "-t", py "--target-directory", py "-S",
      py "--suffix"]
    ++ if command = py "install" then
      [py "-m", py "--mode", py "-o", py "--owner", py "-g", py "--group"]
    else []
  let configured := optionValues (py "-t") (py "--target-directory") "" tokens
  let ops := operands valueOptions false tokens
  if configured ≠ [] then
    let joined ← joinTargets place true ops configured
    .ok (configured ++ joined).eraseDups
  else
    match ops.getLast? with
    | some destination =>
        let joined ← joinTargets place false ops.dropLast [destination]
        .ok (destination :: joined).eraseDups
    | none => .ok []

/-- `_script_file_targets` -/
def scriptFileTargets (scriptOptions valueOptions tokens : List PyStr) :
    List PyStr :=
  let ops := operands valueOptions false tokens
  if hasOption scriptOptions tokens then ops else ops.drop 1

/-- Targets, or `None` if there are none. -/
def someTargets (targets : List PyStr) : Option (List PyStr) :=
  if targets = [] then none else some targets

/-- The options of the commands that take a value. -/
def valueOptionsOf (command : PyStr) : List PyStr :=
  if command = py "touch" then
    [py "-d", py "--date", py "-r", py "--reference", py "-t", py "--time"]
  else if command = py "mkdir" then
    [py "-m", py "--mode", py "-Z", py "--context"]
  else if command = py "truncate" then
    [py "-s", py "--size", py "-r", py "--reference"]
  else []

/-- `_argv_mutation_targets` -/
def argvMutationTargets (place : Place) (argv : List PyStr) :
    Except PathError (Option (List PyStr)) :=
  let command := commandName argv
  let tokens := argv.drop 1
  let isAny (names : List String) := names.any fun name => py name == command
  if command = [] then .ok none
  else if command = py "curl" then
    .ok (someTargets (optionValues (py "-o") (py "--output") "sSfLkIiVv" tokens))
  else if command = py "wget" then
    .ok (someTargets
      (optionValues (py "-O") (py "--output-document") "qNc" tokens))
  else if command = py "dd" then
    .ok (someTargets ((tokens.filter (startsWith "of=")).map (·.drop 3)))
  else if isAny ["tee", "touch", "mkdir", "rmdir", "rm", "truncate"] then
    .ok (some (operands (valueOptionsOf command) false tokens))
  else if isAny ["chmod", "chown", "chgrp"] then
    let ops := operands [py "--reference", py "--from"] false tokens
    if hasOption [py "--reference"] tokens then .ok (some ops)
    else .ok (some (ops.drop 1))
  else if isAny ["cp", "mv", "ln", "install"] then
    (copyLikeTargets place command tokens).map some
  else if command = py "rsync" then
    .ok (some ((operands [] false tokens).getLast?.toList))
  else if command = py "sed" && tokens.any (startsWith "-i") then
    let options := [py "-e", py "--expression", py "-f", py "--file"]
    .ok (some (scriptFileTargets options options tokens))
  else if command = py "perl" && tokens.any (fun token =>
      startsWith "-" token && (token.drop 1).contains (codePoint 'i')) then
    .ok (some (scriptFileTargets [py "-e", py "-E"]
      [py "-e", py "-E", py "-M", py "-m"] tokens))
  else if command = py "ruff" && tokens.contains (py "--fix") then
    let ops := operands [] false tokens
    if ops.head? = some (py "check") ∨ ops.head? = some (py "format") then
      .ok (some (ops.drop 1))
    else .ok (some ops)
  else .ok none

/-- `_command_chunks` -/
def commandChunks (command : PyStr) : List PyStr :=
  (commandSplit.split command).filter fun part => strip part != []

/-- `_unwrap_shell` -/
def unwrap (chunk : PyStr) : PyStr :=
  match (matchAt unwrapShell none chunk).bind (·.captured) with
  | none => chunk
  | some rest =>
      if 2 ≤ rest.length ∧ rest.head? = rest.getLast?
          ∧ rest.head?.any (isOneOf "'\"") then
        rest.tail.dropLast
      else rest

section

variable (u : Unicode) (place : Place)

/-- What a piece of a command writes to. -/
def redirections (piece : PyStr) : List PyStr :=
  (findAll (shellRedirection u) (piece.length + 1) none piece).filterMap
    fun c => c.captured.map stripQuotes

/-- The targets that are found, whether anything is changed, and whether
anything is changed that was not found. -/
structure Mutation where
  targets : List PyStr
  mutation : Bool
  unresolved : Bool

def mutationOfPieces : List PyStr → Except PathError Mutation
  | [] => .ok ⟨[], false, false⟩
  | piece :: pieces => do
      let redirected := redirections u piece
      let found ← argvMutationTargets place (shellArgv piece)
      let rest ← mutationOfPieces pieces
      match found with
      | some targets =>
          .ok ⟨redirected ++ targets ++ rest.targets, true, rest.unresolved⟩
      | none =>
          let signal := search (shellMutationSignal u) none piece
          .ok ⟨redirected ++ rest.targets,
            redirected != [] || signal || rest.mutation,
            signal || rest.unresolved⟩

/-- `_shell_mutation_targets` -/
def shellMutationTargets (command : PyStr) : Except PathError Mutation := do
  let pieces := (commandChunks command).flatMap fun chunk =>
    commandChunks (unwrap chunk)
  let m ← mutationOfPieces u place pieces
  .ok { m with targets := m.targets.eraseDups }

-- =========================================================== control plane

/-- `_control_plane_target` -/
def controlPlaneTarget (path : PyStr) (patterns : List PyStr) : Bool :=
  matchesAny path patterns
    || let normalized := rstripSlashes (normalizeRepoPath path)
      patterns.any fun pattern =>
        let candidate := normalizeRepoPath pattern
        endsWith "/**" candidate
          && normalized == rstripSlashes (candidate.take (candidate.length - 3))

/-- `_dynamic_target_mentions_control_plane` -/
def dynamicTargetMentionsControlPlane (raw : PyStr) (patterns : List PyStr) :
    Bool :=
  let normalized := slashes raw
  !(normalized.head?.any (isOneOf "/$\x60"))
      && controlPlaneTarget normalized patterns
    || (findAll expansion (normalized.length + 1) none normalized).any
      fun c => c.captured.any fun suffix =>
        controlPlaneTarget (stripQuotes suffix) patterns

/-- `_opaque_control_plane_reference` -/
def opaqueControlPlaneReference (command : PyStr) (patterns : List PyStr) :
    Except PathError Bool := do
  let normalized := slashes command
  let base ← place.resolve place.root
  let absoluteRoot :=
    rstripSlashes (codePoint '/' :: List.intercalate (py "/") base)
  .ok (patterns.any fun pattern =>
    let start := literalPatternPrefix pattern
    let exact := !(normalizeRepoPath pattern).any (isOneOf "*?[")
    start != []
      && (search (relativeReference u start exact) none normalized
        || search (absoluteReference u
            (absoluteRoot ++ codePoint '/' :: start) exact) none normalized))

/-- `_control_plane_shell_mutation` -/
def controlPlaneShellMutation (command : PyStr) (patterns : List PyStr) :
    Except PathError (List PyStr × Bool) := do
  let m ← shellMutationTargets u place command
  let raws := m.targets.filter (· != [])
  let protectedTargets := raws.filterMap fun raw =>
    if hasMarker raw then none
    else (safeRelativePath place raw).filter fun rel =>
      controlPlaneTarget rel patterns
  let dynamicProtected := raws.any fun raw =>
    hasMarker raw && dynamicTargetMentionsControlPlane raw patterns
  if protectedTargets ≠ [] then .ok (protectedTargets.eraseDups, false)
  else if dynamicProtected then .ok ([], true)
  else if m.mutation && m.unresolved then do
    let reference ← opaqueControlPlaneReference u place command patterns
    .ok ([], reference)
  else .ok ([], false)

end

end Exolon.Guard
