/-
The decoder of a provider's event stream.

`QwenOmniStreamDecoder` reads server-sent events in chunks: a line may end
in LF or CRLF, `data:` lines are gathered until an empty line, and an event
is one JSON document, or `[DONE]`. It is a `LineReader` whose line takes a
carriage return off first.

# The one length at which the cutting shows

A completed line is measured without its carriage return, a pending one
with it. A CRLF line of exactly 524,288 bytes is accepted whole, and
refused when a chunk ends between the two: `decode_cutting_iff` says that
this is all.
-/
import Exolon.Factory.Protocol

namespace Exolon.Landing

open Factory (bind_ok utf8)

-- ================================================================ errors

/-- What the decoder raises. -/
inductive Raised where
  | provider (code : String)
  | contract (code : String) (detail : PyStr)
  | typeError
  | valueError
  | recursionError
  deriving DecidableEq

/-- `LandingProviderError(code)` -/
def providerError {α : Type} (code : String) : Except Raised α :=
  .error (.provider code)

/-- `LandingContractError(code)` -/
def contractError {α : Type} (code : String) : Except Raised α :=
  .error (.contract code [])

/-- Raise unless the condition holds. -/
def require (condition : Bool) (code : String) : Except Raised Unit :=
  if condition then .ok () else providerError code

-- ============================================================== decoding

/-- `pairs` -/
def uniquePairs (seen : List (PyStr × PyJson)) :
    List (PyStr × PyJson) → Except Raised PyJson
  | [] => .ok (.dict seen)
  | (key, value) :: rest =>
      if key ∈ seen.map Prod.fst then
        .error (.contract "duplicate_json_key" key)
      else uniquePairs (seen ++ [(key, value)]) rest

def strictHooks : PyJson.Hooks Raised where
  pairs := uniquePairs []
  constant := fun text =>
    .error (.contract "nonfinite_json" (text.map codePoint))

/-- `strict_json_object` of bytes; `stack` is the nesting the interpreter
has stack for. -/
def strictJsonObject (stack maximum : Nat) (raw : List UInt8) :
    Except Raised PyJson :=
  match raw.toByteArray.utf8Decode? with
  | none => contractError "invalid_json"
  | some text =>
      if maximum < raw.length then contractError "json_too_large"
      else
        match PyJson.loads strictHooks stack text.toList with
        | .error (.hook e) => .error e
        | .error .decode => contractError "invalid_json"
        | .error .intDigits => .error .valueError
        | .error .recursion => .error .recursionError
        | .ok (.dict members) => .ok (.dict members)
        | .ok _ => contractError "invalid_json_object"

/-- `value is None`, of what `get` answers. -/
def isNone : Option PyJson → Bool
  | none => true
  | some .none => true
  | _ => false

/-- `value == text` -/
def isText (text : PyStr) : Option PyJson → Bool
  | some (.str s) => s = text
  | _ => false

/-- `value in {None, text}`; a list or an object has no hash. -/
def noneOr (text : PyStr) : Option PyJson → Except Raised Bool
  | none => .ok true
  | some .none => .ok true
  | some (.str s) => .ok (s = text)
  | some (.list _) | some (.dict _) => .error .typeError
  | _ => .ok false

/-- `value == []` -/
def isEmptyList : Option PyJson → Bool
  | some (.list []) => true
  | _ => false

def isDict : Option PyJson → Bool
  | some (.dict _) => true
  | _ => false

-- ============================================================ the decoder

/-- `HttpLandingProfile`, as far as the decoder reads it. -/
structure HttpLandingProfile where
  modelId : PyStr
  maxResponseBytes : Nat := 1048576
  maxOutputTokens : Nat := 4096
  limits : 1024 ≤ maxResponseBytes ∧ maxResponseBytes ≤ 1048576
    ∧ 1 ≤ maxOutputTokens ∧ maxOutputTokens ≤ 8192 := by decide

/-- `HttpLandingExecutionResult` -/
structure HttpLandingExecutionResult where
  stdout : List UInt8
  responseDigest : Factory.Digest
  elapsedMs : Nat
  usageInputUnits : Nat
  usageOutputUnits : Nat

/-- SHA-256, and the nesting the interpreter has stack for. -/
structure Runtime where
  sha256 : List UInt8 → Factory.Digest
  stack : Nat

/-- What the lines of a stream have said. -/
structure SseState where
  data : List (List UInt8) := []
  content : List UInt8 := []
  identity : Option PyStr := none
  stop : Bool := false
  usage : Option (Nat × Nat) := none
  done : Bool := false
  events : Nat := 0

/-- The bound of a line, of the data of an event and of its document. -/
def maxLine : Nat := 524288

/-- `MAX_PROVIDER_OUTPUT_BYTES` -/
def maxProviderOutputBytes : Nat := 262144

def carriageReturn : UInt8 := 13

/-- `removesuffix(b"\r")` -/
def chomp (raw : List UInt8) : List UInt8 :=
  if raw.getLast? = some carriageReturn then raw.dropLast else raw

/-- `strip` leaves nothing. -/
def isBlank (content : List UInt8) : Bool :=
  content.all fun b => b = 32 ∨ (9 ≤ b ∧ b ≤ 13)

/-- `b"\n".join` -/
def joinData (data : List (List UInt8)) : List UInt8 :=
  [newline].intercalate data

namespace QwenOmniStreamDecoder

variable (env : Runtime) (profile : HttpLandingProfile)

/-- A count of `usage`. -/
def usageCount : Option PyJson → Option Nat
  | some (.int i) => if 0 ≤ i ∧ i ≤ 10000000 then some i.toNat else none
  | _ => none

/-- The counts of `usage`; the third is the sum of the two kept. -/
def usageCounts (usage : PyJson) : Except Raised (Nat × Nat) :=
  match usageCount (usage.get? (py "prompt_tokens")),
    usageCount (usage.get? (py "completion_tokens")),
    usageCount (usage.get? (py "total_tokens")) with
  | some prompt, some completion, some total =>
      if prompt + completion ≠ total ∨ profile.maxOutputTokens < completion
      then providerError "executor_usage"
      else .ok (prompt, completion)
  | _, _, _ => providerError "executor_usage"

/-- An event without choices: the usage, after the last choice. -/
def usageEvent (s : SseState) (document : PyJson) :
    Except Raised SseState := do
  require (s.stop && s.usage.isNone) "executor_sse_usage_order"
  let usage := document.get? (py "usage")
  require (isDict usage) "executor_usage"
  let counts ← usageCounts profile (usage.getD .none)
  .ok { s with usage := some counts }

/-- The text of a delta. -/
def addContent (s : SseState) (content : Option PyJson) :
    Except Raised SseState :=
  match content with
  | some (.str text) =>
      match text.encode? with
      | none => providerError "executor_sse_content"
      | some encoded =>
          let content := s.content ++ encoded
          if maxProviderOutputBytes < content.length then
            providerError "executor_result"
          else .ok { s with content := content }
  | content =>
      if isNone content then .ok s else providerError "executor_sse_content"

/-- The one choice of a document. -/
def onlyChoice : Option PyJson → Except Raised PyJson
  | some (.list [.dict members]) => .ok (.dict members)
  | _ => providerError "executor_sse_choice"

/-- An event with a choice. -/
def choiceEvent (s : SseState) (document : PyJson) :
    Except Raised SseState := do
  require (!s.stop && isNone (document.get? (py "usage")))
    "executor_sse_choice_order"
  let choice ← onlyChoice (document.get? (py "choices"))
  let delta := choice.get? (py "delta")
  require (match choice.get? (py "index") with
    | some (.int i) => i = 0
    | _ => false) "executor_sse_delta"
  let finishes ← noneOr (py "stop") (choice.get? (py "finish_reason"))
  require finishes "executor_sse_delta"
  require (isDict delta) "executor_sse_delta"
  let delta := delta.getD .none
  let role ← noneOr (py "assistant") (delta.get? (py "role"))
  require role "executor_sse_delta"
  let calls := delta.get? (py "tool_calls")
  require ((isNone calls || isEmptyList calls)
    && isNone (delta.get? (py "function_call"))
    && isNone (delta.get? (py "audio"))
    && isNone (delta.get? (py "refusal"))) "executor_sse_delta"
  let s ← addContent s (delta.get? (py "content"))
  .ok { s with
    stop := s.stop || isText (py "stop") (choice.get? (py "finish_reason")) }

/-- The identity of a document. -/
def identityOf (s : SseState) (document : PyJson) : Except Raised PyStr :=
  match document.get? (py "id") with
  | some (.str identity) =>
      if 1 ≤ identity.length ∧ identity.length ≤ 128
        ∧ isText (py "chat.completion.chunk") (document.get? (py "object"))
        ∧ isText profile.modelId (document.get? (py "model"))
        ∧ (s.identity = none ∨ s.identity = some identity)
      then .ok identity
      else providerError "executor_sse_identity"
  | _ => providerError "executor_sse_identity"

/-- `_event` -/
def event (s : SseState) (raw : List UInt8) : Except Raised SseState := do
  let s := { s with events := s.events + 1 }
  require (s.events ≤ 16384) "executor_sse_event_limit"
  if raw = utf8 "[DONE]".toList then
    require (s.stop && s.usage.isSome) "executor_sse_incomplete"
    .ok { s with done := true }
  else
    let document ← strictJsonObject env.stack maxLine raw
    let identity ← identityOf profile s document
    let s := { s with identity := some identity }
    if isEmptyList (document.get? (py "choices")) then
      usageEvent profile s document
    else choiceEvent s document

/-- The event of the gathered data, if there is any. -/
def flush (s : SseState) : Except Raised SseState :=
  if s.data = [] then .ok s
  else do
    let s ← event env profile s (joinData s.data)
    .ok { s with data := [] }

/-- `_line` -/
def line (s : SseState) (line : List UInt8) : Except Raised SseState :=
  if maxLine < line.length then providerError "executor_sse_line_size"
  else if line = [] then flush env profile s
  else if s.done then providerError "executor_sse_after_done"
  else if (utf8 ":".toList).isPrefixOf line then .ok s
  else if !(utf8 "data:".toList).isPrefixOf line then
    providerError "executor_sse_field"
  else
    let rest := line.drop 5
    let rest := if rest.head? = some 32 then rest.tail else rest
    let data := s.data ++ [rest]
    if maxLine < (data.map List.length).sum then
      providerError "executor_sse_event_size"
    else .ok { s with data := data }

/-- The decoder as a reader of lines. What a line that raises leaves is not
kept: its caller drops the decoder. -/
def reader : LineReader SseState Raised where
  line s raw :=
    match line env profile s (chomp raw) with
    | .ok s' => (.ok (), s')
    | .error e => (.error e, s)
  maxStream := profile.maxResponseBytes
  maxTail := maxLine
  streamTooLarge := .provider "executor_response_size"
  tailTooLarge := .provider "executor_sse_line_size"

/-- A decoder, with the bytes its digest is of. -/
structure Decoder where
  fed : Fed SseState
  hashed : List UInt8

def fresh : Decoder := ⟨⟨{}, [], 0⟩, []⟩

/-- `feed` -/
def feed (d : Decoder) (raw : List UInt8) : Except Raised Decoder :=
  match (reader env profile).feed d.fed raw with
  | (.ok _, fed) => .ok ⟨fed, d.hashed ++ raw⟩
  | (.error e, _) => .error e

/-- What `finish` does with the pending bytes and the gathered data. -/
def close (s : SseState) (pending : List UInt8) :
    Except Raised SseState := do
  let s ← if pending = [] then .ok s
    else line env profile s (chomp pending)
  let s ← flush env profile s
  require (s.done && s.stop && s.usage.isSome && !isBlank s.content)
    "executor_sse_incomplete"
  .ok s

/-- `finish` -/
def finish (d : Decoder) : Except Raised HttpLandingExecutionResult := do
  let s ← close env profile d.fed.state d.fed.buffer
  let usage := s.usage.getD (0, 0)
  .ok ⟨s.content, env.sha256 d.hashed, 0, usage.1, usage.2⟩

/-- All the chunks and then `finish`, unless one raises. -/
def decode (chunks : List (List UInt8)) :
    Option HttpLandingExecutionResult :=
  ((chunks.foldlM (feed env profile) fresh).bind
    (finish env profile)).toOption

-- ================================================== the bytes as a whole

/-- A line of the bytes that ends in CRLF, without the two. -/
def CrLfLine (bytes raw : List UInt8) : Prop :=
  newline ∉ raw ∧ ∃ front back,
    bytes = front ++ (raw ++ carriageReturn :: newline :: back)
      ∧ LineReader.tailOf front = []

/-- The bytes are the lines of a complete stream: the checks of one line
after the other, and those of the end, without any chunks. -/
def Readable (bytes : List UInt8) : Prop :=
  bytes.length ≤ profile.maxResponseBytes ∧ ∃ lines tail s s',
    bytes = LineReader.joinLines lines ++ tail
      ∧ newline ∉ tail ∧ tail.length ≤ maxLine
      ∧ (reader env profile).Lines {} lines s
      ∧ close env profile s tail = .ok s'

variable {env : Runtime} {profile : HttpLandingProfile}

theorem feed_ok {d d' : Decoder} {raw : List UInt8} :
    feed env profile d raw = .ok d'
      ↔ (reader env profile).feed d.fed raw = (.ok (), d'.fed)
        ∧ d'.hashed = d.hashed ++ raw := by
  unfold feed
  cases hfeed : (reader env profile).feed d.fed raw with
  | mk answer fed =>
      cases answer with
      | error e =>
          constructor
          · intro h
            cases h
          · intro h
            cases h.1
      | ok u =>
          constructor
          · intro h
            cases h
            exact ⟨rfl, rfl⟩
          · intro h
            cases d'
            cases h.1
            cases h.2
            rfl

theorem feeds_ok {d d' : Decoder} (chunks : List (List UInt8)) :
    chunks.foldlM (feed env profile) d = .ok d'
      ↔ (reader env profile).feedAll d.fed chunks = some d'.fed
        ∧ d'.hashed = d.hashed ++ chunks.flatten := by
  induction chunks generalizing d with
  | nil =>
      rw [LineReader.feedAll, List.flatten_nil, List.append_nil]
      constructor
      · intro h
        cases h
        exact ⟨rfl, rfl⟩
      · intro h
        cases d
        cases d'
        cases h.1
        cases h.2
        rfl
  | cons chunk chunks ih =>
      rw [List.foldlM_cons, bind_ok, LineReader.feedAll_cons_iff]
      constructor
      · intro h
        obtain ⟨d₁, hfeed, hrest⟩ := h
        obtain ⟨hfed, hhash⟩ := feed_ok.mp hfeed
        obtain ⟨hall, hend⟩ := ih.mp hrest
        refine ⟨⟨d₁.fed, hfed, hall⟩, ?_⟩
        rw [hend, hhash, List.append_assoc, List.flatten_cons]
      · intro h
        obtain ⟨⟨r₁, hfed, hall⟩, hend⟩ := h
        refine ⟨⟨r₁, d.hashed ++ chunk⟩, feed_ok.mpr ⟨hfed, rfl⟩,
          ih.mpr ⟨hall, ?_⟩⟩
        rw [hend, List.append_assoc, List.flatten_cons]

theorem toOption_eq_some {ε α : Type} {x : Except ε α} {a : α} :
    x.toOption = some a ↔ x = .ok a := by
  cases x with
  | error e => simp [Except.toOption]
  | ok b => simp [Except.toOption]

/-- What a stream is decoded as, by its bytes and the tails that were
measured. -/
theorem decode_eq_some {chunks : List (List UInt8)}
    {result : HttpLandingExecutionResult} :
    decode env profile chunks = some result
      ↔ (chunks.flatten.length ≤ profile.maxResponseBytes
          ∧ ∃ s tail, (reader env profile).consume {} [] chunks.flatten
              = .ok (s, tail)
            ∧ finish env profile ⟨⟨s, tail, chunks.flatten.length⟩,
              chunks.flatten⟩ = .ok result)
        ∧ (reader env profile).TailsFit [] chunks := by
  have hok : decode env profile chunks = some result
      ↔ ∃ d, chunks.foldlM (feed env profile) fresh = .ok d
        ∧ finish env profile d = .ok result :=
    toOption_eq_some.trans bind_ok
  rw [hok]
  constructor
  · intro h
    obtain ⟨d, hfeeds, hfinish⟩ := h
    obtain ⟨hall, hhash⟩ := (feeds_ok chunks).mp hfeeds
    obtain ⟨hroom, hconsume, htails, hcount⟩ :=
      (LineReader.feedAll_iff _ List.not_mem_nil (Nat.zero_le _)
        chunks).mp hall
    refine ⟨⟨by simpa [fresh, reader] using hroom, d.fed.state,
      d.fed.buffer, hconsume, ?_⟩, htails⟩
    have hd : d = ⟨⟨d.fed.state, d.fed.buffer, chunks.flatten.length⟩,
        chunks.flatten⟩ := by
      obtain ⟨⟨s, tail, received⟩, hashed⟩ := d
      simp only [fresh, List.nil_append, Nat.zero_add] at hhash hcount
      rw [hhash, hcount]
    rw [← hd]
    exact hfinish
  · intro h
    obtain ⟨⟨hroom, s, tail, hconsume, hfinish⟩, htails⟩ := h
    refine ⟨⟨⟨s, tail, chunks.flatten.length⟩, chunks.flatten⟩,
      (feeds_ok chunks).mpr ⟨?_, rfl⟩, hfinish⟩
    refine (LineReader.feedAll_iff _ List.not_mem_nil (Nat.zero_le _)
      chunks).mpr ⟨?_, hconsume, htails, ?_⟩
    · show 0 + _ ≤ _
      rw [Nat.zero_add]
      exact hroom
    · show _ = 0 + _
      rw [Nat.zero_add]

theorem finish_ok {d : Decoder} {result : HttpLandingExecutionResult}
    (h : finish env profile d = .ok result) :
    ∃ s, close env profile d.fed.state d.fed.buffer = .ok s := by
  obtain ⟨s, hclose, _⟩ := bind_ok.mp h
  exact ⟨s, hclose⟩

-- ================================================== the length of a line

theorem chomp_concat (raw : List UInt8) :
    chomp (raw ++ [carriageReturn]) = raw := by
  unfold chomp
  rw [if_pos (by simp), List.dropLast_concat]

/-- An accepted line fits, or only does without its carriage return. -/
theorem line_accepted {s s' : SseState} {raw : List UInt8}
    (h : (reader env profile).line s raw = (.ok (), s')) :
    raw.length ≤ maxLine
      ∨ ∃ body, raw = body ++ [carriageReturn] ∧ body.length = maxLine := by
  have hbody : (chomp raw).length ≤ maxLine := by
    by_contra hlong
    have hraises : line env profile s (chomp raw)
        = providerError "executor_sse_line_size" := by
      unfold line
      rw [if_pos (Nat.lt_of_not_le hlong)]
    simp only [reader, hraises] at h
    cases h
  by_cases hcr : raw.getLast? = some carriageReturn
  · have hne : raw ≠ [] := by
      intro hnil
      rw [hnil] at hcr
      cases hcr
    have hlast : raw.getLast hne = carriageReturn := by
      rw [List.getLast?_eq_getLast_of_ne_nil hne] at hcr
      exact Option.some.inj hcr
    have hraw : raw = raw.dropLast ++ [carriageReturn] := by
      rw [← hlast, List.dropLast_append_getLast]
    rw [hraw, chomp_concat] at hbody
    by_cases hfull : raw.dropLast.length = maxLine
    · exact .inr ⟨_, hraw, hfull⟩
    · left
      rw [hraw, List.length_append, List.length_singleton]
      omega
  · left
    unfold chomp at hbody
    rwa [if_neg hcr] at hbody

/-- Lines that are accepted fit, unless one of them is a CRLF line at the
bound. -/
theorem lines_fit {s s' : SseState} {lines : List (List UInt8)}
    {tail : List UInt8} (hlines : (reader env profile).Lines s lines s')
    (hnone : ∀ raw, CrLfLine (LineReader.joinLines lines ++ tail) raw →
      raw.length ≠ maxLine) :
    ∀ raw ∈ lines, raw.length ≤ maxLine := by
  intro raw hmem
  obtain ⟨u, v, hline⟩ := hlines.accepted _ raw hmem
  rcases line_accepted hline with hfits | ⟨body, hraw, hfull⟩
  · exact hfits
  · exfalso
    refine hnone body ⟨?_, ?_⟩ hfull
    · intro hin
      apply hlines.newline_not_mem _ raw hmem
      rw [hraw]
      exact List.mem_append_left _ hin
    · obtain ⟨before, after, hsplit⟩ := List.append_of_mem hmem
      refine ⟨LineReader.joinLines before,
        LineReader.joinLines after ++ tail, ?_, ?_⟩
      · rw [hsplit, hraw]
        simp [LineReader.joinLines]
      · exact LineReader.tailOf_joinLines before

-- ============================================================ the cutting

theorem tail_fits {chunks : List (List UInt8)} {s : SseState}
    {tail : List UInt8}
    (hconsume : (reader env profile).consume {} [] chunks.flatten
      = .ok (s, tail))
    (htails : (reader env profile).TailsFit [] chunks) :
    newline ∉ tail ∧ tail.length ≤ maxLine := by
  have htail := LineReader.consume_tail _ List.not_mem_nil hconsume
  constructor
  · rw [htail]
    exact LineReader.newline_not_mem_tailOf _
  · rw [htail]
    exact htails.last _ (Nat.zero_le _)

/-- What is decoded is readable. -/
theorem readable_of_decode {chunks : List (List UInt8)}
    {result : HttpLandingExecutionResult}
    (h : decode env profile chunks = some result) :
    Readable env profile chunks.flatten := by
  obtain ⟨⟨hroom, s, tail, hconsume, hfinish⟩, htails⟩ :=
    decode_eq_some.mp h
  obtain ⟨hclean, hfits⟩ := tail_fits hconsume htails
  obtain ⟨lines, hlines, hbytes⟩ :=
    LineReader.consume_lines _ List.not_mem_nil hconsume
  obtain ⟨s', hclose⟩ := finish_ok hfinish
  exact ⟨hroom, lines, tail, s, s', hbytes, hclean, hfits, hlines, hclose⟩

/-- Without a CRLF line at the bound, what one cutting is decoded as every
other is. -/
theorem decode_recut {chunks cut : List (List UInt8)}
    (hcut : chunks.flatten = cut.flatten)
    (hnone : ∀ raw, CrLfLine cut.flatten raw → raw.length ≠ maxLine)
    {result : HttpLandingExecutionResult}
    (h : decode env profile chunks = some result) :
    decode env profile cut = some result := by
  obtain ⟨hwhole, htails⟩ := decode_eq_some.mp h
  obtain ⟨s, tail, hconsume, _⟩ := hwhole.2
  obtain ⟨hclean, hfits⟩ := tail_fits hconsume htails
  obtain ⟨lines, hlines, hbytes⟩ :=
    LineReader.consume_lines _ List.not_mem_nil hconsume
  rw [hcut] at hwhole hbytes
  refine decode_eq_some.mpr ⟨hwhole, fun k _ => ?_⟩
  rw [List.nil_append] at hbytes ⊢
  rw [hbytes] at hnone
  have hsplit : LineReader.joinLines lines ++ tail
      = (cut.take (k + 1)).flatten ++ (cut.drop (k + 1)).flatten := by
    rw [← hbytes, ← List.flatten_append, List.take_append_drop]
  exact LineReader.tailOf_prefix_le (hlines.newline_not_mem _) hclean
    (lines_fit hlines hnone) hfits hsplit

/-- A readable stream in one chunk is decoded. -/
theorem Readable.decode {bytes : List UInt8}
    (h : Readable env profile bytes) :
    ∃ result, decode env profile [bytes] = some result := by
  obtain ⟨hroom, lines, tail, s, s', hbytes, hclean, hfits, hlines,
    hclose⟩ := h
  have hconsume := hlines.consume _ hclean
  rw [← hbytes] at hconsume
  have htail : tail = LineReader.tailOf bytes :=
    LineReader.consume_tail _ List.not_mem_nil hconsume
  refine ⟨_, decode_eq_some.mpr ⟨⟨?_, s, tail, ?_,
    bind_ok.mpr ⟨s', hclose, rfl⟩⟩, fun k hk => ?_⟩⟩
  · rw [List.flatten_singleton]
    exact hroom
  · rw [List.flatten_singleton]
    exact hconsume
  · rw [List.length_singleton, Nat.lt_one_iff] at hk
    rw [hk]
    show (LineReader.tailOf (bytes ++ [])).length ≤ maxLine
    rw [List.append_nil, ← htail]
    exact hfits

/-- A chunk that ends between the two bytes of a CRLF line at the bound is
refused. -/
theorem decode_between {front raw back : List UInt8}
    (hfront : LineReader.tailOf front = []) (hraw : newline ∉ raw)
    (hfull : raw.length = maxLine) :
    decode env profile
      [front ++ (raw ++ [carriageReturn]), newline :: back] = none := by
  apply Option.eq_none_iff_forall_ne_some.mpr
  intro result h
  obtain ⟨_, htails⟩ := decode_eq_some.mp h
  have hlong : (LineReader.tailOf
      ([] ++ [front ++ (raw ++ [carriageReturn])].flatten)).length
        ≤ maxLine := htails 0 (Nat.zero_lt_succ _)
  have hclean : newline ∉ raw ++ [carriageReturn] := by
    rw [List.mem_append, not_or]
    exact ⟨hraw, by decide⟩
  rw [List.nil_append, List.flatten_singleton,
    ← LineReader.tailOf_tailOf_append, hfront, List.nil_append,
    LineReader.tailOf_of_not_mem hclean, List.length_append,
    List.length_singleton, hfull] at hlong
  omega

/-- How a stream is cut does not show, unless it is one that can be read
and has a CRLF line of exactly the bound. -/
theorem decode_cutting_iff (env : Runtime) (profile : HttpLandingProfile)
    (bytes : List UInt8) :
    (∀ chunks cut : List (List UInt8), chunks.flatten = bytes →
        cut.flatten = bytes →
        decode env profile chunks = decode env profile cut)
      ↔ (∀ raw, CrLfLine bytes raw → raw.length ≠ maxLine)
        ∨ ¬ Readable env profile bytes := by
  constructor
  · intro hsame
    by_contra hboth
    rw [not_or, not_not] at hboth
    obtain ⟨hline, hreadable⟩ := hboth
    apply hline
    intro raw hcrlf hfull
    obtain ⟨hraw, front, back, hbytes, hfront⟩ := hcrlf
    obtain ⟨result, hdecode⟩ := hreadable.decode
    have hother := hsame [bytes]
      [front ++ (raw ++ [carriageReturn]), newline :: back]
      List.flatten_singleton (by rw [hbytes]; simp)
    rw [hdecode, decode_between hfront hraw hfull] at hother
    cases hother
  · intro hcondition chunks cut hchunks hcut
    rcases hcondition with hnone | hunread
    · apply Option.ext
      intro result
      constructor
      · exact decode_recut (hchunks.trans hcut.symm) (by rwa [hcut])
      · exact decode_recut (hcut.trans hchunks.symm) (by rwa [hchunks])
    · have hrefused : ∀ some : List (List UInt8), some.flatten = bytes →
          decode env profile some = none := by
        intro some hsome
        apply Option.eq_none_iff_forall_ne_some.mpr
        intro result h
        apply hunread
        rw [← hsome]
        exact readable_of_decode h
      rw [hrefused chunks hchunks, hrefused cut hcut]

-- ------------------------------------------------ a comment at the bound

def smallProfile : HttpLandingProfile where
  modelId := py "m"

def plainRuntime : Runtime where
  sha256 := fun _ => .genesis
  stack := 900

/-- One delta, its usage and the end. -/
def shortAnswer : List UInt8 := utf8 (
  "data: \x7b\"id\":\"i\",\"object\":\"chat.completion.chunk\",".toList
  ++ "\"model\":\"m\",\"choices\":[\x7b\"index\":0,".toList
  ++ "\"finish_reason\":\"stop\",\"delta\":\x7b\"content\":".toList
  ++ "\"x\"\x7d\x7d]\x7d\n\n".toList
  ++ "data: \x7b\"id\":\"i\",\"object\":\"chat.completion.chunk\",".toList
  ++ "\"model\":\"m\",\"choices\":[],\"usage\":\x7b".toList
  ++ "\"prompt_tokens\":1,\"completion_tokens\":1,".toList
  ++ "\"total_tokens\":2\x7d\x7d\n\n".toList
  ++ "data: [DONE]\n\n".toList)

/-- A comment says nothing. -/
theorem comment_line {s : SseState} {body : List UInt8}
    (hfits : (58 :: body).length ≤ maxLine) (hdone : s.done = false) :
    (reader env profile).line s ((58 :: body) ++ [carriageReturn])
      = (.ok (), s) := by
  have hfront : (utf8 ":".toList).isPrefixOf (58 :: body) = true := by
    show (58 == (58 : UInt8) && List.isPrefixOf [] body) = true
    rfl
  have hline : line env profile s (58 :: body) = .ok s := by
    unfold line
    rw [if_neg (Nat.not_lt_of_le hfits), if_neg (List.cons_ne_nil _ _),
      hdone, if_neg Bool.false_ne_true, if_pos hfront]
  simp only [reader, chomp_concat, hline]

/-- The bytes of the answer. -/
theorem shortAnswer_read : ∃ s tail s',
    (reader plainRuntime smallProfile).consume {} [] shortAnswer
        = .ok (s, tail)
      ∧ close plainRuntime smallProfile s tail = .ok s' := by
  have hread : ((((reader plainRuntime smallProfile).consume {} []
      shortAnswer).toOption.bind fun kept =>
        (close plainRuntime smallProfile kept.1 kept.2).toOption).map
          SseState.content) = some [120] := by decide +kernel
  obtain ⟨s', hanswer, _⟩ := Option.map_eq_some_iff.mp hread
  obtain ⟨kept, hkept, hclose⟩ := Option.bind_eq_some_iff.mp hanswer
  exact ⟨kept.1, kept.2, s', toOption_eq_some.mp hkept,
    toOption_eq_some.mp hclose⟩

/-- Behind a comment at the bound, the answer is decoded in one chunk and
refused in two. -/
theorem decode_behind {body : List UInt8}
    (hfull : (58 :: body).length = maxLine) (hclean : newline ∉ 58 :: body) :
    decode plainRuntime smallProfile
        [(58 :: body) ++ [carriageReturn] ++ newline :: shortAnswer]
      ≠ decode plainRuntime smallProfile
        [[] ++ ((58 :: body) ++ [carriageReturn]),
          newline :: shortAnswer] := by
  rw [decode_between rfl hclean hfull]
  obtain ⟨s, tail, s', hconsume, hclose⟩ := shortAnswer_read
  have hlead : newline ∉ (58 :: body) ++ [carriageReturn] := by
    rw [List.mem_append, not_or]
    exact ⟨hclean, by decide⟩
  have hwhole : (reader plainRuntime smallProfile).consume {} []
      ((58 :: body) ++ [carriageReturn] ++ newline :: shortAnswer)
      = .ok (s, tail) := by
    rw [LineReader.consume_append,
      LineReader.consume_of_not_mem _ _ _ hlead, List.nil_append]
    dsimp only
    rw [LineReader.consume, if_pos rfl,
      comment_line (Nat.le_of_eq hfull) rfl]
    exact hconsume
  have hanswer : ∃ result, decode plainRuntime smallProfile
      [(58 :: body) ++ [carriageReturn] ++ newline :: shortAnswer]
      = some result := by
    refine ⟨_, decode_eq_some.mpr ⟨⟨?_, s, tail, ?_,
      bind_ok.mpr ⟨s', hclose, rfl⟩⟩, fun k hk => ?_⟩⟩
    · rw [List.flatten_singleton, List.length_append, List.length_append,
        hfull]
      decide +kernel
    · rw [List.flatten_singleton]
      exact hwhole
    · rw [List.length_singleton, Nat.lt_one_iff] at hk
      have htail : LineReader.tailOf ((58 :: body) ++ [carriageReturn]
          ++ newline :: shortAnswer) = [] := by
        rw [LineReader.tailOf_append_newline]
        decide +kernel
      rw [hk, List.nil_append, List.take_of_length_le (by simp),
        List.flatten_singleton, htail]
      exact Nat.zero_le _
  obtain ⟨result, hresult⟩ := hanswer
  rw [hresult]
  exact Option.some_ne_none result

/-- A comment of 524,288 bytes in a CRLF line. -/
theorem decode_longComment :
    ¬ ∀ (env : Runtime) (profile : HttpLandingProfile)
        (chunks cut : List (List UInt8)), chunks.flatten = cut.flatten →
      decode env profile chunks = decode env profile cut := by
  intro hall
  have hfull : (58 :: List.replicate 524287 (97 : UInt8)).length
      = maxLine := by
    rw [List.length_cons, List.length_replicate]
    rfl
  have hclean : newline ∉ 58 :: List.replicate 524287 (97 : UInt8) := by
    rw [List.mem_cons, not_or, List.mem_replicate]
    exact ⟨by decide, fun h => absurd h.2 (by decide)⟩
  have hcut : ∀ front back : List UInt8,
      [front ++ newline :: back].flatten
        = [[] ++ front, newline :: back].flatten := by
    intro front back
    simp
  exact decode_behind hfull hclean (hall _ _ _ _ (hcut _ _))

end QwenOmniStreamDecoder

end Exolon.Landing
