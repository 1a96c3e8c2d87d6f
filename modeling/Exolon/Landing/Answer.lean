/-
What an accepted stream says.

The decoder keeps the order of a stream in four flags. Here the same order
is said of the stream as a whole: the lines dispatch events, the events are
the choices of one answer, its usage and `[DONE]`, and blank lines follow.
`decode_iff_carries` is the equality of the two, in both directions.

# The way there

- One event (`event_choice_iff`, `event_usage_iff`, `event_late`): what each
  kind of document does in the state it may come in.
- All events (`choices_then_usage`): the three phases of an answer, by
  induction on the events of the first.
- The lines (`reads_gather`, `gather_reads`): until `[DONE]` a fold over the
  lines is a fold over the events they dispatch. `finish` reads as one more
  blank line.
-/
import Exolon.Landing.Sse

namespace Exolon.Landing

open Factory (bind_ok utf8)

namespace QwenOmniStreamDecoder

variable (env : Runtime) (profile : HttpLandingProfile)

-- ============================================================ the events

/-- `[DONE]` -/
def doneData : List UInt8 := utf8 "[DONE]".toList

/-- `value is None` -/
def Absent (value : Option PyJson) : Prop :=
  value = none ∨ value = some .none

/-- A document of the answer `identity`. -/
structure IsChunk (identity : PyStr) (document : PyJson) : Prop where
  id : document.get? (py "id") = some (.str identity)
  size : 1 ≤ identity.length ∧ identity.length ≤ 128
  object : document.get? (py "object")
    = some (.str (py "chat.completion.chunk"))
  model : document.get? (py "model") = some (.str profile.modelId)

/-- What a choice event says. -/
structure Choice where
  text : List UInt8
  stops : Bool

/-- A delta of text alone: no calls, no audio and no refusal in it. -/
structure IsDelta (delta : PyJson) (text : List UInt8) : Prop where
  role : Absent (delta.get? (py "role"))
    ∨ delta.get? (py "role") = some (.str (py "assistant"))
  calls : Absent (delta.get? (py "tool_calls"))
    ∨ delta.get? (py "tool_calls") = some (.list [])
  call : Absent (delta.get? (py "function_call"))
  audio : Absent (delta.get? (py "audio"))
  refusal : Absent (delta.get? (py "refusal"))
  content : (Absent (delta.get? (py "content")) ∧ text = [])
    ∨ ∃ said, delta.get? (py "content") = some (.str said)
      ∧ said.encode? = some text

/-- `finish_reason` -/
def Finishes (reason : Option PyJson) (stops : Bool) : Prop :=
  if stops then reason = some (.str (py "stop")) else Absent reason

/-- A document with the one choice `c`. -/
structure SaysChoice (document : PyJson) (c : Choice) : Prop where
  usage : Absent (document.get? (py "usage"))
  choice : ∃ members,
    document.get? (py "choices") = some (.list [.dict members])
      ∧ (PyJson.dict members).get? (py "index") = some (.int 0)
      ∧ Finishes ((PyJson.dict members).get? (py "finish_reason")) c.stops
      ∧ ∃ delta, (PyJson.dict members).get? (py "delta")
          = some (.dict delta) ∧ IsDelta (.dict delta) c.text

/-- A document with no choice and a usage within the profile. -/
structure SaysUsage (document : PyJson) (prompt completion : Nat) :
    Prop where
  choices : document.get? (py "choices") = some (.list [])
  usage : ∃ members, document.get? (py "usage") = some (.dict members)
    ∧ (PyJson.dict members).get? (py "prompt_tokens")
      = some (.int prompt)
    ∧ (PyJson.dict members).get? (py "completion_tokens")
      = some (.int completion)
    ∧ (PyJson.dict members).get? (py "total_tokens")
      = some (.int (prompt + completion : Nat))
  total : prompt + completion ≤ 10000000
  completion : completion ≤ profile.maxOutputTokens

/-- The payload of a choice event of the answer `identity`. -/
def IsChoice (identity : PyStr) (payload : List UInt8) (c : Choice) :
    Prop :=
  ∃ document, strictJsonObject env.stack maxLine payload = .ok document
    ∧ IsChunk profile identity document ∧ SaysChoice document c

/-- The payload of a usage event of the answer `identity`. -/
def IsUsage (identity : PyStr) (payload : List UInt8)
    (prompt completion : Nat) : Prop :=
  ∃ document, strictJsonObject env.stack maxLine payload = .ok document
    ∧ IsChunk profile identity document
    ∧ SaysUsage profile document prompt completion

/-- One complete answer. -/
structure Answer where
  identity : PyStr
  choices : List Choice
  prompt : Nat
  completion : Nat

/-- The concatenation of the texts. -/
def Answer.content (a : Answer) : List UInt8 :=
  a.choices.flatMap Choice.text

/-- Exactly the last of the choices stops; there is a last one. -/
def LastStops (choices : List Choice) : Prop :=
  ∃ front last, choices = front ++ [last] ∧ last.stops = true
    ∧ ∀ c ∈ front, c.stops = false

/-- The payloads of an answer: its choices and then its usage. -/
def IsAnswer (payloads : List (List UInt8)) (a : Answer) : Prop :=
  LastStops a.choices ∧ ∃ choices usage, payloads = choices ++ [usage]
    ∧ List.Forall₂ (IsChoice env profile a.identity) choices a.choices
    ∧ IsUsage env profile a.identity usage a.prompt a.completion

-- ============================================================= the lines

/-- A field is a comment. -/
def isComment (line : List UInt8) : Bool :=
  (utf8 ":".toList).isPrefixOf line

/-- A field is data. -/
def isData (line : List UInt8) : Bool :=
  (utf8 "data:".toList).isPrefixOf line

/-- The data of a field, without one blank before it. -/
def fieldData (line : List UInt8) : List UInt8 :=
  let rest := line.drop 5
  if rest.head? = some 32 then rest.tail else rest

def dataSize (data : List (List UInt8)) : Nat := (data.map List.length).sum

/-- The events that lines dispatch, each with its data lines, and the data
they leave gathered: a blank line dispatches what there is, a comment says
nothing, and other fields are none of this stream's. -/
def gather (data : List (List UInt8)) : List (List UInt8) →
    Option (List (List (List UInt8)) × List (List UInt8))
  | [] => some ([], data)
  | line :: lines =>
      if line = [] then
        (gather [] lines).map fun (events, last) =>
          (if data = [] then events else data :: events, last)
      else if isComment line then gather data lines
      else if isData line then gather (data ++ [fieldData line]) lines
      else none

/-- The lines of the bytes, the last also where no newline ends it. -/
def IsText (bytes : List UInt8) (lines : List (List UInt8)) : Prop :=
  ∃ raws tail, bytes = LineReader.joinLines raws ++ tail
    ∧ (∀ raw ∈ raws, newline ∉ raw) ∧ newline ∉ tail
    ∧ lines = (if tail = [] then raws else raws ++ [tail]).map chomp

/-- The lines dispatch the events of the answer and then `[DONE]`, which is
gathered where `front` ends; what comes after it is blank. -/
structure Dispatches (lines : List (List UInt8)) (a : Answer) : Prop where
  events : ∃ front back groups last, lines = front ++ back
    ∧ (∀ line ∈ back, line = [])
    ∧ gather [] front = some (groups, last)
    ∧ IsAnswer env profile (groups.map joinData) a
    ∧ joinData last = doneData
    ∧ (∀ data ∈ groups ++ [last], dataSize data ≤ maxLine)
    ∧ groups.length + 1 ≤ 16384
  fits : ∀ line ∈ lines, line.length ≤ maxLine

/-- The chunks carry the answer, within the limits. -/
structure Carries (chunks : List (List UInt8)) (a : Answer) : Prop where
  size : chunks.flatten.length ≤ profile.maxResponseBytes
  pending : (reader env profile).TailsFit [] chunks
  lines : ∃ lines, IsText chunks.flatten lines
    ∧ Dispatches env profile lines a
  content : a.content.length ≤ maxProviderOutputBytes
  notBlank : isBlank a.content = false

variable {env : Runtime} {profile : HttpLandingProfile}

-- ============================================================ the checks

theorem require_ok {condition : Bool} {code : String} {u : Unit} :
    require condition code = .ok u ↔ condition = true := by
  unfold require
  by_cases h : condition = true
  · simp [h]
  · simp [h, providerError]

theorem isNone_iff {value : Option PyJson} :
    isNone value = true ↔ Absent value := by
  unfold Absent
  cases value with
  | none => simp [isNone]
  | some v => cases v <;> simp [isNone]

theorem isText_iff {text : PyStr} {value : Option PyJson} :
    isText text value = true ↔ value = some (.str text) := by
  cases value with
  | none => simp [isText]
  | some v => cases v <;> simp [isText]

theorem isEmptyList_iff {value : Option PyJson} :
    isEmptyList value = true ↔ value = some (.list []) := by
  cases value with
  | none => simp [isEmptyList]
  | some v =>
      cases v with
      | list items => cases items <;> simp [isEmptyList]
      | _ => simp [isEmptyList]

theorem isDict_iff {value : Option PyJson} :
    isDict value = true ↔ ∃ members, value = some (.dict members) := by
  cases value with
  | none => simp [isDict]
  | some v => cases v <;> simp [isDict]

theorem noneOr_ok {text : PyStr} {value : Option PyJson} :
    noneOr text value = .ok true
      ↔ Absent value ∨ value = some (.str text) := by
  unfold Absent
  cases value with
  | none => simp [noneOr]
  | some v => cases v <;> simp [noneOr]

/-- A text in the set is the one text or nothing. -/
theorem finishes_iff {reason : Option PyJson} {stops : Bool} :
    noneOr (py "stop") reason = .ok true
        ∧ isText (py "stop") reason = stops
      ↔ Finishes reason stops := by
  rw [noneOr_ok]
  unfold Finishes
  cases stops with
  | true =>
      rw [isText_iff, if_pos rfl]
      exact ⟨fun h => h.2, fun h => ⟨.inr h, h⟩⟩
  | false =>
      rw [if_neg Bool.false_ne_true, ← Bool.not_eq_true, isText_iff]
      constructor
      · intro h
        exact h.1.resolve_right h.2
      · intro h
        refine ⟨.inl h, fun htext => ?_⟩
        rw [htext] at h
        rcases h with h | h <;> cases h

theorem usageCount_iff {value : Option PyJson} {n : Nat} :
    usageCount value = some n
      ↔ value = some (.int n) ∧ n ≤ 10000000 := by
  unfold usageCount
  split
  case h_1 i =>
      constructor
      · intro h
        by_cases hrange : 0 ≤ i ∧ i ≤ 10000000
        · rw [if_pos hrange] at h
          have hn : i.toNat = n := Option.some.inj h
          have hi : i = (n : Int) := by omega
          exact ⟨by rw [hi], by omega⟩
        · rw [if_neg hrange] at h
          cases h
      · intro h
        obtain ⟨hvalue, hfits⟩ := h
        have hi : i = (n : Int) := by
          injection hvalue with hvalue
          injection hvalue
        rw [hi, if_pos (by omega), Int.toNat_natCast]
  case h_2 hother =>
      constructor
      · intro h
        cases h
      · intro h
        exact absurd h.1 (hother _)

theorem usageCounts_ok {usage : PyJson} {prompt completion : Nat} :
    usageCounts profile usage = .ok (prompt, completion)
      ↔ usage.get? (py "prompt_tokens") = some (.int prompt)
        ∧ usage.get? (py "completion_tokens") = some (.int completion)
        ∧ usage.get? (py "total_tokens")
          = some (.int (prompt + completion : Nat))
        ∧ prompt + completion ≤ 10000000
        ∧ completion ≤ profile.maxOutputTokens := by
  unfold usageCounts
  constructor
  · intro h
    split at h
    case h_1 p c t hp hc ht =>
        rw [usageCount_iff] at hp hc ht
        by_cases hbad : p + c ≠ t ∨ profile.maxOutputTokens < c
        · rw [if_pos hbad] at h
          cases h
        · rw [if_neg hbad] at h
          cases h
          rw [not_or, not_not, Nat.not_lt] at hbad
          obtain ⟨hsum, hfits⟩ := hbad
          rw [hsum]
          exact ⟨hp.1, hc.1, ht.1, ht.2, hfits⟩
    case h_2 => cases h
  · intro h
    obtain ⟨hp, hc, ht, htotal, hfits⟩ := h
    rw [usageCount_iff.mpr ⟨hp, by omega⟩,
      usageCount_iff.mpr ⟨hc, by omega⟩, usageCount_iff.mpr ⟨ht, htotal⟩]
    show (if _ then _ else _) = _
    rw [if_neg (by omega)]

-- ============================================================= one event

theorem require_bind {α : Type} {condition : Bool} {code : String}
    {f : Unit → Except Raised α} {a : α} :
    (require condition code >>= f) = .ok a
      ↔ condition = true ∧ f () = .ok a := by
  rw [bind_ok]
  constructor
  · intro h
    obtain ⟨u, hu, hf⟩ := h
    exact ⟨require_ok.mp hu, hf⟩
  · intro h
    exact ⟨(), require_ok.mpr h.1, h.2⟩

theorem noneOr_bind {α : Type} {text : PyStr} {value : Option PyJson}
    {f : Bool → Except Raised α} {a : α} :
    (noneOr text value >>= fun b => require b "executor_sse_delta"
        >>= fun _ => f b) = .ok a
      ↔ noneOr text value = .ok true ∧ f true = .ok a := by
  rw [bind_ok]
  constructor
  · intro h
    obtain ⟨b, hb, hrest⟩ := h
    rw [require_bind] at hrest
    obtain ⟨htrue, hf⟩ := hrest
    rw [htrue] at hb hf
    exact ⟨hb, hf⟩
  · intro h
    exact ⟨true, h.1, require_bind.mpr ⟨rfl, h.2⟩⟩

theorem identityOf_ok {s : SseState} {document : PyJson}
    {identity : PyStr} :
    identityOf profile s document = .ok identity
      ↔ IsChunk profile identity document
        ∧ (s.identity = none ∨ s.identity = some identity) := by
  unfold identityOf
  constructor
  · intro h
    split at h
    case h_1 found hid =>
        split at h
        case isTrue hok =>
            cases h
            rw [isText_iff, isText_iff] at hok
            obtain ⟨hlow, hhigh, hobject, hmodel, hsame⟩ := hok
            exact ⟨⟨hid, ⟨hlow, hhigh⟩, hobject, hmodel⟩, hsame⟩
        case isFalse => cases h
    case h_2 => cases h
  · intro h
    obtain ⟨hchunk, hsame⟩ := h
    rw [hchunk.id]
    show (if _ then _ else _) = _
    rw [if_pos]
    exact ⟨hchunk.size.1, hchunk.size.2, isText_iff.mpr hchunk.object,
      isText_iff.mpr hchunk.model, hsame⟩

theorem onlyChoice_bind {α : Type} {value : Option PyJson}
    {f : PyJson → Except Raised α} {a : α} :
    (onlyChoice value >>= f) = .ok a
      ↔ ∃ members, value = some (.list [.dict members])
        ∧ f (.dict members) = .ok a := by
  unfold onlyChoice
  constructor
  · intro h
    split at h
    case h_1 members => exact ⟨members, rfl, h⟩
    case h_2 => cases h
  · intro h
    obtain ⟨members, hvalue, hf⟩ := h
    rw [hvalue]
    exact hf

/-- What the content of a delta adds. -/
theorem addContent_ok {s s' : SseState} {content : Option PyJson}
    (hroom : s.content.length ≤ maxProviderOutputBytes) :
    addContent s content = .ok s'
      ↔ ∃ text, ((Absent content ∧ text = [])
          ∨ ∃ said, content = some (.str said) ∧ said.encode? = some text)
        ∧ (s.content ++ text).length ≤ maxProviderOutputBytes
        ∧ s' = { s with content := s.content ++ text } := by
  unfold addContent
  split
  case h_1 said =>
      have habsent : ¬ Absent (some (.str said)) := by
        intro h
        rcases h with h | h <;> cases h
      cases hencode : said.encode? with
      | none =>
          constructor
          · intro h
            cases h
          · intro h
            obtain ⟨text, htold, _⟩ := h
            rcases htold with htold | ⟨other, hother, htext⟩
            · exact absurd htold.1 habsent
            · cases hother
              rw [hencode] at htext
              cases htext
      | some encoded =>
          constructor
          · intro h
            by_cases hlong : maxProviderOutputBytes
                < (s.content ++ encoded).length
            · simp only [if_pos hlong] at h
              cases h
            · simp only [if_neg hlong] at h
              cases h
              exact ⟨encoded, .inr ⟨said, rfl, hencode⟩,
                Nat.le_of_not_lt hlong, rfl⟩
          · intro h
            obtain ⟨text, htold, hfits, hs'⟩ := h
            rcases htold with htold | ⟨other, hother, htext⟩
            · exact absurd htold.1 habsent
            · cases hother
              rw [hencode] at htext
              cases htext
              simp only [if_neg (Nat.not_lt_of_le hfits), hs']
  case h_2 hother =>
      have hno : ∀ said, content ≠ some (.str said) := by
        intro said heq
        exact hother said heq
      have hsame : s = { s with content := s.content ++ [] } := by
        rw [List.append_nil]
      constructor
      · intro h
        by_cases hnone : isNone content = true
        · rw [if_pos hnone] at h
          cases h
          refine ⟨[], .inl ⟨isNone_iff.mp hnone, rfl⟩, ?_, hsame⟩
          rwa [List.append_nil]
        · rw [if_neg hnone] at h
          cases h
      · intro h
        obtain ⟨text, htold, _, hs'⟩ := h
        rcases htold with ⟨habsent, htext⟩ | ⟨said, heq, _⟩
        · rw [if_pos (isNone_iff.mpr habsent), hs', htext, ← hsame]
        · exact absurd heq (hno said)

/-- `type(index) is int and index == 0` -/
theorem index_iff {index : Option PyJson} :
    (match index with
      | some (.int i) => decide (i = 0)
      | _ => false) = true ↔ index = some (.int 0) := by
  cases index with
  | none => simp
  | some v => cases v <;> simp

/-- A choice, before any that stops. -/
theorem choiceEvent_ok {s s' : SseState} {document : PyJson}
    (hstop : s.stop = false)
    (hroom : s.content.length ≤ maxProviderOutputBytes) :
    choiceEvent s document = .ok s'
      ↔ ∃ c, SaysChoice document c
        ∧ (s.content ++ c.text).length ≤ maxProviderOutputBytes
        ∧ s' = { s with content := s.content ++ c.text, stop := c.stops } := by
  unfold choiceEvent
  simp only [hstop, Bool.not_false, Bool.true_and, require_bind,
    noneOr_bind, isNone_iff, onlyChoice_bind, Bool.and_eq_true,
    Bool.or_eq_true, isEmptyList_iff, isDict_iff]
  constructor
  · intro h
    obtain ⟨husage, members, hchoices, hindex, hfinish, hdelta, hrole,
      hothers, hadds⟩ := h
    obtain ⟨delta, hdelta⟩ := hdelta
    rw [hdelta, Option.getD_some] at hrole hothers hadds
    obtain ⟨⟨⟨hcalls, hcall⟩, haudio⟩, hrefusal⟩ := hothers
    obtain ⟨s₁, hadd, hs'⟩ := bind_ok.mp hadds
    obtain ⟨text, hcontent, hfits, hs₁⟩ := (addContent_ok hroom).mp hadd
    refine ⟨⟨text, isText (py "stop")
      ((PyJson.dict members).get? (py "finish_reason"))⟩,
      ⟨husage, members, hchoices, index_iff.mp hindex,
        finishes_iff.mp ⟨hfinish, rfl⟩, delta, hdelta, noneOr_ok.mp hrole,
        hcalls, hcall, haudio, hrefusal, hcontent⟩, hfits, ?_⟩
    cases hs'
    rw [hs₁, hstop, Bool.false_or]
  · intro h
    obtain ⟨c, htold, hfits, hs'⟩ := h
    obtain ⟨members, hchoices, hindex, hfinish, delta, hdelta, htext⟩ :=
      htold.choice
    obtain ⟨hfinish, hstops⟩ := finishes_iff.mpr hfinish
    rw [hs']
    refine ⟨htold.usage, members, hchoices, index_iff.mpr hindex, hfinish,
      ⟨delta, hdelta⟩, ?_⟩
    rw [hdelta, Option.getD_some]
    refine ⟨noneOr_ok.mpr htext.role, ⟨⟨⟨htext.calls, htext.call⟩,
      htext.audio⟩, htext.refusal⟩, bind_ok.mpr ⟨_, (addContent_ok
        hroom).mpr ⟨c.text, htext.content, hfits, rfl⟩, ?_⟩⟩
    rw [hstop, Bool.false_or, hstops]

/-- The usage, after a choice that stops and once. -/
theorem usageEvent_ok {s s' : SseState} {document : PyJson}
    (hchoices : document.get? (py "choices") = some (.list [])) :
    usageEvent profile s document = .ok s'
      ↔ s.stop = true ∧ s.usage = none ∧ ∃ prompt completion,
        SaysUsage profile document prompt completion
          ∧ s' = { s with usage := some (prompt, completion) } := by
  unfold usageEvent
  simp only [require_bind, Bool.and_eq_true, Option.isNone_iff_eq_none,
    isDict_iff, and_assoc]
  refine and_congr_right fun _ => and_congr_right fun _ => ?_
  constructor
  · intro h
    obtain ⟨⟨members, husage⟩, hrest⟩ := h
    rw [husage, Option.getD_some] at hrest
    obtain ⟨⟨prompt, completion⟩, hcounts, hs'⟩ := bind_ok.mp hrest
    obtain ⟨hp, hc, ht, htotal, hfits⟩ := usageCounts_ok.mp hcounts
    cases hs'
    exact ⟨prompt, completion, ⟨hchoices, ⟨members, husage, hp, hc, ht⟩,
      htotal, hfits⟩, rfl⟩
  · intro h
    obtain ⟨prompt, completion, htold, hs'⟩ := h
    obtain ⟨members, husage, hp, hc, ht⟩ := htold.usage
    refine ⟨⟨members, husage⟩, ?_⟩
    rw [husage, Option.getD_some, hs']
    exact bind_ok.mpr ⟨_, usageCounts_ok.mpr
      ⟨hp, hc, ht, htold.total, htold.completion⟩, rfl⟩

/-- `[DONE]` is no document. -/
theorem doneData_unread (stack : Nat) (document : PyJson) :
    strictJsonObject stack maxLine doneData ≠ .ok document := by
  intro h
  have hbytes : doneData.toByteArray.utf8Decode?
      = some "[DONE]".toList.toArray := by decide +kernel
  unfold strictJsonObject at h
  rw [hbytes] at h
  cases stack with
  | zero => cases h
  | succ stack => cases h

/-- The next document is of the answer `identity`. -/
def taken (s : SseState) (identity : PyStr) : SseState :=
  { s with events := s.events + 1, identity := some identity }

/-- What an event that is not `[DONE]` has to be. -/
theorem event_document {s s' : SseState} {payload : List UInt8}
    (hdone : payload ≠ doneData) :
    event env profile s payload = .ok s'
      ↔ s.events + 1 ≤ 16384 ∧ ∃ document identity,
        strictJsonObject env.stack maxLine payload = .ok document
          ∧ IsChunk profile identity document
          ∧ (s.identity = none ∨ s.identity = some identity)
          ∧ (if isEmptyList (document.get? (py "choices")) then
              usageEvent profile (taken s identity) document
            else choiceEvent (taken s identity) document) = .ok s' := by
  unfold event
  rw [require_bind, decide_eq_true_iff]
  refine and_congr_right fun _ => ?_
  rw [if_neg (show payload ≠ utf8 "[DONE]".toList from hdone), bind_ok]
  constructor
  · intro h
    obtain ⟨document, hread, hrest⟩ := h
    obtain ⟨identity, hidentity, hrest⟩ := bind_ok.mp hrest
    obtain ⟨hchunk, hsame⟩ := identityOf_ok.mp hidentity
    exact ⟨document, identity, hread, hchunk, hsame, hrest⟩
  · intro h
    obtain ⟨document, identity, hread, hchunk, hsame, hrest⟩ := h
    exact ⟨document, hread, bind_ok.mpr
      ⟨identity, identityOf_ok.mpr ⟨hchunk, hsame⟩, hrest⟩⟩

/-- Before a choice that stops, only choices come. -/
theorem event_choice_iff {s s' : SseState} {payload : List UInt8}
    (hdone : payload ≠ doneData) (hstop : s.stop = false)
    (hroom : s.content.length ≤ maxProviderOutputBytes) :
    event env profile s payload = .ok s'
      ↔ s.events + 1 ≤ 16384 ∧ ∃ identity c,
        IsChoice env profile identity payload c
          ∧ (s.identity = none ∨ s.identity = some identity)
          ∧ (s.content ++ c.text).length ≤ maxProviderOutputBytes
          ∧ s' = { taken s identity with
              content := s.content ++ c.text, stop := c.stops } := by
  rw [event_document hdone]
  refine and_congr_right fun _ => ?_
  constructor
  · intro h
    obtain ⟨document, identity, hread, hchunk, hsame, hrest⟩ := h
    by_cases hempty : isEmptyList (document.get? (py "choices")) = true
    · rw [if_pos hempty, usageEvent_ok (isEmptyList_iff.mp hempty)] at hrest
      exact absurd (hstop.symm.trans hrest.1) Bool.false_ne_true
    · rw [if_neg hempty] at hrest
      obtain ⟨c, htold, hfits, hs'⟩ := (choiceEvent_ok
        (s := taken s identity) hstop hroom).mp hrest
      exact ⟨identity, c, ⟨document, hread, hchunk, htold⟩, hsame, hfits,
        hs'⟩
  · intro h
    obtain ⟨identity, c, hchoice, hsame, hfits, hs'⟩ := h
    obtain ⟨document, hread, hchunk, htold⟩ := hchoice
    refine ⟨document, identity, hread, hchunk, hsame, ?_⟩
    obtain ⟨members, hchoices, _⟩ := htold.choice
    rw [if_neg (by rw [hchoices]; exact Bool.false_ne_true)]
    exact (choiceEvent_ok (s := taken s identity) hstop hroom).mpr
      ⟨c, htold, hfits, hs'⟩

/-- After it, only the usage does. -/
theorem event_usage_iff {s s' : SseState} {payload : List UInt8}
    (hdone : payload ≠ doneData) (hstop : s.stop = true) :
    event env profile s payload = .ok s'
      ↔ s.events + 1 ≤ 16384 ∧ s.usage = none
        ∧ ∃ identity prompt completion,
          IsUsage env profile identity payload prompt completion
            ∧ (s.identity = none ∨ s.identity = some identity)
            ∧ s' = { taken s identity with
                usage := some (prompt, completion) } := by
  rw [event_document hdone]
  refine and_congr_right fun _ => ?_
  constructor
  · intro h
    obtain ⟨document, identity, hread, hchunk, hsame, hrest⟩ := h
    by_cases hempty : isEmptyList (document.get? (py "choices")) = true
    · rw [if_pos hempty, usageEvent_ok (isEmptyList_iff.mp hempty)] at hrest
      obtain ⟨_, husage, prompt, completion, htold, hs'⟩ := hrest
      exact ⟨husage, identity, prompt, completion,
        ⟨document, hread, hchunk, htold⟩, hsame, hs'⟩
    · rw [if_neg hempty, choiceEvent, require_bind] at hrest
      have horder := hrest.1
      rw [show (taken s identity).stop = true from hstop] at horder
      exact absurd horder Bool.false_ne_true
  · intro h
    obtain ⟨husage, identity, prompt, completion, htold, hsame, hs'⟩ := h
    obtain ⟨document, hread, hchunk, htold⟩ := htold
    refine ⟨document, identity, hread, hchunk, hsame, ?_⟩
    rw [if_pos (isEmptyList_iff.mpr htold.choices),
      usageEvent_ok htold.choices]
    exact ⟨hstop, husage, prompt, completion, htold, hs'⟩

theorem event_done_iff {s s' : SseState} :
    event env profile s doneData = .ok s'
      ↔ s.events + 1 ≤ 16384 ∧ s.stop = true ∧ s.usage.isSome = true
        ∧ s' = { s with events := s.events + 1, done := true } := by
  unfold event
  rw [require_bind, decide_eq_true_iff]
  refine and_congr_right fun _ => ?_
  rw [if_pos (show doneData = utf8 "[DONE]".toList from rfl), require_bind,
    Bool.and_eq_true, and_assoc]
  refine and_congr_right fun _ => and_congr_right fun _ => ?_
  constructor
  · intro h
    cases h
    rfl
  · intro h
    rw [h]

-- ============================================================ all events

theorem not_isAnswer_nil {a : Answer} : ¬ IsAnswer env profile [] a := by
  intro h
  obtain ⟨_, choices, usage, hpayloads, _⟩ := h
  exact List.append_ne_nil_of_right_ne_nil _ (List.cons_ne_nil _ _)
    hpayloads.symm

theorem lastStops_cons {c : Choice} {choices : List Choice} :
    LastStops (c :: choices)
      ↔ (c.stops = true ∧ choices = [])
        ∨ (c.stops = false ∧ LastStops choices) := by
  constructor
  · intro h
    obtain ⟨front, last, hsplit, hlast, hfront⟩ := h
    cases front with
    | nil =>
        cases hsplit
        exact .inl ⟨hlast, rfl⟩
    | cons d front =>
        rw [List.cons_append] at hsplit
        injection hsplit with hhead htail
        rw [List.forall_mem_cons] at hfront
        rw [hhead]
        exact .inr ⟨hfront.1, front, last, htail, hlast, hfront.2⟩
  · intro h
    rcases h with ⟨hstops, hnil⟩ | ⟨hgoes, front, last, hsplit, hlast, hfront⟩
    · rw [hnil]
      exact ⟨[], c, rfl, hstops, fun d hd => absurd hd List.not_mem_nil⟩
    · rw [hsplit]
      exact ⟨c :: front, last, rfl, hlast,
        List.forall_mem_cons.mpr ⟨hgoes, hfront⟩⟩

/-- An answer, by its first event. -/
theorem isAnswer_cons {payload : List UInt8} {payloads : List (List UInt8)}
    {a : Answer} :
    IsAnswer env profile (payload :: payloads) a
      ↔ ∃ c choices, a.choices = c :: choices
        ∧ IsChoice env profile a.identity payload c
        ∧ ((c.stops = true ∧ choices = [] ∧ ∃ usage, payloads = [usage]
            ∧ IsUsage env profile a.identity usage a.prompt a.completion)
          ∨ (c.stops = false
            ∧ IsAnswer env profile payloads { a with choices := choices })) := by
  constructor
  · intro h
    obtain ⟨hlast, events, usage, hpayloads, hchoices, husage⟩ := h
    cases hall : a.choices with
    | nil =>
        obtain ⟨front, last, hsplit, _⟩ := hlast
        rw [hall] at hsplit
        exact absurd hsplit.symm
          (List.append_ne_nil_of_right_ne_nil _ (List.cons_ne_nil _ _))
    | cons c choices =>
        rw [hall] at hchoices hlast
        cases hchoices with
        | @cons event _ events _ hfirst hrest =>
            rw [List.cons_append] at hpayloads
            injection hpayloads with hhead htail
            rw [← hhead] at hfirst
            refine ⟨c, choices, rfl, hfirst, ?_⟩
            rcases lastStops_cons.mp hlast with ⟨hstops, hnil⟩ | ⟨hgoes, hlast⟩
            · left
              rw [hnil] at hrest
              cases hrest
              exact ⟨hstops, hnil, usage, htail, husage⟩
            · right
              exact ⟨hgoes, hlast, events, usage, htail, hrest, husage⟩
  · intro h
    obtain ⟨c, choices, hall, hfirst, hrest⟩ := h
    unfold IsAnswer
    rw [hall]
    rcases hrest with ⟨hstops, hnil, usage, htail, husage⟩
      | ⟨hgoes, hlast, events, usage, htail, hevents, husage⟩
    · rw [hnil, htail]
      exact ⟨lastStops_cons.mpr (.inl ⟨hstops, rfl⟩), [payload], usage, rfl,
        .cons hfirst .nil, husage⟩
    · rw [htail]
      exact ⟨lastStops_cons.mpr (.inr ⟨hgoes, hlast⟩), payload :: events,
        usage, rfl, .cons hfirst hevents, husage⟩

variable (env profile) in
/-- Dispatch the gathered data. -/
def dispatch (s : SseState) (data : List (List UInt8)) :
    Except Raised SseState := do
  let s ← event env profile { s with data := data } (joinData data)
  .ok { s with data := [] }

theorem dispatch_ok {s s' : SseState} {data : List (List UInt8)} :
    dispatch env profile s data = .ok s'
      ↔ ∃ t, event env profile { s with data := data } (joinData data)
          = .ok t ∧ s' = { t with data := [] } := by
  unfold dispatch
  rw [bind_ok]
  constructor
  · intro h
    obtain ⟨t, hevent, hs'⟩ := h
    cases hs'
    exact ⟨t, hevent, rfl⟩
  · intro h
    obtain ⟨t, hevent, hs'⟩ := h
    exact ⟨t, hevent, by rw [hs']⟩

/-- Where a choice leaves the decoder. -/
def chosen (s : SseState) (identity : PyStr) (c : Choice) : SseState :=
  { taken s identity with
    data := [], content := s.content ++ c.text, stop := c.stops }

theorem dispatch_choice_iff {s s' : SseState} {data : List (List UInt8)}
    (hdone : joinData data ≠ doneData) (hstop : s.stop = false)
    (hroom : s.content.length ≤ maxProviderOutputBytes) :
    dispatch env profile s data = .ok s'
      ↔ s.events + 1 ≤ 16384 ∧ ∃ identity c,
        IsChoice env profile identity (joinData data) c
          ∧ (s.identity = none ∨ s.identity = some identity)
          ∧ (s.content ++ c.text).length ≤ maxProviderOutputBytes
          ∧ s' = chosen s identity c := by
  rw [dispatch_ok]
  constructor
  · intro h
    obtain ⟨t, hevent, hs'⟩ := h
    obtain ⟨hcount, identity, c, hchoice, hsame, hfits, ht⟩ :=
      (event_choice_iff (s := { s with data := data }) hdone hstop
        hroom).mp hevent
    exact ⟨hcount, identity, c, hchoice, hsame, hfits, by rw [hs', ht]; rfl⟩
  · intro h
    obtain ⟨hcount, identity, c, hchoice, hsame, hfits, hs'⟩ := h
    exact ⟨_, (event_choice_iff (s := { s with data := data }) hdone hstop
      hroom).mpr ⟨hcount, identity, c, hchoice, hsame, hfits, rfl⟩, hs'⟩

theorem dispatch_usage_iff {s s' : SseState} {data : List (List UInt8)}
    (hdone : joinData data ≠ doneData) (hstop : s.stop = true) :
    dispatch env profile s data = .ok s'
      ↔ s.events + 1 ≤ 16384 ∧ s.usage = none
        ∧ ∃ identity prompt completion,
          IsUsage env profile identity (joinData data) prompt completion
            ∧ (s.identity = none ∨ s.identity = some identity)
            ∧ s' = { taken s identity with
                data := [], usage := some (prompt, completion) } := by
  rw [dispatch_ok]
  constructor
  · intro h
    obtain ⟨t, hevent, hs'⟩ := h
    obtain ⟨hcount, husage, identity, prompt, completion, htold, hsame,
      ht⟩ := (event_usage_iff (s := { s with data := data }) hdone
        hstop).mp hevent
    exact ⟨hcount, husage, identity, prompt, completion, htold, hsame,
      by rw [hs', ht]; rfl⟩
  · intro h
    obtain ⟨hcount, husage, identity, prompt, completion, htold, hsame,
      hs'⟩ := h
    exact ⟨_, (event_usage_iff (s := { s with data := data }) hdone
      hstop).mpr ⟨hcount, husage, identity, prompt, completion, htold,
        hsame, rfl⟩, hs'⟩

/-- Where an answer of `n` events leaves the decoder. -/
def answered (s : SseState) (a : Answer) (n : Nat) : SseState :=
  { data := []
    content := s.content ++ a.content
    identity := some a.identity
    stop := true
    usage := some (a.prompt, a.completion)
    done := s.done
    events := s.events + n }

/-- After the last choice, the events are the usage alone. -/
theorem usage_ok {s s' : SseState} {events : List (List (List UInt8))}
    (hdone : ∀ data ∈ events, joinData data ≠ doneData)
    (hstop : s.stop = true) (husage : s.usage = none) :
    events.foldlM (dispatch env profile) s = .ok s'
        ∧ s'.usage.isSome = true
      ↔ s.events + 1 ≤ 16384 ∧ ∃ usage identity prompt completion,
        events.map joinData = [usage]
          ∧ IsUsage env profile identity usage prompt completion
          ∧ (s.identity = none ∨ s.identity = some identity)
          ∧ s' = { taken s identity with
              data := [], usage := some (prompt, completion) } := by
  cases events with
  | nil =>
      constructor
      · intro h
        cases h.1
        rw [husage] at h
        cases h.2
      · intro h
        obtain ⟨_, usage, identity, prompt, completion, hnil, _⟩ := h
        cases hnil
  | cons data events =>
      rw [List.forall_mem_cons] at hdone
      rw [List.foldlM_cons, bind_ok]
      constructor
      · intro h
        obtain ⟨⟨s₁, hfirst, hrest⟩, _⟩ := h
        obtain ⟨hcount, _, identity, prompt, completion, htold, hsame, hs⟩ :=
          (dispatch_usage_iff hdone.1 hstop).mp hfirst
        cases events with
        | nil =>
            cases hrest
            exact ⟨hcount, _, identity, prompt, completion, rfl, htold,
              hsame, hs⟩
        | cons late events =>
            exfalso
            rw [List.foldlM_cons, bind_ok] at hrest
            obtain ⟨s₂, hlate, _⟩ := hrest
            have hlate := ((dispatch_usage_iff
              (hdone.2 _ List.mem_cons_self)
              (by rw [hs]; exact hstop)).mp hlate).2.1
            rw [hs] at hlate
            cases hlate
      · intro h
        obtain ⟨hcount, usage, identity, prompt, completion, hevents, htold,
          hsame, hs'⟩ := h
        injection hevents with hhead htail
        rw [List.map_eq_nil_iff] at htail
        rw [← hhead] at htold
        refine ⟨⟨s', (dispatch_usage_iff hdone.1 hstop).mpr ⟨hcount, husage,
          identity, prompt, completion, htold, hsame, hs'⟩, ?_⟩, ?_⟩
        · rw [htail]
          rfl
        · rw [hs']
          rfl

/-- The three phases: choices, the one that stops, and the usage. -/
theorem answer_ok {s s' : SseState} {events : List (List (List UInt8))}
    (hdone : ∀ data ∈ events, joinData data ≠ doneData)
    (hstop : s.stop = false) (husage : s.usage = none)
    (hroom : s.content.length ≤ maxProviderOutputBytes) :
    events.foldlM (dispatch env profile) s = .ok s'
        ∧ s'.usage.isSome = true
      ↔ s.events + events.length ≤ 16384 ∧ ∃ a,
        IsAnswer env profile (events.map joinData) a
          ∧ (s.identity = none ∨ s.identity = some a.identity)
          ∧ (s.content ++ a.content).length ≤ maxProviderOutputBytes
          ∧ s' = answered s a events.length := by
  induction events generalizing s with
  | nil =>
      constructor
      · intro h
        cases h.1
        rw [husage] at h
        cases h.2
      · intro h
        obtain ⟨_, a, hanswer, _⟩ := h
        exact absurd hanswer not_isAnswer_nil
  | cons data events ih =>
      rw [List.forall_mem_cons] at hdone
      rw [List.foldlM_cons, bind_ok, List.map_cons, List.length_cons]
      constructor
      · intro h
        obtain ⟨⟨s₁, hfirst, hrest⟩, hsome⟩ := h
        obtain ⟨hcount, identity, c, hchoice, hsame, hfits, hs⟩ :=
          (dispatch_choice_iff hdone.1 hstop hroom).mp hfirst
        have hidentity : s₁.identity = some identity := by rw [hs]; rfl
        have hevents : s₁.events = s.events + 1 := by rw [hs]; rfl
        have hcontent : s₁.content = s.content ++ c.text := by rw [hs]; rfl
        by_cases hstops : c.stops = true
        · obtain ⟨hcount, usage, other, prompt, completion, hpayload, htold,
            hother, hs'⟩ := (usage_ok hdone.2 (by rw [hs]; exact hstops)
              (by rw [hs]; exact husage)).mp ⟨hrest, hsome⟩
          rw [hidentity] at hother
          have heq : identity = other :=
            Option.some.inj (hother.resolve_left (Option.some_ne_none _))
          have hone : events.length = 1 := by
            rw [← List.length_map joinData, hpayload]
            rfl
          refine ⟨by omega, ⟨identity, [c], prompt, completion⟩, ?_, hsame,
            ?_, ?_⟩
          · refine isAnswer_cons.mpr ⟨c, [], rfl, hchoice, .inl ⟨hstops,
              rfl, usage, hpayload, ?_⟩⟩
            rw [heq]
            exact htold
          · show (s.content ++ [c].flatMap Choice.text).length ≤ _
            rw [List.flatMap_singleton]
            exact hfits
          · rw [hs', hs, hone, heq]
            simp only [answered, chosen, taken, Answer.content,
              List.flatMap_singleton, hstops]
        · rw [Bool.not_eq_true] at hstops
          obtain ⟨hcount, a, hanswer, hother, hlong, hs'⟩ := (ih hdone.2
            (by rw [hs]; exact hstops) (by rw [hs]; exact husage)
            (by rw [hcontent]; exact hfits)).mp ⟨hrest, hsome⟩
          rw [hidentity] at hother
          have heq : identity = a.identity :=
            Option.some.inj (hother.resolve_left (Option.some_ne_none _))
          refine ⟨by omega, { a with choices := c :: a.choices }, ?_, ?_, ?_,
            ?_⟩
          · refine isAnswer_cons.mpr ⟨c, a.choices, rfl, ?_, .inr ⟨hstops,
              hanswer⟩⟩
            rw [← heq]
            exact hchoice
          · rw [← heq]
            exact hsame
          · show (s.content ++ (c :: a.choices).flatMap Choice.text).length
              ≤ _
            rw [List.flatMap_cons, ← List.append_assoc, ← hcontent]
            exact hlong
          · rw [hs', hs]
            simp only [answered, chosen, taken, Answer.content, List.flatMap_cons,
              List.append_assoc]
            rw [Nat.add_assoc, Nat.add_comm 1]
      · intro h
        obtain ⟨hcount, a, hanswer, hsame, hfits, hs'⟩ := h
        obtain ⟨c, choices, hall, hchoice, hrest⟩ := isAnswer_cons.mp hanswer
        have hcontent : a.content = c.text ++ choices.flatMap Choice.text := by
          show a.choices.flatMap Choice.text = _
          rw [hall, List.flatMap_cons]
        have hfirst : (s.content ++ c.text).length
            ≤ maxProviderOutputBytes := by
          rw [hcontent, ← List.append_assoc, List.length_append] at hfits
          omega
        have hdispatch : dispatch env profile s data
            = .ok (chosen s a.identity c) :=
          (dispatch_choice_iff hdone.1 hstop hroom).mpr ⟨by omega,
            a.identity, c, hchoice, hsame, hfirst, rfl⟩
        have hrest : events.foldlM (dispatch env profile)
              (chosen s a.identity c) = .ok s'
            ∧ s'.usage.isSome = true := by
          rcases hrest with ⟨hstops, hnil, usage, hpayload, htold⟩
            | ⟨hgoes, hanswer⟩
          · have hone : events.length = 1 := by
              rw [← List.length_map joinData, hpayload]
              rfl
            refine (usage_ok (s := chosen s a.identity c) hdone.2 hstops
              husage).mpr ⟨?_, usage, a.identity, a.prompt, a.completion,
                hpayload, htold, .inr rfl, ?_⟩
            · show s.events + 1 + 1 ≤ _
              omega
            · rw [hs', hone]
              simp only [answered, chosen, taken, hcontent, hnil, hstops,
                List.flatMap_nil, List.append_nil]
          · refine (ih (s := chosen s a.identity c) hdone.2 hgoes husage
              hfirst).mpr ⟨?_, { a with choices := choices }, hanswer,
                .inr rfl, ?_, ?_⟩
            · show s.events + 1 + _ ≤ _
              omega
            · show (s.content ++ c.text
                ++ choices.flatMap Choice.text).length ≤ _
              rw [List.append_assoc, ← hcontent]
              exact hfits
            · rw [hs']
              simp only [answered, chosen, taken, Answer.content, hall,
                List.flatMap_cons, List.append_assoc]
              rw [Nat.add_assoc, Nat.add_comm 1]
        exact ⟨⟨_, hdispatch, hrest.1⟩, hrest.2⟩

-- ============================================================== one line

theorem flush_ok {s s' : SseState} :
    flush env profile s = .ok s'
      ↔ (s.data = [] ∧ s' = s)
        ∨ (s.data ≠ [] ∧ dispatch env profile s s.data = .ok s') := by
  unfold flush
  by_cases hdata : s.data = []
  · rw [if_pos hdata]
    constructor
    · intro h
      cases h
      exact .inl ⟨hdata, rfl⟩
    · intro h
      rcases h with h | h
      · rw [h.2]
      · exact absurd hdata h.1
  · rw [if_neg hdata]
    constructor
    · intro h
      exact .inr ⟨hdata, h⟩
    · intro h
      rcases h with h | h
      · exact absurd h.1 hdata
      · exact h.2

theorem line_blank (s : SseState) :
    line env profile s [] = flush env profile s := by
  unfold line
  rw [if_neg (by simp), if_pos rfl]

/-- Behind `[DONE]` a line is blank. -/
theorem line_late {s s' : SseState} {raw : List UInt8}
    (hdone : s.done = true) (h : line env profile s raw = .ok s') :
    raw = [] := by
  by_contra hraw
  unfold line at h
  rw [if_neg hraw, hdone, if_pos rfl] at h
  by_cases hlong : maxLine < raw.length
  · rw [if_pos hlong] at h
    cases h
  · rw [if_neg hlong] at h
    cases h

/-- Before it, a line that is not blank is a comment or data. -/
theorem line_ok {s s' : SseState} {raw : List UInt8} (hraw : raw ≠ [])
    (hopen : s.done = false) :
    line env profile s raw = .ok s'
      ↔ raw.length ≤ maxLine
        ∧ ((isComment raw = true ∧ s' = s)
          ∨ (isComment raw = false ∧ isData raw = true
            ∧ dataSize (s.data ++ [fieldData raw]) ≤ maxLine
            ∧ s' = { s with data := s.data ++ [fieldData raw] })) := by
  have hline : line env profile s raw
      = if maxLine < raw.length then providerError "executor_sse_line_size"
        else if isComment raw then .ok s
        else if !isData raw then providerError "executor_sse_field"
        else if maxLine < dataSize (s.data ++ [fieldData raw]) then
          providerError "executor_sse_event_size"
        else .ok { s with data := s.data ++ [fieldData raw] } := by
    unfold line
    rw [if_neg hraw, hopen, if_neg Bool.false_ne_true]
    rfl
  rw [hline]
  by_cases hlong : maxLine < raw.length
  · rw [if_pos hlong]
    constructor
    · intro h
      cases h
    · intro h
      omega
  rw [if_neg hlong, and_iff_right (Nat.le_of_not_lt hlong)]
  by_cases hcomment : isComment raw = true
  · rw [if_pos hcomment, hcomment]
    constructor
    · intro h
      cases h
      exact .inl ⟨rfl, rfl⟩
    · intro h
      rcases h with h | h
      · rw [h.2]
      · cases h.1
  rw [if_neg hcomment]
  by_cases hfield : isData raw = true
  · rw [hfield, if_neg (by decide)]
    by_cases hsize : maxLine < dataSize (s.data ++ [fieldData raw])
    · rw [if_pos hsize]
      constructor
      · intro h
        cases h
      · intro h
        rcases h with h | h
        · exact absurd h.1 hcomment
        · omega
    · rw [if_neg hsize]
      constructor
      · intro h
        cases h
        exact .inr ⟨Bool.not_eq_true _ ▸ hcomment, rfl,
          Nat.le_of_not_lt hsize, rfl⟩
      · intro h
        rcases h with h | h
        · exact absurd h.1 hcomment
        · rw [h.2.2.2]
  · rw [Bool.not_eq_true] at hfield
    rw [hfield, Bool.not_false, if_pos rfl]
    constructor
    · intro h
      cases h
    · intro h
      rcases h with h | h
      · exact absurd h.1 hcomment
      · cases h.2.1

-- ----------------------------------------------- the end of the events

theorem addContent_done {s s' : SseState} {content : Option PyJson}
    (h : addContent s content = .ok s') : s'.done = s.done := by
  unfold addContent at h
  split at h
  case h_1 said =>
      cases hencode : said.encode? with
      | none =>
          rw [hencode] at h
          cases h
      | some encoded =>
          rw [hencode] at h
          by_cases hlong : maxProviderOutputBytes
              < (s.content ++ encoded).length
          · simp only [if_pos hlong] at h
            cases h
          · simp only [if_neg hlong] at h
            cases h
            rfl
  case h_2 =>
      by_cases hnone : isNone content = true
      · rw [if_pos hnone] at h
        cases h
        rfl
      · rw [if_neg hnone] at h
        cases h

theorem choiceEvent_done {s s' : SseState} {document : PyJson}
    (h : choiceEvent s document = .ok s') : s'.done = s.done := by
  unfold choiceEvent at h
  simp only [require_bind, noneOr_bind, onlyChoice_bind] at h
  obtain ⟨_, _, _, _, _, _, _, _, hadds⟩ := h
  obtain ⟨t, hadd, hs'⟩ := bind_ok.mp hadds
  cases hs'
  have hsame : t.done = s.done := addContent_done hadd
  exact hsame

/-- Only `[DONE]` ends the events. -/
theorem dispatch_open {s s' : SseState} {data : List (List UInt8)}
    (hdata : joinData data ≠ doneData)
    (h : dispatch env profile s data = .ok s') : s'.done = s.done := by
  obtain ⟨t, hevent, hs'⟩ := dispatch_ok.mp h
  obtain ⟨_, document, identity, _, _, _, hrest⟩ :=
    (event_document hdata).mp hevent
  rw [hs']
  by_cases hempty : isEmptyList (document.get? (py "choices")) = true
  · rw [if_pos hempty, usageEvent_ok (isEmptyList_iff.mp hempty)] at hrest
    obtain ⟨_, _, _, _, _, ht⟩ := hrest
    rw [ht]
    rfl
  · rw [if_neg hempty] at hrest
    have hsame := choiceEvent_done hrest
    exact hsame

theorem dispatch_done_iff {s s' : SseState} {data : List (List UInt8)}
    (hdata : joinData data = doneData) :
    dispatch env profile s data = .ok s'
      ↔ s.events + 1 ≤ 16384 ∧ s.stop = true ∧ s.usage.isSome = true
        ∧ s' = { s with data := [], events := s.events + 1, done := true } := by
  rw [dispatch_ok, hdata]
  constructor
  · intro h
    obtain ⟨t, hevent, hs'⟩ := h
    obtain ⟨hcount, hstop, husage, ht⟩ := event_done_iff.mp hevent
    exact ⟨hcount, hstop, husage, by rw [hs', ht]⟩
  · intro h
    obtain ⟨hcount, hstop, husage, hs'⟩ := h
    exact ⟨_, event_done_iff.mpr ⟨hcount, hstop, husage, rfl⟩, hs'⟩

/-- A decoder that is done stays so. -/
theorem line_done {s s' : SseState} {raw : List UInt8}
    (hdone : s.done = true) (h : line env profile s raw = .ok s') :
    s'.done = true := by
  rw [line_late hdone h, line_blank] at h
  rcases flush_ok.mp h with ⟨_, hs'⟩ | ⟨_, hdispatch⟩
  · rw [hs']
    exact hdone
  · by_cases hdata : joinData s.data = doneData
    · rw [((dispatch_done_iff hdata).mp hdispatch).2.2.2]
    · rw [dispatch_open hdata hdispatch]
      exact hdone

-- ============================================================= all lines

theorem gather_blank {data lines last : List (List UInt8)}
    {events : List (List (List UInt8))} :
    gather data ([] :: lines) = some (events, last)
      ↔ ∃ more, gather [] lines = some (more, last)
        ∧ events = if data = [] then more else data :: more := by
  rw [gather, if_pos rfl, Option.map_eq_some_iff]
  constructor
  · intro h
    obtain ⟨⟨more, gathered⟩, hmore, heq⟩ := h
    cases heq
    exact ⟨more, hmore, rfl⟩
  · intro h
    obtain ⟨more, hmore, hevents⟩ := h
    exact ⟨(more, last), hmore, by rw [hevents]⟩

theorem gather_comment {data lines : List (List UInt8)} {raw : List UInt8}
    (hraw : raw ≠ []) (hcomment : isComment raw = true) :
    gather data (raw :: lines) = gather data lines := by
  rw [gather, if_neg hraw, if_pos hcomment]

theorem gather_data {data lines : List (List UInt8)} {raw : List UInt8}
    (hraw : raw ≠ []) (hcomment : isComment raw = false)
    (hdata : isData raw = true) :
    gather data (raw :: lines) = gather (data ++ [fieldData raw]) lines := by
  rw [gather, if_neg hraw, hcomment, if_neg Bool.false_ne_true, if_pos hdata]

theorem dataSize_append (data more : List (List UInt8)) :
    dataSize (data ++ more) = dataSize data + dataSize more := by
  unfold dataSize
  rw [List.map_append, List.sum_append]

/-- What is gathered at the start is in the first of the events. -/
theorem gather_size {n : Nat} {data lines last : List (List UInt8)}
    {events : List (List (List UInt8))}
    (h : gather data lines = some (events, last))
    (hfits : ∀ d ∈ events ++ [last], dataSize d ≤ n) : dataSize data ≤ n := by
  induction lines generalizing data events with
  | nil =>
      cases h
      exact hfits _ (List.mem_singleton.mpr rfl)
  | cons raw lines ih =>
      by_cases hraw : raw = []
      · rw [hraw] at h
        obtain ⟨more, _, hevents⟩ := gather_blank.mp h
        by_cases hdata : data = []
        · rw [hdata]
          exact Nat.zero_le _
        · rw [hevents, if_neg hdata] at hfits
          exact hfits _ List.mem_cons_self
      · rw [gather, if_neg hraw] at h
        by_cases hcomment : isComment raw = true
        · rw [if_pos hcomment] at h
          exact ih h hfits
        · rw [if_neg hcomment] at h
          by_cases hfield : isData raw = true
          · rw [if_pos hfield] at h
            have hlonger := ih h hfits
            rw [dataSize_append] at hlonger
            omega
          · rw [if_neg hfield] at h
            cases h

theorem lines_done {s s' : SseState} {lines : List (List UInt8)}
    (hdone : s.done = true)
    (h : lines.foldlM (line env profile) s = .ok s') : s'.done = true := by
  induction lines generalizing s with
  | nil =>
      cases h
      exact hdone
  | cons raw lines ih =>
      rw [List.foldlM_cons] at h
      obtain ⟨t, hfirst, hrest⟩ := bind_ok.mp h
      exact ih (line_done hdone hfirst) hrest

theorem dispatch_data {s s' : SseState} {data : List (List UInt8)}
    (h : dispatch env profile s data = .ok s') : s'.data = [] := by
  obtain ⟨t, _, hs'⟩ := dispatch_ok.mp h
  rw [hs']

theorem cleared {s : SseState} (h : s.data = []) :
    { s with data := [] } = s := by
  rw [← h]

/-- Lines that leave the decoder open dispatch their events. -/
theorem reads_gather {s s' : SseState} {lines : List (List UInt8)}
    (hsize : dataSize s.data ≤ maxLine) (hopen : s.done = false)
    (h : lines.foldlM (line env profile) s = .ok s')
    (hend : s'.done = false) :
    (∀ raw ∈ lines, raw.length ≤ maxLine) ∧ ∃ events,
      gather s.data lines = some (events, s'.data)
        ∧ (∀ d ∈ events ++ [s'.data], dataSize d ≤ maxLine)
        ∧ (∀ d ∈ events, joinData d ≠ doneData)
        ∧ events.foldlM (dispatch env profile) { s with data := [] }
          = .ok { s' with data := [] } := by
  induction lines generalizing s with
  | nil =>
      cases h
      refine ⟨fun raw hraw => absurd hraw List.not_mem_nil, [], rfl, ?_,
        fun d hd => absurd hd List.not_mem_nil, rfl⟩
      intro d hd
      rw [List.nil_append, List.mem_singleton] at hd
      rw [hd]
      exact hsize
  | cons raw lines ih =>
      rw [List.foldlM_cons] at h
      obtain ⟨t, hfirst, hrest⟩ := bind_ok.mp h
      have hstill : t.done = false := by
        by_contra hdone
        rw [Bool.not_eq_false] at hdone
        rw [lines_done hdone hrest] at hend
        cases hend
      rw [List.forall_mem_cons]
      by_cases hraw : raw = []
      · rw [hraw, line_blank] at hfirst
        rw [hraw]
        rcases flush_ok.mp hfirst with ⟨hdata, ht⟩ | ⟨hdata, hdispatch⟩
        · rw [ht] at hrest
          obtain ⟨hfits, events, hgather, hrest⟩ := ih hsize hopen hrest
          rw [hdata] at hgather
          refine ⟨⟨Nat.zero_le _, hfits⟩, events,
            gather_blank.mpr ⟨events, hgather, ?_⟩, hrest⟩
          rw [if_pos hdata]
        · have hcleared := dispatch_data hdispatch
          have hother : joinData s.data ≠ doneData := by
            intro hdone
            rw [((dispatch_done_iff hdone).mp hdispatch).2.2.2] at hstill
            cases hstill
          obtain ⟨hfits, events, hgather, hsizes, hothers, hevents⟩ :=
            ih (by rw [hcleared]; exact Nat.zero_le _) hstill hrest
          rw [hcleared] at hgather
          refine ⟨⟨Nat.zero_le _, hfits⟩, s.data :: events,
            gather_blank.mpr ⟨events, hgather, ?_⟩, ?_, ?_, ?_⟩
          · rw [if_neg hdata]
          · exact List.forall_mem_cons.mpr ⟨hsize, hsizes⟩
          · exact List.forall_mem_cons.mpr ⟨hother, hothers⟩
          · rw [List.foldlM_cons]
            refine bind_ok.mpr ⟨t, hdispatch, ?_⟩
            rw [cleared hcleared] at hevents
            exact hevents
      · obtain ⟨hlength, hfield⟩ := (line_ok hraw hopen).mp hfirst
        rcases hfield with ⟨hcomment, ht⟩ | ⟨hcomment, hdata, hsize, ht⟩
        · rw [ht] at hrest
          obtain ⟨hfits, hevents⟩ := ih hsize hopen hrest
          rw [gather_comment hraw hcomment]
          exact ⟨⟨hlength, hfits⟩, hevents⟩
        · rw [ht] at hrest
          obtain ⟨hfits, hevents⟩ := ih (s := { s with
            data := s.data ++ [fieldData raw] }) hsize hopen hrest
          rw [gather_data hraw hcomment hdata]
          exact ⟨⟨hlength, hfits⟩, hevents⟩

/-- Lines are read as the events they dispatch. -/
theorem gather_reads {s t : SseState} {lines last : List (List UInt8)}
    {events : List (List (List UInt8))} (hopen : s.done = false)
    (hgather : gather s.data lines = some (events, last))
    (hlines : ∀ raw ∈ lines, raw.length ≤ maxLine)
    (hsizes : ∀ d ∈ events ++ [last], dataSize d ≤ maxLine)
    (hothers : ∀ d ∈ events, joinData d ≠ doneData)
    (h : events.foldlM (dispatch env profile) { s with data := [] }
      = .ok t) :
    lines.foldlM (line env profile) s = .ok { t with data := last } := by
  induction lines generalizing s events with
  | nil =>
      cases hgather
      cases h
      rfl
  | cons raw lines ih =>
      rw [List.forall_mem_cons] at hlines
      rw [List.foldlM_cons]
      by_cases hraw : raw = []
      · rw [hraw] at hgather
        obtain ⟨more, hmore, heq⟩ := gather_blank.mp hgather
        rw [hraw, line_blank]
        by_cases hdata : s.data = []
        · rw [if_pos hdata] at heq
          rw [heq] at hsizes hothers h
          refine bind_ok.mpr ⟨s, flush_ok.mpr (.inl ⟨hdata, rfl⟩), ?_⟩
          rw [← hdata] at hmore
          exact ih hopen hmore hlines.2 hsizes hothers h
        · rw [if_neg hdata] at heq
          rw [heq, List.cons_append, List.forall_mem_cons] at hsizes
          rw [heq, List.forall_mem_cons] at hothers
          rw [heq, List.foldlM_cons] at h
          obtain ⟨u, hdispatch, hrest⟩ := bind_ok.mp h
          have hcleared := dispatch_data hdispatch
          refine bind_ok.mpr ⟨u, flush_ok.mpr (.inr ⟨hdata, hdispatch⟩), ?_⟩
          rw [← cleared hcleared] at hrest
          exact ih ((dispatch_open hothers.1 hdispatch).trans hopen)
            (by rw [hcleared]; exact hmore) hlines.2 hsizes.2 hothers.2 hrest
      · rw [gather, if_neg hraw] at hgather
        by_cases hcomment : isComment raw = true
        · rw [if_pos hcomment] at hgather
          exact bind_ok.mpr ⟨s, (line_ok hraw hopen).mpr ⟨hlines.1,
            .inl ⟨hcomment, rfl⟩⟩, ih hopen hgather hlines.2 hsizes hothers h⟩
        · rw [if_neg hcomment] at hgather
          by_cases hfield : isData raw = true
          · rw [if_pos hfield] at hgather
            have hsize := gather_size hgather hsizes
            rw [Bool.not_eq_true] at hcomment
            exact bind_ok.mpr ⟨_, (line_ok hraw hopen).mpr ⟨hlines.1,
              .inr ⟨hcomment, hfield, hsize, rfl⟩⟩,
              ih (s := { s with data := s.data ++ [fieldData raw] }) hopen
                hgather hlines.2 hsizes hothers h⟩
          · rw [if_neg hfield] at hgather
            cases hgather

-- ============================================================ the ending

/-- Behind `[DONE]`, blank lines change nothing, and others are refused. -/
theorem late_iff {s s' : SseState} {lines : List (List UInt8)}
    (hdone : s.done = true) (hdata : s.data = []) :
    lines.foldlM (line env profile) s = .ok s'
      ↔ (∀ raw ∈ lines, raw = []) ∧ s' = s := by
  have hblank : line env profile s [] = .ok s := by
    rw [line_blank]
    exact flush_ok.mpr (.inl ⟨hdata, rfl⟩)
  induction lines with
  | nil =>
      constructor
      · intro h
        cases h
        exact ⟨fun raw hraw => absurd hraw List.not_mem_nil, rfl⟩
      · intro h
        rw [h.2]
        rfl
  | cons raw lines ih =>
      rw [List.foldlM_cons, List.forall_mem_cons]
      constructor
      · intro h
        obtain ⟨t, hfirst, hrest⟩ := bind_ok.mp h
        have hraw := line_late hdone hfirst
        rw [hraw, hblank] at hfirst
        cases hfirst
        obtain ⟨hlines, hs'⟩ := ih.mp hrest
        exact ⟨⟨hraw, hlines⟩, hs'⟩
      · intro h
        rw [h.1.1, hblank]
        exact ih.mpr ⟨h.1.2, h.2⟩

/-- The blank line that dispatches `[DONE]`. -/
theorem reads_done {s s' : SseState} {lines : List (List UInt8)}
    (hopen : s.done = false)
    (h : lines.foldlM (line env profile) s = .ok s')
    (hend : s'.done = true) :
    ∃ front back t u, lines = front ++ [] :: back
      ∧ front.foldlM (line env profile) s = .ok t ∧ t.done = false
      ∧ dispatch env profile t t.data = .ok u ∧ joinData t.data = doneData
      ∧ back.foldlM (line env profile) u = .ok s' := by
  induction lines generalizing s with
  | nil =>
      cases h
      rw [hopen] at hend
      cases hend
  | cons raw lines ih =>
      rw [List.foldlM_cons] at h
      obtain ⟨t, hfirst, hrest⟩ := bind_ok.mp h
      by_cases hdone : t.done = true
      · have hraw : raw = [] := by
          by_contra hraw
          obtain ⟨_, hfield⟩ := (line_ok hraw hopen).mp hfirst
          rcases hfield with ⟨_, ht⟩ | ⟨_, _, _, ht⟩
          · rw [ht, hopen] at hdone
            cases hdone
          · rw [ht] at hdone
            exact absurd (hopen.symm.trans hdone) Bool.false_ne_true
        rw [hraw, line_blank] at hfirst
        rcases flush_ok.mp hfirst with ⟨_, ht⟩ | ⟨_, hdispatch⟩
        · rw [ht, hopen] at hdone
          cases hdone
        · refine ⟨[], lines, s, t, by rw [hraw]; rfl, rfl, hopen, hdispatch,
            ?_, hrest⟩
          by_contra hdata
          rw [dispatch_open hdata hdispatch, hopen] at hdone
          cases hdone
      · rw [Bool.not_eq_true] at hdone
        obtain ⟨front, back, u, v, hlines, hfront, hrest⟩ := ih hdone hrest
        refine ⟨raw :: front, back, u, v, by rw [hlines]; rfl, ?_, hrest⟩
        rw [List.foldlM_cons]
        exact bind_ok.mpr ⟨t, hfirst, hfront⟩

/-- Only its last line is one more. -/
theorem append_blank {lines front back : List (List UInt8)}
    (h : lines ++ [[]] = front ++ [] :: back)
    (hback : ∀ raw ∈ back, raw = []) :
    ∃ rest, lines = front ++ rest ∧ ∀ raw ∈ rest, raw = [] := by
  rcases List.eq_nil_or_concat back with hnil | ⟨more, raw, hmore⟩
  · rw [hnil] at h
    refine ⟨[], ?_, fun raw hraw => absurd hraw List.not_mem_nil⟩
    rw [List.append_nil]
    exact (List.append_inj' h rfl).1
  · rw [hmore, List.concat_eq_append] at h hback
    have hsplit : lines ++ [[]] = (front ++ [] :: more) ++ [raw] := by
      rw [h, List.append_assoc, List.cons_append]
    refine ⟨[] :: more, (List.append_inj' hsplit rfl).1, ?_⟩
    rw [List.forall_mem_cons]
    exact ⟨rfl, fun line hline => hback line (List.mem_append_left _ hline)⟩

/-- The state an answer and its `[DONE]` leave. -/
def ended (a : Answer) (n : Nat) : SseState :=
  { answered {} a n with events := n + 1, done := true }

/-- The lines of a whole stream, with the blank one `finish` is. -/
theorem whole_dispatches {s' : SseState} {lines : List (List UInt8)}
    (h : (lines ++ [[]]).foldlM (line env profile) {} = .ok s')
    (hend : s'.done = true) :
    ∃ a n, Dispatches env profile lines a
      ∧ a.content.length ≤ maxProviderOutputBytes ∧ s' = ended a n := by
  obtain ⟨front, back, t, u, hlines, hfront, hopen, hdispatch, hlast,
    hback⟩ := reads_done rfl h hend
  obtain ⟨hfits, groups, hgather, hsizes, hothers, hevents⟩ :=
    reads_gather (Nat.zero_le _) rfl hfront hopen
  obtain ⟨hcount, _, husage, hu⟩ := (dispatch_done_iff hlast).mp hdispatch
  obtain ⟨_, a, hanswer, _, hcontent, ht⟩ := (answer_ok hothers rfl rfl
    (Nat.zero_le _)).mp ⟨hevents, husage⟩
  obtain ⟨hblank, hs'⟩ := (late_iff (by rw [hu]) (by rw [hu])).mp hback
  obtain ⟨rest, hsplit, hrest⟩ := append_blank hlines hblank
  have hend : u = ended a groups.length := by
    have hsame : u = { { t with data := [] } with
        events := { t with data := [] }.events + 1, done := true } := hu
    rw [ht] at hsame
    rw [hsame]
    simp only [ended, answered, Nat.zero_add]
  have htotal : t.events = groups.length := by
    have hsame : { t with data := [] }.events = 0 + groups.length := by
      rw [ht]
      rfl
    rw [Nat.zero_add] at hsame
    exact hsame
  rw [htotal] at hcount
  refine ⟨a, groups.length, ⟨⟨front, rest, groups, t.data, hsplit, hrest,
    hgather, hanswer, hlast, hsizes, hcount⟩, ?_⟩, hcontent,
    hs'.trans hend⟩
  intro raw hraw
  rw [hsplit, List.mem_append] at hraw
  rcases hraw with hraw | hraw
  · exact hfits raw hraw
  · rw [hrest raw hraw]
    exact Nat.zero_le _

theorem joinData_ne_done {groups : List (List (List UInt8))} {a : Answer}
    (h : IsAnswer env profile (groups.map joinData) a) :
    ∀ data ∈ groups, joinData data ≠ doneData := by
  obtain ⟨_, choices, usage, hpayloads, hchoices, husage⟩ := h
  have hread : ∀ payload ∈ choices ++ [usage], ∃ document,
      strictJsonObject env.stack maxLine payload = .ok document := by
    intro payload hmem
    rcases List.mem_append.mp hmem with hmem | hmem
    · have hdocuments : List.Forall₂ (fun payload c =>
          (∃ document, strictJsonObject env.stack maxLine payload
            = .ok document) ∧ IsChoice env profile a.identity payload c)
          choices a.choices :=
        hchoices.imp fun _ _ hchoice =>
          ⟨hchoice.imp fun _ hdocument => hdocument.1, hchoice⟩
      exact ((List.forall₂_and_left _ _).mp hdocuments).1 payload hmem
    · obtain ⟨document, hread, _⟩ := husage
      rw [List.mem_singleton] at hmem
      rw [hmem]
      exact ⟨document, hread⟩
  intro data hdata heq
  obtain ⟨document, hread⟩ := hread (joinData data) (by
    rw [← hpayloads]
    exact List.mem_map_of_mem hdata)
  rw [heq] at hread
  exact doneData_unread _ _ hread

/-- Lines that dispatch an answer are read to its end. -/
theorem dispatches_whole {lines : List (List UInt8)} {a : Answer}
    (h : Dispatches env profile lines a)
    (hcontent : a.content.length ≤ maxProviderOutputBytes) :
    ∃ n, (lines ++ [[]]).foldlM (line env profile) {}
      = .ok (ended a n) := by
  obtain ⟨⟨front, back, groups, last, hsplit, hback, hgather, hanswer,
    hlast, hsizes, hcount⟩, hfits⟩ := h
  have hothers := joinData_ne_done hanswer
  have hevents : groups.foldlM (dispatch env profile) {}
      = .ok (answered {} a groups.length) :=
    ((answer_ok (s := {}) hothers rfl rfl (Nat.zero_le _)).mpr
      ⟨by show 0 + _ ≤ _; omega, a, hanswer, .inl rfl, hcontent, rfl⟩).1
  have hfront : front.foldlM (line env profile) {}
      = .ok { answered {} a groups.length with data := last } := by
    refine gather_reads rfl hgather ?_ hsizes hothers hevents
    intro raw hraw
    apply hfits
    rw [hsplit]
    exact List.mem_append_left _ hraw
  have hgathered : last ≠ [] := by
    intro hnil
    rw [hnil] at hlast
    exact absurd hlast (by decide)
  have hdone : line env profile
      { answered {} a groups.length with data := last } []
        = .ok (ended a groups.length) := by
    rw [line_blank]
    refine flush_ok.mpr (.inr ⟨hgathered, (dispatch_done_iff hlast).mpr
      ⟨?_, rfl, rfl, ?_⟩⟩)
    · show 0 + _ + 1 ≤ _
      omega
    · simp only [ended, answered, Nat.zero_add]
  obtain ⟨rest, hrest, hblank⟩ : ∃ rest, back ++ [[]] = [] :: rest
      ∧ ∀ raw ∈ rest, raw = [] := by
    cases back with
    | nil => exact ⟨[], rfl, fun raw hraw => absurd hraw List.not_mem_nil⟩
    | cons raw back =>
        rw [List.forall_mem_cons] at hback
        refine ⟨back ++ [[]], by rw [hback.1]; rfl, ?_⟩
        intro line hline
        rcases List.mem_append.mp hline with hline | hline
        · exact hback.2 line hline
        · exact List.mem_singleton.mp hline
  refine ⟨groups.length, ?_⟩
  rw [hsplit, List.append_assoc, hrest, List.foldlM_append, hfront]
  refine bind_ok.mpr ⟨_, rfl, ?_⟩
  rw [List.foldlM_cons, hdone]
  refine bind_ok.mpr ⟨_, rfl, ?_⟩
  exact (late_iff rfl rfl).mpr ⟨hblank, rfl⟩

-- ============================================================= the chunks

theorem reader_line_ok {s s' : SseState} {raw : List UInt8} :
    (reader env profile).line s raw = (.ok (), s')
      ↔ line env profile s (chomp raw) = .ok s' := by
  simp only [reader]
  cases line env profile s (chomp raw) with
  | error e =>
      constructor
      · intro h
        cases h
      · intro h
        cases h
  | ok t =>
      constructor
      · intro h
        cases h
        rfl
      · intro h
        cases h
        rfl

theorem lines_iff {s s' : SseState} {raws : List (List UInt8)} :
    (reader env profile).Lines s raws s'
      ↔ (raws.map chomp).foldlM (line env profile) s = .ok s'
        ∧ ∀ raw ∈ raws, newline ∉ raw := by
  constructor
  · intro h
    refine ⟨?_, h.newline_not_mem⟩
    induction h with
    | nil => rfl
    | concat _ hline _ ih =>
        rw [List.map_append, List.foldlM_append, ih]
        refine bind_ok.mpr ⟨_, rfl, ?_⟩
        rw [List.map_singleton, List.foldlM_cons]
        exact bind_ok.mpr ⟨_, reader_line_ok.mp hline, rfl⟩
  · intro h
    obtain ⟨hfold, hclean⟩ := h
    induction raws generalizing s with
    | nil =>
        cases hfold
        exact .nil _
    | cons raw raws ih =>
        rw [List.map_cons, List.foldlM_cons] at hfold
        obtain ⟨t, hline, hrest⟩ := bind_ok.mp hfold
        rw [List.forall_mem_cons] at hclean
        exact .cons _ (reader_line_ok.mpr hline) hclean.1
          (ih hrest hclean.2)

/-- The end reads as the pending line and a blank one. -/
theorem close_ok {s s' : SseState} {tail : List UInt8} :
    close env profile s tail = .ok s'
      ↔ ((if tail = [] then [] else [tail]).map chomp ++ [[]]).foldlM
          (line env profile) s = .ok s'
        ∧ s'.done = true ∧ s'.stop = true ∧ s'.usage.isSome = true
        ∧ isBlank s'.content = false := by
  have hends : ∀ t : SseState, (do
      let s ← flush env profile t
      require (s.done && s.stop && s.usage.isSome && !isBlank s.content)
        "executor_sse_incomplete"
      Except.ok s) = Except.ok s'
        ↔ [[]].foldlM (line env profile) t = .ok s'
          ∧ s'.done = true ∧ s'.stop = true ∧ s'.usage.isSome = true
          ∧ isBlank s'.content = false := by
    intro t
    rw [List.foldlM_cons, line_blank, bind_ok, bind_ok]
    constructor
    · intro h
      obtain ⟨u, hflush, hrest⟩ := h
      rw [require_bind] at hrest
      obtain ⟨hflags, hsame⟩ := hrest
      cases hsame
      simp only [Bool.and_eq_true, Bool.not_eq_true', and_assoc] at hflags
      exact ⟨⟨s', hflush, rfl⟩, hflags⟩
    · intro h
      obtain ⟨⟨u, hflush, hsame⟩, hflags⟩ := h
      cases hsame
      refine ⟨s', hflush, require_bind.mpr ⟨?_, rfl⟩⟩
      simp only [Bool.and_eq_true, Bool.not_eq_true', and_assoc]
      exact hflags
  unfold close
  by_cases htail : tail = []
  · rw [if_pos htail, if_pos htail]
    exact hends s
  · rw [if_neg htail, if_neg htail, bind_ok, List.map_singleton,
      List.singleton_append, List.foldlM_cons, bind_ok]
    constructor
    · intro h
      obtain ⟨t, hline, hrest⟩ := h
      obtain ⟨hfold, hflags⟩ := (hends t).mp hrest
      exact ⟨⟨t, hline, hfold⟩, hflags⟩
    · intro h
      obtain ⟨⟨t, hline, hfold⟩, hflags⟩ := h
      exact ⟨t, hline, (hends t).mpr ⟨hfold, hflags⟩⟩

/-- What is returned for an answer. -/
def Answer.result (sha256 : List UInt8 → Factory.Digest)
    (bytes : List UInt8) (a : Answer) : HttpLandingExecutionResult :=
  ⟨a.content, sha256 bytes, 0, a.prompt, a.completion⟩

/-- The bytes of an answer: its lines, read to their end. -/
theorem finish_ok_iff {bytes : List UInt8}
    {result : HttpLandingExecutionResult} :
    (∃ s tail, (reader env profile).consume {} [] bytes = .ok (s, tail)
        ∧ finish env profile ⟨⟨s, tail, bytes.length⟩, bytes⟩
          = .ok result)
      ↔ ∃ lines s', IsText bytes lines
        ∧ (lines ++ [[]]).foldlM (line env profile) {} = .ok s'
        ∧ (s'.done = true ∧ s'.stop = true ∧ s'.usage.isSome = true
          ∧ isBlank s'.content = false)
        ∧ result = ⟨s'.content, env.sha256 bytes, 0,
          (s'.usage.getD (0, 0)).1, (s'.usage.getD (0, 0)).2⟩ := by
  have hwhole : ∀ raws tail : List (List UInt8), (raws.map chomp
      ++ (tail.map chomp ++ [[]])) = (raws ++ tail).map chomp ++ [[]] := by
    intro raws tail
    rw [List.map_append, List.append_assoc]
  have htext : ∀ (raws : List (List UInt8)) (tail : List UInt8),
      raws ++ (if tail = [] then [] else [tail])
        = if tail = [] then raws else raws ++ [tail] := by
    intro raws tail
    by_cases htail : tail = []
    · rw [if_pos htail, if_pos htail, List.append_nil]
    · rw [if_neg htail, if_neg htail]
  constructor
  · intro h
    obtain ⟨s, tail, hconsume, hfinish⟩ := h
    obtain ⟨raws, hlines, hbytes⟩ :=
      LineReader.consume_lines _ List.not_mem_nil hconsume
    have hclean : newline ∉ tail := by
      rw [LineReader.consume_tail _ List.not_mem_nil hconsume]
      exact LineReader.newline_not_mem_tailOf _
    obtain ⟨hfold, hraws⟩ := lines_iff.mp hlines
    obtain ⟨s', hclose, hresult⟩ := bind_ok.mp hfinish
    obtain ⟨hend, hflags⟩ := close_ok.mp hclose
    refine ⟨_, s', ⟨raws, tail, hbytes, hraws, hclean, rfl⟩, ?_, hflags, ?_⟩
    · rw [← htext, ← hwhole, List.foldlM_append, hfold]
      exact hend
    · cases hresult
      rfl
  · intro h
    obtain ⟨lines, s', ⟨raws, tail, hbytes, hraws, hclean, hsplit⟩, hfold,
      hflags, hresult⟩ := h
    rw [hsplit, ← htext, ← hwhole, List.foldlM_append] at hfold
    obtain ⟨s, hfront, hend⟩ := bind_ok.mp hfold
    refine ⟨s, tail, ?_, bind_ok.mpr ⟨s', close_ok.mpr ⟨hend, hflags⟩, ?_⟩⟩
    · rw [hbytes]
      exact (lines_iff.mpr ⟨hfront, hraws⟩).consume _ hclean
    · rw [hresult]

/-- A stream is decoded exactly when it carries one complete answer, and
what is returned is that answer. -/
theorem decode_iff_carries (env : Runtime) (profile : HttpLandingProfile)
    (chunks : List (List UInt8)) (result : HttpLandingExecutionResult) :
    decode env profile chunks = some result
      ↔ ∃ a, Carries env profile chunks a
        ∧ result = a.result env.sha256 chunks.flatten := by
  rw [decode_eq_some, finish_ok_iff]
  constructor
  · intro h
    obtain ⟨⟨hsize, lines, s', htext, hfold, ⟨hdone, _, _, hblank⟩,
      hresult⟩, hpending⟩ := h
    obtain ⟨a, n, hlines, hcontent, hs'⟩ := whole_dispatches hfold hdone
    rw [hs'] at hblank hresult
    exact ⟨a, ⟨hsize, hpending, ⟨lines, htext, hlines⟩, hcontent, hblank⟩,
      hresult⟩
  · intro h
    obtain ⟨a, hcarries, hresult⟩ := h
    obtain ⟨lines, htext, hlines⟩ := hcarries.lines
    obtain ⟨n, hfold⟩ := dispatches_whole hlines hcarries.content
    exact ⟨⟨hcarries.size, lines, _, htext, hfold,
      ⟨rfl, rfl, rfl, hcarries.notBlank⟩, hresult⟩, hcarries.pending⟩

end QwenOmniStreamDecoder

end Exolon.Landing
