/-
Reading lines out of a byte stream that arrives in chunks.

A reader keeps the bytes after the last newline. Each chunk is appended to
them, every completed line is taken off and handed to `line`, and what is
left must not be too long. How the stream was cut must not matter.

`consume` is the loop over the completed lines; it is a function of the
bytes alone, and `consume_append` says that it may stop and go on anywhere.
`feedAll_iff` says what a whole sequence of chunks does by the bytes they
make up together: the cutting is left in one place, the tails that were
measured on the way. Where a line that is accepted was never too long while
it was pending, `feedAll_flatten` has no such condition.
-/
import Mathlib

namespace Exolon

universe u v

/-- The line feed. -/
def newline : UInt8 := 10

/-- What is done with a line, and the bounds of a reader. A line that is
refused may have changed the state before. -/
structure LineReader (σ : Type u) (ε : Type v) where
  line : σ → List UInt8 → Except ε Unit × σ
  maxStream : Nat
  maxTail : Nat
  streamTooLarge : ε
  tailTooLarge : ε

/-- A reader between two chunks. -/
structure Fed (σ : Type u) where
  state : σ
  buffer : List UInt8
  received : Nat

namespace LineReader

variable {σ : Type u} {ε : Type v} (m : LineReader σ ε)

-- ============================================================== the loop

/-- Take the completed lines off the bytes, after `pending` ones that have
been seen. A line that is refused is gone; what follows it is still
there. -/
def consume (s : σ) (pending : List UInt8) :
    List UInt8 → Except (ε × σ × List UInt8) (σ × List UInt8)
  | [] => .ok (s, pending)
  | b :: rest =>
      if b = newline then
        match m.line s pending with
        | (.ok _, s') => consume s' [] rest
        | (.error e, s') => .error (e, s', rest)
      else consume s (pending ++ [b]) rest

/-- One chunk. -/
def feed (r : Fed σ) (chunk : List UInt8) : Except ε Unit × Fed σ :=
  let received := r.received + chunk.length
  if m.maxStream < received then
    (.error m.streamTooLarge, { r with received := received })
  else
    match m.consume r.state [] (r.buffer ++ chunk) with
    | .error (e, s, rest) => (.error e, ⟨s, rest, received⟩)
    | .ok (s, tail) =>
        if m.maxTail < tail.length then
          (.error m.tailTooLarge, ⟨s, tail, received⟩)
        else (.ok (), ⟨s, tail, received⟩)

/-- All the chunks, unless one is refused. -/
def feedAll : Fed σ → List (List UInt8) → Option (Fed σ)
  | r, [] => some r
  | r, chunk :: chunks =>
      match m.feed r chunk with
      | (.ok _, r') => feedAll r' chunks
      | (.error _, _) => none

/-- The bytes after the last newline. -/
def tailOf (bytes : List UInt8) : List UInt8 :=
  (bytes.reverse.takeWhile fun b => b ≠ newline).reverse

-- ================================================================ tails

theorem tailOf_concat_newline (bytes : List UInt8) :
    tailOf (bytes ++ [newline]) = [] := by
  simp [tailOf]

theorem tailOf_concat {b : UInt8} (hb : b ≠ newline) (bytes : List UInt8) :
    tailOf (bytes ++ [b]) = tailOf bytes ++ [b] := by
  simp [tailOf, hb]

/-- Only the last newline counts. -/
theorem tailOf_append_newline (bytes rest : List UInt8) :
    tailOf (bytes ++ newline :: rest) = tailOf rest := by
  induction rest using List.reverseRecOn with
  | nil => exact tailOf_concat_newline bytes
  | append_singleton rest b ih =>
      have hassoc : bytes ++ newline :: (rest ++ [b])
          = (bytes ++ newline :: rest) ++ [b] := by simp
      rw [hassoc]
      by_cases hb : b = newline
      · rw [hb, tailOf_concat_newline, tailOf_concat_newline]
      · rw [tailOf_concat hb, tailOf_concat hb, ih]

theorem tailOf_of_not_mem {bytes : List UInt8} (h : newline ∉ bytes) :
    tailOf bytes = bytes := by
  unfold tailOf
  rw [List.takeWhile_eq_self_iff.mpr, List.reverse_reverse]
  intro b hb
  rw [List.mem_reverse] at hb
  have hne : b ≠ newline := by
    intro heq
    rw [heq] at hb
    exact h hb
  simpa using hne

theorem newline_not_mem_tailOf (bytes : List UInt8) :
    newline ∉ tailOf bytes := by
  intro h
  unfold tailOf at h
  rw [List.mem_reverse] at h
  have hne := List.mem_takeWhile_imp h
  simp at hne

-- ============================================== the loop, byte by byte

/-- The loop may stop anywhere and go on from what it has kept. -/
theorem consume_append (s : σ) (pending front back : List UInt8) :
    m.consume s pending (front ++ back)
      = match m.consume s pending front with
        | .ok (s', tail) => m.consume s' tail back
        | .error (e, s', rest) => .error (e, s', rest ++ back) := by
  induction front generalizing s pending with
  | nil => rfl
  | cons b front ih =>
      rw [List.cons_append, consume, consume]
      by_cases hb : b = newline
      · rw [if_pos hb, if_pos hb]
        cases m.line s pending with
        | mk answer s' =>
            cases answer with
            | ok u => exact ih s' []
            | error e => rfl
      · rw [if_neg hb, if_neg hb]
        exact ih s (pending ++ [b])

/-- Bytes without a newline are only kept. -/
theorem consume_of_not_mem (s : σ) (pending : List UInt8)
    {bytes : List UInt8} (h : newline ∉ bytes) :
    m.consume s pending bytes = .ok (s, pending ++ bytes) := by
  induction bytes generalizing pending with
  | nil => rw [consume, List.append_nil]
  | cons b bytes ih =>
      rw [List.mem_cons, not_or] at h
      rw [consume, if_neg (Ne.symm h.1), ih _ h.2, List.append_assoc]
      rfl

/-- The buffer is read again from its start, which changes nothing. -/
theorem consume_buffer (s : σ) {buffer : List UInt8}
    (h : newline ∉ buffer) (chunk : List UInt8) :
    m.consume s [] (buffer ++ chunk) = m.consume s buffer chunk := by
  rw [consume_append, consume_of_not_mem m s [] h]
  rfl

/-- What is kept is what follows the last newline. -/
theorem consume_tail {s s' : σ} {pending bytes tail : List UInt8}
    (hpending : newline ∉ pending)
    (h : m.consume s pending bytes = .ok (s', tail)) :
    tail = tailOf (pending ++ bytes) := by
  induction bytes generalizing s pending with
  | nil =>
      cases h
      rw [List.append_nil, tailOf_of_not_mem hpending]
  | cons b bytes ih =>
      rw [consume] at h
      by_cases hb : b = newline
      · rw [if_pos hb] at h
        cases hline : m.line s pending with
        | mk answer t =>
            rw [hline] at h
            cases answer with
            | error e => cases h
            | ok u =>
                rw [ih List.not_mem_nil h, hb, tailOf_append_newline]
                rfl
      · rw [if_neg hb] at h
        have hkept : newline ∉ pending ++ [b] := by
          simp [hpending, Ne.symm hb]
        rw [ih hkept h, List.append_assoc]
        rfl

/-- The lines of accepted bytes, each taken in the state the one before
left. -/
inductive Lines : σ → List (List UInt8) → σ → Prop where
  | nil (s : σ) : Lines s [] s
  | concat {s t u : σ} {lines : List (List UInt8)} {raw : List UInt8}
      (front : Lines s lines t) (h : m.line t raw = (.ok (), u))
      (hraw : newline ∉ raw) : Lines s (lines ++ [raw]) u

theorem Lines.cons {s t u : σ} {raw : List UInt8}
    {lines : List (List UInt8)} (h : m.line s raw = (.ok (), t))
    (hraw : newline ∉ raw) (hlines : m.Lines t lines u) :
    m.Lines s (raw :: lines) u := by
  induction hlines with
  | nil => exact .concat (.nil s) h hraw
  | concat front hlast hnew ih => exact .concat ih hlast hnew

theorem Lines.newline_not_mem {s t : σ} {lines : List (List UInt8)}
    (h : m.Lines s lines t) : ∀ raw ∈ lines, newline ∉ raw := by
  induction h with
  | nil =>
      intro raw hraw
      cases hraw
  | concat _ _ hnew ih =>
      intro raw hraw
      rcases List.mem_append.mp hraw with hraw | hraw
      · exact ih raw hraw
      · rw [List.mem_singleton] at hraw
        rw [hraw]
        exact hnew

/-- A text of lines is its lines, each with its newline. -/
def joinLines (lines : List (List UInt8)) : List UInt8 :=
  lines.flatMap fun raw => raw ++ [newline]

theorem Lines.accepted {s t : σ} {lines : List (List UInt8)}
    (h : m.Lines s lines t) :
    ∀ raw ∈ lines, ∃ u v, m.line u raw = (.ok (), v) := by
  induction h with
  | nil =>
      intro raw hraw
      cases hraw
  | concat _ hline _ ih =>
      intro raw hraw
      rcases List.mem_append.mp hraw with hraw | hraw
      · exact ih raw hraw
      · rw [List.mem_singleton] at hraw
        rw [hraw]
        exact ⟨_, _, hline⟩

/-- The loop takes off the lines of the bytes, in order. -/
theorem consume_lines {s s' : σ} {pending bytes tail : List UInt8}
    (hpending : newline ∉ pending)
    (h : m.consume s pending bytes = .ok (s', tail)) :
    ∃ lines, m.Lines s lines s'
      ∧ pending ++ bytes = joinLines lines ++ tail := by
  induction bytes generalizing s pending with
  | nil =>
      cases h
      exact ⟨[], .nil s', List.append_nil _⟩
  | cons b bytes ih =>
      rw [consume] at h
      by_cases hb : b = newline
      · rw [if_pos hb] at h
        cases hline : m.line s pending with
        | mk answer t =>
            rw [hline] at h
            cases answer with
            | error e => cases h
            | ok u =>
                obtain ⟨lines, hlines, hbytes⟩ := ih List.not_mem_nil h
                refine ⟨pending :: lines, .cons m hline hpending hlines, ?_⟩
                rw [List.nil_append] at hbytes
                rw [hb, hbytes]
                simp [joinLines]
      · rw [if_neg hb] at h
        have hkept : newline ∉ pending ++ [b] := by
          simp [hpending, Ne.symm hb]
        obtain ⟨lines, hlines, hbytes⟩ := ih hkept h
        refine ⟨lines, hlines, ?_⟩
        rw [← hbytes, List.append_assoc]
        rfl

/-- A loop that is stopped has taken off the lines before, and the one that
was refused. -/
theorem consume_refused {s s' : σ} {pending bytes rest : List UInt8} {e : ε}
    (hpending : newline ∉ pending)
    (h : m.consume s pending bytes = .error (e, s', rest)) :
    ∃ lines t raw, m.Lines s lines t ∧ m.line t raw = (.error e, s')
      ∧ newline ∉ raw
      ∧ pending ++ bytes = joinLines lines ++ (raw ++ newline :: rest) := by
  induction bytes generalizing s pending with
  | nil => cases h
  | cons b bytes ih =>
      rw [consume] at h
      by_cases hb : b = newline
      · rw [if_pos hb] at h
        cases hline : m.line s pending with
        | mk answer t =>
            rw [hline] at h
            cases answer with
            | error e =>
                cases h
                refine ⟨[], s, pending, .nil s, hline, hpending, ?_⟩
                rw [hb]
                rfl
            | ok u =>
                obtain ⟨lines, v, raw, hlines, hraw, hnew, hbytes⟩ :=
                  ih List.not_mem_nil h
                refine ⟨pending :: lines, v, raw,
                  .cons m hline hpending hlines, hraw, hnew, ?_⟩
                rw [List.nil_append] at hbytes
                rw [hb, hbytes]
                simp [joinLines]
      · rw [if_neg hb] at h
        have hkept : newline ∉ pending ++ [b] := by
          simp [hpending, Ne.symm hb]
        obtain ⟨lines, v, raw, hlines, hraw, hnew, hbytes⟩ := ih hkept h
        refine ⟨lines, v, raw, hlines, hraw, hnew, ?_⟩
        rw [← hbytes, List.append_assoc]
        rfl

-- ============================================================ one chunk

/-- When a chunk is accepted, and what it leaves. -/
theorem feed_iff {r r' : Fed σ} (hbuffer : newline ∉ r.buffer)
    (chunk : List UInt8) :
    m.feed r chunk = (.ok (), r')
      ↔ r.received + chunk.length ≤ m.maxStream
        ∧ m.consume r.state r.buffer chunk = .ok (r'.state, r'.buffer)
        ∧ r'.buffer.length ≤ m.maxTail
        ∧ r'.received = r.received + chunk.length := by
  unfold feed
  rw [consume_buffer m r.state hbuffer]
  dsimp only
  by_cases hroom : m.maxStream < r.received + chunk.length
  · rw [if_pos hroom]
    constructor
    · intro h
      cases h
    · intro h
      omega
  · rw [if_neg hroom]
    cases hconsume : m.consume r.state r.buffer chunk with
    | error e =>
        constructor
        · intro h
          cases h
        · intro h
          cases h.2.1
    | ok kept =>
        obtain ⟨s, tail⟩ := kept
        dsimp only
        by_cases hlong : m.maxTail < tail.length
        · rw [if_pos hlong]
          constructor
          · intro h
            cases h
          · rintro ⟨_, heq, hfits, _⟩
            cases heq
            omega
        · rw [if_neg hlong]
          constructor
          · intro h
            cases h
            exact ⟨by omega, rfl, Nat.le_of_not_lt hlong, rfl⟩
          · rintro ⟨_, heq, _, hreceived⟩
            cases heq
            rw [← hreceived]

theorem feed_newline {r r' : Fed σ} (hbuffer : newline ∉ r.buffer)
    {chunk : List UInt8} (h : m.feed r chunk = (.ok (), r')) :
    newline ∉ r'.buffer := by
  have hconsume := ((feed_iff m hbuffer chunk).mp h).2.1
  rw [consume_tail m hbuffer hconsume]
  exact newline_not_mem_tailOf _

/-- Where a refused line leaves no trace, a chunk leaves the state its
accepted lines left, whether it was accepted or not. -/
theorem feed_state
    (hrefused : ∀ {s s' : σ} {raw : List UInt8} {e : ε},
      m.line s raw = (.error e, s') → s' = s)
    {r r' : Fed σ} {chunk : List UInt8} {answer : Except ε Unit}
    (h : m.feed r chunk = (answer, r')) :
    ∃ lines, m.Lines r.state lines r'.state
      ∧ joinLines lines <+: r.buffer ++ chunk := by
  unfold feed at h
  dsimp only at h
  by_cases hroom : m.maxStream < r.received + chunk.length
  · rw [if_pos hroom] at h
    cases h
    exact ⟨[], .nil r.state, List.nil_prefix⟩
  · rw [if_neg hroom] at h
    cases hconsume : m.consume r.state [] (r.buffer ++ chunk) with
    | error stopped =>
        obtain ⟨e, s, rest⟩ := stopped
        rw [hconsume] at h
        cases h
        obtain ⟨lines, t, raw, hlines, hraw, _, hbytes⟩ :=
          consume_refused m List.not_mem_nil hconsume
        rw [hrefused hraw]
        exact ⟨lines, hlines, _, hbytes.symm⟩
    | ok kept =>
        obtain ⟨s, tail⟩ := kept
        rw [hconsume] at h
        obtain ⟨lines, hlines, hbytes⟩ :=
          consume_lines m List.not_mem_nil hconsume
        refine ⟨lines, ?_, _, hbytes.symm⟩
        dsimp only at h
        by_cases hlong : m.maxTail < tail.length
        · rw [if_pos hlong] at h
          cases h
          exact hlines
        · rw [if_neg hlong] at h
          cases h
          exact hlines

/-- A stream that is too long stays so. -/
theorem feed_tooLarge {r : Fed σ} (hover : m.maxStream < r.received)
    (chunk : List UInt8) :
    m.feed r chunk = (.error m.streamTooLarge,
      { r with received := r.received + chunk.length }) := by
  unfold feed
  rw [if_pos (by omega)]

-- =========================================================== all chunks

theorem feedAll_cons_iff {r r' : Fed σ} (chunk : List UInt8)
    (chunks : List (List UInt8)) :
    m.feedAll r (chunk :: chunks) = some r'
      ↔ ∃ r₁, m.feed r chunk = (.ok (), r₁)
        ∧ m.feedAll r₁ chunks = some r' := by
  rw [feedAll]
  cases hfeed : m.feed r chunk with
  | mk answer r₁ =>
      cases answer with
      | error e => simp
      | ok u => simp

/-- Every tail that was measured, after each of the chunks, fits. -/
def TailsFit (buffer : List UInt8) (chunks : List (List UInt8)) : Prop :=
  ∀ k < chunks.length,
    (tailOf (buffer ++ (chunks.take (k + 1)).flatten)).length ≤ m.maxTail

theorem tailsFit_cons (buffer chunk : List UInt8)
    (chunks : List (List UInt8)) :
    m.TailsFit buffer (chunk :: chunks)
      ↔ (tailOf (buffer ++ chunk)).length ≤ m.maxTail
        ∧ m.TailsFit (buffer ++ chunk) chunks := by
  unfold TailsFit
  constructor
  · intro h
    refine ⟨by simpa using h 0 (Nat.zero_lt_succ _), fun k hk => ?_⟩
    have hnext := h (k + 1) (Nat.succ_lt_succ hk)
    rwa [List.take_succ_cons, List.flatten_cons, ← List.append_assoc]
      at hnext
  · rintro ⟨hfirst, hrest⟩ k hk
    cases k with
    | zero => simpa using hfirst
    | succ k =>
        have hnext := hrest k (Nat.lt_of_succ_lt_succ hk)
        rwa [List.take_succ_cons, List.flatten_cons, ← List.append_assoc]

/-- A tail only depends on what is pending. -/
theorem tailOf_tailOf_append (front back : List UInt8) :
    tailOf (tailOf front ++ back) = tailOf (front ++ back) := by
  by_cases h : newline ∈ front
  · obtain ⟨pre, post, hsplit, hpost⟩ := List.eq_append_cons_of_mem
      (List.mem_reverse.mpr h)
    have hfront : front = post.reverse ++ newline :: pre.reverse := by
      rw [← List.reverse_reverse front, hsplit]
      simp
    have hclean : newline ∉ pre.reverse := by
      rwa [List.mem_reverse]
    rw [hfront, tailOf_append_newline, tailOf_of_not_mem hclean,
      List.append_assoc, List.cons_append, tailOf_append_newline]
  · rw [tailOf_of_not_mem h]

/-- The last tail is measured too, if there is any chunk. -/
theorem TailsFit.last {buffer : List UInt8} {chunks : List (List UInt8)}
    (h : m.TailsFit buffer chunks)
    (hbuffer : (tailOf buffer).length ≤ m.maxTail) :
    (tailOf (buffer ++ chunks.flatten)).length ≤ m.maxTail := by
  cases chunks with
  | nil => simpa using hbuffer
  | cons chunk chunks =>
      have hlast := h chunks.length (Nat.lt_succ_self _)
      rwa [List.take_of_length_le (by simp)] at hlast

theorem TailsFit.congr {buffer b : List UInt8}
    (heq : tailOf buffer = tailOf b) (chunks : List (List UInt8)) :
    m.TailsFit buffer chunks ↔ m.TailsFit b chunks := by
  unfold TailsFit
  have hsame : ∀ bytes : List UInt8,
      tailOf (buffer ++ bytes) = tailOf (b ++ bytes) := by
    intro bytes
    rw [← tailOf_tailOf_append, heq, tailOf_tailOf_append]
  simp only [hsame]

/-- What the chunks do, by the bytes they make up: the cutting only shows
in the tails that were measured. -/
theorem feedAll_iff {r r' : Fed σ} (hbuffer : newline ∉ r.buffer)
    (hreceived : r.received ≤ m.maxStream) (chunks : List (List UInt8)) :
    m.feedAll r chunks = some r'
      ↔ r.received + chunks.flatten.length ≤ m.maxStream
        ∧ m.consume r.state r.buffer chunks.flatten
          = .ok (r'.state, r'.buffer)
        ∧ m.TailsFit r.buffer chunks
        ∧ r'.received = r.received + chunks.flatten.length := by
  induction chunks generalizing r with
  | nil =>
      have hvacuous : m.TailsFit r.buffer [] := fun k hk => absurd hk (by simp)
      rw [feedAll]
      constructor
      · intro h
        cases h
        exact ⟨hreceived, rfl, hvacuous, rfl⟩
      · rintro ⟨_, hconsume, _, hcount⟩
        cases r'
        cases hconsume
        cases hcount
        rfl
  | cons chunk chunks ih =>
      rw [feedAll_cons_iff, tailsFit_cons, List.flatten_cons,
        List.length_append, consume_append]
      constructor
      · rintro ⟨r₁, hfeed, hrest⟩
        obtain ⟨hroom, hconsume, hfits, hcount⟩ :=
          (feed_iff m hbuffer chunk).mp hfeed
        have hclean := feed_newline m hbuffer hfeed
        have htail := consume_tail m hbuffer hconsume
        obtain ⟨htotal, hall, htails, hend⟩ :=
          (ih hclean (by omega)).mp hrest
        rw [hconsume]
        refine ⟨by omega, hall, ⟨by rwa [← htail], ?_⟩, by omega⟩
        rw [TailsFit.congr m (b := r₁.buffer)]
        · exact htails
        · rw [← htail, tailOf_of_not_mem hclean]
      · rintro ⟨htotal, hall, ⟨hfits, htails⟩, hend⟩
        cases hconsume : m.consume r.state r.buffer chunk with
        | error e =>
            rw [hconsume] at hall
            cases hall
        | ok kept =>
            rw [hconsume] at hall
            have htail := consume_tail m hbuffer hconsume
            have hclean : newline ∉ kept.2 := by
              rw [htail]
              exact newline_not_mem_tailOf _
            refine ⟨⟨kept.1, kept.2, r.received + chunk.length⟩, ?_, ?_⟩
            · exact (feed_iff m hbuffer chunk).mpr
                ⟨by omega, hconsume, by rwa [htail], rfl⟩
            · refine (ih hclean (by show _ + _ ≤ _; omega)).mpr
                ⟨by show _ + _ + _ ≤ _; omega, hall, ?_,
                  by show _ = _ + _ + _; omega⟩
              rw [TailsFit.congr m (b := r.buffer ++ chunk)]
              · exact htails
              · rw [tailOf_of_not_mem hclean, htail]

-- ========================================================== lines alone

theorem tailOf_joinLines (lines : List (List UInt8)) :
    tailOf (joinLines lines) = [] := by
  rcases List.eq_nil_or_concat lines with hnil | ⟨front, raw, hlines⟩
  · rw [hnil]
    rfl
  · have hjoin : joinLines lines
        = (joinLines front ++ raw) ++ [newline] := by
      rw [hlines]
      simp [joinLines]
    rw [hjoin, tailOf_concat_newline]

/-- Lines and a tail that all fit are never too long while they are
pending. -/
theorem tailOf_prefix_le {n : Nat} {lines : List (List UInt8)}
    {tail front back : List UInt8}
    (hclean : ∀ raw ∈ lines, newline ∉ raw) (htail : newline ∉ tail)
    (hlines : ∀ raw ∈ lines, raw.length ≤ n) (hfits : tail.length ≤ n)
    (h : joinLines lines ++ tail = front ++ back) :
    (tailOf front).length ≤ n := by
  induction lines generalizing front with
  | nil =>
      have hfront : tail = front ++ back := h
      have hnew : newline ∉ front := by
        intro hmem
        apply htail
        rw [hfront]
        exact List.mem_append_left _ hmem
      rw [tailOf_of_not_mem hnew]
      rw [hfront, List.length_append] at hfits
      omega
  | cons raw lines ih =>
      rw [List.forall_mem_cons] at hclean hlines
      have hsplit : (raw ++ [newline]) ++ (joinLines lines ++ tail)
          = front ++ back := by
        rw [← h]
        simp [joinLines]
      rcases List.append_eq_append_iff.mp hsplit with
        ⟨more, hfront, hrest⟩ | ⟨more, hline, _⟩
      · -- the line is behind
        rw [hfront, List.append_assoc, List.singleton_append,
          tailOf_append_newline]
        exact ih hclean.2 hlines.2 hrest
      · -- it is still pending, or just taken off
        rcases List.eq_nil_or_concat more with hmore | ⟨rest, b, hmore⟩
        · rw [hmore, List.append_nil] at hline
          rw [← hline, tailOf_concat_newline]
          exact Nat.zero_le _
        · rw [hmore, List.concat_eq_append, ← List.append_assoc] at hline
          have hraw : raw = front ++ rest :=
            (List.append_inj' hline rfl).1
          have hnew : newline ∉ front := by
            intro hmem
            apply hclean.1
            rw [hraw]
            exact List.mem_append_left _ hmem
          rw [tailOf_of_not_mem hnew]
          have hlen := hlines.1
          rw [hraw, List.length_append] at hlen
          omega

/-- Lines that are accepted are taken off. -/
theorem Lines.consume {s t : σ} {lines : List (List UInt8)}
    (h : m.Lines s lines t) {tail : List UInt8} (htail : newline ∉ tail) :
    m.consume s [] (joinLines lines ++ tail) = .ok (t, tail) := by
  induction h generalizing tail with
  | nil => exact consume_of_not_mem m _ _ htail
  | @concat t' u lines raw _ hline hnew ih =>
      have hjoin : joinLines (lines ++ [raw]) ++ tail
          = (joinLines lines ++ raw) ++ newline :: tail := by
        simp [joinLines]
      rw [hjoin, consume_append, ih hnew]
      show m.consume t' raw (newline :: tail) = _
      rw [LineReader.consume, if_pos rfl, hline]
      exact consume_of_not_mem m u _ htail

-- =========================================================== refusals

/-- The loop stops at a line that is refused, behind accepted ones. -/
theorem Lines.consume_refused {s s' t : σ} {lines : List (List UInt8)}
    (h : m.Lines s lines t) {raw : List UInt8} {e : ε}
    (hline : m.line t raw = (.error e, s')) (hraw : newline ∉ raw)
    (rest : List UInt8) :
    m.consume s [] (joinLines lines ++ (raw ++ newline :: rest))
      = .error (e, s', rest) := by
  rw [← List.append_assoc, consume_append, h.consume m hraw]
  show m.consume t raw (newline :: rest) = _
  rw [LineReader.consume, if_pos rfl, hline]

/-- A chunk raises a certain kind of error, other than those of its size,
when one of the lines it completes does and every line before is
accepted. -/
theorem feed_raises_iff {P : ε → Prop} (hstream : ¬ P m.streamTooLarge)
    (htail : ¬ P m.tailTooLarge) (r : Fed σ) (chunk : List UInt8) :
    (∃ e r', m.feed r chunk = (.error e, r') ∧ P e)
      ↔ r.received + chunk.length ≤ m.maxStream
        ∧ ∃ lines t raw rest e s', m.Lines r.state lines t
          ∧ m.line t raw = (.error e, s') ∧ P e ∧ newline ∉ raw
          ∧ r.buffer ++ chunk
            = joinLines lines ++ (raw ++ newline :: rest) := by
  unfold feed
  dsimp only
  by_cases hroom : m.maxStream < r.received + chunk.length
  · rw [if_pos hroom]
    constructor
    · intro h
      obtain ⟨e, r', heq, he⟩ := h
      cases heq
      exact absurd he hstream
    · intro h
      omega
  rw [if_neg hroom, and_iff_right (Nat.le_of_not_lt hroom)]
  constructor
  · intro h
    obtain ⟨e, r', heq, he⟩ := h
    cases hconsume : m.consume r.state [] (r.buffer ++ chunk) with
    | error stopped =>
        obtain ⟨e', s', rest⟩ := stopped
        rw [hconsume] at heq
        cases heq
        obtain ⟨lines, t, raw, hlines, hline, hraw, hbytes⟩ :=
          consume_refused m List.not_mem_nil hconsume
        exact ⟨lines, t, raw, rest, e, s', hlines, hline, he, hraw, hbytes⟩
    | ok kept =>
        obtain ⟨s', tail⟩ := kept
        rw [hconsume] at heq
        dsimp only at heq
        by_cases hlong : m.maxTail < tail.length
        · rw [if_pos hlong] at heq
          cases heq
          exact absurd he htail
        · rw [if_neg hlong] at heq
          cases heq
  · intro h
    obtain ⟨lines, t, raw, rest, e, s', hlines, hline, he, hraw, hbytes⟩ := h
    rw [hbytes, hlines.consume_refused m hline hraw rest]
    exact ⟨e, _, rfl, he⟩

-- ======================================== lines that were never too long

/-- A line that is accepted was never too long while it was pending. -/
theorem consume_pending_le
    (hline : ∀ {s s' : σ} {raw : List UInt8}, m.line s raw = (.ok (), s') →
      raw.length ≤ m.maxTail)
    {s s' : σ} {pending bytes tail : List UInt8}
    (h : m.consume s pending bytes = .ok (s', tail))
    (htail : tail.length ≤ m.maxTail) : pending.length ≤ m.maxTail := by
  induction bytes generalizing s pending with
  | nil =>
      cases h
      exact htail
  | cons b bytes ih =>
      rw [consume] at h
      by_cases hb : b = newline
      · rw [if_pos hb] at h
        cases hraw : m.line s pending with
        | mk answer t =>
            rw [hraw] at h
            cases answer with
            | ok u => exact hline hraw
            | error e => cases h
      · rw [if_neg hb] at h
        have hlonger := ih h
        rw [List.length_append] at hlonger
        omega

/-- Then only the last tail matters, and the cutting does not show. -/
theorem feedAll_flatten
    (hline : ∀ {s s' : σ} {raw : List UInt8}, m.line s raw = (.ok (), s') →
      raw.length ≤ m.maxTail)
    {r r' : Fed σ} (hbuffer : newline ∉ r.buffer)
    (hfits : r.buffer.length ≤ m.maxTail)
    (hreceived : r.received ≤ m.maxStream) (chunks : List (List UInt8)) :
    m.feedAll r chunks = some r'
      ↔ r.received + chunks.flatten.length ≤ m.maxStream
        ∧ m.consume r.state r.buffer chunks.flatten
          = .ok (r'.state, r'.buffer)
        ∧ r'.buffer.length ≤ m.maxTail
        ∧ r'.received = r.received + chunks.flatten.length := by
  rw [feedAll_iff m hbuffer hreceived]
  refine and_congr_right fun _ => and_congr_right fun hall => and_congr_left
    fun _ => ?_
  have htail := consume_tail m hbuffer hall
  constructor
  · intro htails
    rw [htail]
    exact htails.last m (by rwa [tailOf_of_not_mem hbuffer])
  · intro hlast k hk
    -- the bytes up to chunk `k`, and the rest of them
    have hsplit : chunks.flatten = (chunks.take (k + 1)).flatten
        ++ (chunks.drop (k + 1)).flatten := by
      rw [← List.flatten_append, List.take_append_drop]
    rw [hsplit, consume_append] at hall
    cases hfront : m.consume r.state r.buffer
        (chunks.take (k + 1)).flatten with
    | error e =>
        rw [hfront] at hall
        cases hall
    | ok kept =>
        rw [hfront] at hall
        rw [← consume_tail m hbuffer hfront]
        exact consume_pending_le m hline hall hlast

end LineReader

end Exolon
