/-
A journal: a queue that may lose its oldest items, and the numbered lines
its items are written to.

Items are stamped and stored in a queue. A full queue laps: it loses its
oldest item and widens the window of losses the next batch declares. A
writer claims batches, writes marks of its own (headers, ends) and then
the batch, a gap line first when the window was not empty. `Step` is that
machine; it says nothing about rings, locks or files.

# What every run keeps

`Valid` is the invariant, `Step.valid` its preservation:

- the lines are numbered densely from zero;
- read back, the lines account for every item ever stored, in order: an
  item line for an item, a gap line for as many lost ones (`accounts`);
- stamps never decrease along the lines, the batch, the queue and now;
- a gap line names its neighbours' numbers, and an item follows it.
-/
import Mathlib

namespace Exolon.Journal

universe u v

/-- A line of the journal: a mark of the writer, a gap of lost items with
the numbers around it, or an item. -/
inductive Line (α : Type u) (τ : Type v) where
  | mark (seq : Nat) (at_ : τ)
  | gap (seq : Nat) (at_ : τ) (count : Nat) (last first : Int)
  | item (seq : Nat) (x : α)

/-- Items on their way to the lines, and the losses right before them. -/
structure Batch (α : Type u) where
  items : List α
  lost : Nat

end Exolon.Journal

namespace Exolon

universe u v

open Journal

/-- The journal's state. `fates` is every item ever stored, `none` once it
was lost. -/
structure Journal (α : Type u) (τ : Type v) where
  lines : List (Line α τ)
  batch : Option (Batch α)
  window : Nat
  queue : List α
  fates : List (Option α)
  now : τ

namespace Journal

variable {α : Type u} {τ : Type v} (stamp : α → τ)

-- ================================================================= lines

namespace Line

def seq : Line α τ → Nat
  | mark seq _ | gap seq _ _ _ _ | item seq _ => seq

/-- When a line was stamped: an item line when its item was. -/
def stampedAt : Line α τ → τ
  | mark _ at_ | gap _ at_ _ _ _ => at_
  | item _ x => stamp x

/-- The stored items a line accounts for. -/
def accounts : Line α τ → List (Option α)
  | mark _ _ => []
  | gap _ _ count _ _ => List.replicate count none
  | item _ x => [some x]

def isGap : Line α τ → Bool
  | gap .. => true
  | _ => false

def isItem : Line α τ → Bool
  | item .. => true
  | _ => false

/-- A gap line holds losses and names the numbers around it. -/
def Brackets : Line α τ → Prop
  | gap seq _ count last first =>
      0 < count ∧ 0 < seq ∧ last = seq - 1 ∧ first = seq + 1
  | _ => True

end Line

/-- Items as lines, numbered from `seq` on. -/
def itemLines : Nat → List α → List (Line α τ)
  | _, [] => []
  | seq, x :: rest => .item seq x :: itemLines (seq + 1) rest

/-- What a batch is written as. Its first item stamps the gap line. -/
def batchLines (seq : Nat) (b : Batch α) : List (Line α τ) :=
  match b.items with
  | [] => []
  | x :: rest =>
      if 0 < b.lost then
        .gap seq (stamp x) b.lost (seq - 1) (seq + 1)
          :: itemLines (seq + 1) (x :: rest)
      else itemLines seq (x :: rest)

-- ================================================================ blocks

/-- Lines that may stand from number `seq` on: numbered densely, every gap
bracketed, and an item after every gap. -/
structure Block (seq : Nat) (lines : List (Line α τ)) : Prop where
  numbered : lines.map Line.seq = List.range' seq lines.length
  brackets : ∀ l ∈ lines, l.Brackets
  followed : lines.IsChain fun l l' => l.isGap = true → l'.isItem = true
  closed : ∀ l ∈ lines.getLast?, l.isGap = false

/-- Blocks that follow each other are a block: the first one does not end
in a gap. -/
theorem Block.append {seq : Nat} {xs ys : List (Line α τ)}
    (hxs : Block seq xs) (hys : Block (seq + xs.length) ys) :
    Block seq (xs ++ ys) where
  numbered := by
    rw [List.map_append, hxs.numbered, hys.numbered, List.length_append]
    exact List.range'_append_1
  brackets := by
    intro l hl
    rcases List.mem_append.mp hl with h | h
    · exact hxs.brackets l h
    · exact hys.brackets l h
  followed := by
    refine List.isChain_append.mpr ⟨hxs.followed, hys.followed, ?_⟩
    intro l hl l' _ hgap
    rw [hxs.closed l hl] at hgap
    cases hgap
  closed := by
    intro l hl
    rw [List.getLast?_append] at hl
    cases hlast : ys.getLast? with
    | none =>
        rw [hlast] at hl
        exact hxs.closed l hl
    | some last =>
        rw [hlast, Option.some_or] at hl
        cases hl
        exact hys.closed _ hlast

theorem Block.nil (seq : Nat) : Block (α := α) (τ := τ) seq [] where
  numbered := rfl
  brackets := nofun
  followed := .nil
  closed := nofun

theorem Block.mark (seq : Nat) (at_ : τ) :
    Block (α := α) seq [.mark seq at_] where
  numbered := rfl
  brackets := by
    intro l hl
    rw [List.mem_singleton.mp hl]
    trivial
  followed := .singleton _
  closed := by
    intro l hl
    cases hl
    rfl

theorem Block.items (seq : Nat) (xs : List α) :
    Block (τ := τ) seq (itemLines seq xs) := by
  induction xs generalizing seq with
  | nil => exact .nil seq
  | cons x rest ih =>
      have hone : Block (τ := τ) seq [.item seq x] := by
        refine ⟨rfl, ?_, .singleton _, ?_⟩
        · intro l hl
          rw [List.mem_singleton.mp hl]
          trivial
        · intro l hl
          cases hl
          rfl
      exact hone.append (ih (seq + 1))

/-- A batch with items is a block: its gap, if any, has an item after
it. -/
theorem Block.batch (stamp : α → τ) {seq : Nat} (hseq : 0 < seq)
    (b : Batch α) : Block seq (batchLines stamp seq b) := by
  unfold batchLines
  split
  case h_1 => exact .nil seq
  case h_2 x rest hitems =>
    have hrest := Block.items (τ := τ) (seq + 1) (x :: rest)
    split
    case isFalse => exact Block.items seq (x :: rest)
    case isTrue hlost =>
      refine ⟨?_, ?_, ?_, ?_⟩
      · rw [List.map_cons, hrest.numbered, List.length_cons,
          List.range'_succ]
        rfl
      · intro l hl
        rcases List.mem_cons.mp hl with rfl | hl
        · exact ⟨hlost, hseq, rfl, rfl⟩
        · exact hrest.brackets l hl
      · rw [itemLines] at hrest ⊢
        exact List.isChain_cons_cons.mpr ⟨fun _ => rfl, hrest.followed⟩
      · intro l hl
        rw [itemLines, List.getLast?_cons_cons] at hl
        exact hrest.closed l hl

/-- In a block, the line after a gap is an item. -/
theorem Block.after_gap {seq : Nat} {before after : List (Line α τ)}
    {l : Line α τ} (h : Block seq (before ++ l :: after))
    (hgap : l.isGap = true) :
    ∃ l' rest, after = l' :: rest ∧ l'.isItem = true := by
  have hchain := (List.isChain_append.mp h.followed).2.1
  cases after with
  | nil =>
      have hlast := h.closed l (by simp)
      rw [hgap] at hlast
      cases hlast
  | cons l' rest =>
      exact ⟨l', rest, rfl, (List.isChain_cons_cons.mp hchain).1 hgap⟩

/-- In a block, what comes before a line that is no item ends in an item,
as far as it accounts for anything: losses never end there. -/
theorem Block.before_gap {seq : Nat} {before after : List (Line α τ)}
    {l : Line α τ} (h : Block seq (before ++ l :: after))
    (hl : l.isItem = false) :
    (before.flatMap Line.accounts).getLast? ≠ some none := by
  induction before using List.reverseRecOn generalizing l after with
  | nil => nofun
  | append_singleton before l₀ ih =>
      rw [List.append_assoc, List.singleton_append] at h
      have hlink := (List.isChain_append_cons_cons.mp h.followed).2.1
      rw [List.flatMap_append, List.flatMap_singleton]
      cases l₀ with
      | mark seq₀ at_ =>
          rw [Line.accounts, List.append_nil]
          exact ih h rfl
      | gap =>
          -- a gap right before a line that is no item
          rw [hl] at hlink
          cases hlink rfl
      | item seq₀ x =>
          rw [Line.accounts, List.getLast?_concat]
          nofun

/-- A block's numbers are positions. -/
theorem Block.seq_eq {seq : Nat} {before after : List (Line α τ)}
    {l : Line α τ} (h : Block seq (before ++ l :: after)) :
    l.seq = seq + before.length := by
  have hget := congrArg (fun xs => xs[before.length]?) h.numbered
  simpa using hget

-- ============================================================== batches

/-- What a batch under way accounts for. -/
def batchAccounts : Option (Batch α) → List (Option α)
  | none => []
  | some b => List.replicate b.lost none ++ b.items.map some

/-- The items of the batch under way. -/
def batchItems : Option (Batch α) → List α
  | none => []
  | some b => b.items

theorem itemLines_accounts (seq : Nat) (xs : List α) :
    (itemLines (τ := τ) seq xs).flatMap Line.accounts = xs.map some := by
  induction xs generalizing seq with
  | nil => rfl
  | cons x rest ih =>
      rw [itemLines, List.flatMap_cons, ih]
      rfl

theorem itemLines_stamps (stamp : α → τ) (seq : Nat) (xs : List α) :
    (itemLines (τ := τ) seq xs).map (Line.stampedAt stamp)
      = xs.map stamp := by
  induction xs generalizing seq with
  | nil => rfl
  | cons x rest ih =>
      rw [itemLines, List.map_cons, ih]
      rfl

/-- A batch's lines account for what the batch did. -/
theorem batchLines_accounts (stamp : α → τ) (seq : Nat) {b : Batch α}
    (hfilled : b.items ≠ []) :
    (batchLines stamp seq b).flatMap Line.accounts
      = batchAccounts (some b) := by
  unfold batchLines
  split
  case h_1 hitems => exact absurd hitems hfilled
  case h_2 x rest hitems =>
    rw [batchAccounts, hitems]
    split
    case isTrue hlost =>
      rw [List.flatMap_cons, itemLines_accounts]
      rfl
    case isFalse hlost =>
      rw [itemLines_accounts, Nat.eq_zero_of_not_pos hlost]
      rfl

/-- A batch is stamped as its items are, the first stamp twice when a gap
stands before them. -/
theorem batchLines_stamps (stamp : α → τ) (seq : Nat) (b : Batch α) :
    (batchLines stamp seq b).map (Line.stampedAt stamp) = b.items.map stamp
      ∨ ∃ x rest, b.items = x :: rest
        ∧ (batchLines stamp seq b).map (Line.stampedAt stamp)
          = stamp x :: b.items.map stamp := by
  unfold batchLines
  split
  case h_1 hitems =>
    rw [hitems]
    exact .inl rfl
  case h_2 x rest hitems =>
    rw [hitems]
    split
    case isTrue =>
      refine .inr ⟨x, rest, rfl, ?_⟩
      rw [List.map_cons, itemLines_stamps]
      rfl
    case isFalse => exact .inl (itemLines_stamps stamp seq (x :: rest))

-- ================================================================= steps

variable [Preorder τ]

/-- One step of the journal. -/
inductive Step : Journal α τ → Journal α τ → Prop where
  /-- Time passes. -/
  | advance (s) (now : τ) (hnow : s.now ≤ now) : Step s { s with now := now }
  /-- An item is stored. -/
  | push (s) (x : α) (hx : stamp x = s.now) :
      Step s { s with queue := s.queue ++ [x], fates := s.fates ++ [some x] }
  /-- An item is stored and the oldest one is lost. -/
  | lap (s) (x lost : α) (rest : List α) (before : List (Option α))
      (hx : stamp x = s.now) (hqueue : s.queue = lost :: rest)
      (hfates : s.fates = before ++ some lost :: rest.map some) :
      Step s { s with
        queue := rest ++ [x], window := s.window + 1
        fates := before ++ none :: rest.map some ++ [some x] }
  /-- A batch leaves the queue, with the losses before it. -/
  | claim (s) (n : Nat) (hpos : 0 < n) (hle : n ≤ s.queue.length)
      (hbatch : s.batch = none) :
      Step s { s with
        queue := s.queue.drop n, window := 0
        batch := some ⟨s.queue.take n, s.window⟩ }
  /-- A mark in front of a batch, stamped by its first item. -/
  | markBatch (s) (x : α) (rest : List α) (lost : Nat)
      (hbatch : s.batch = some ⟨x :: rest, lost⟩) :
      Step s { s with lines := s.lines ++ [.mark s.lines.length (stamp x)] }
  /-- A mark with nothing under way. -/
  | markEnd (s) (hbatch : s.batch = none) (hqueue : s.queue = []) :
      Step s { s with lines := s.lines ++ [.mark s.lines.length s.now] }
  /-- The batch is written, after at least one mark. -/
  | write (s) (b : Batch α) (hbatch : s.batch = some b)
      (hlines : s.lines ≠ []) :
      Step s { s with
        lines := s.lines ++ batchLines stamp s.lines.length b
        batch := none }

-- ============================================================= invariant

/-- Every stamp, in the order items pass through. -/
def stamps (stamp : α → τ) (s : Journal α τ) : List τ :=
  s.lines.map (Line.stampedAt stamp) ++ (batchItems s.batch).map stamp
    ++ s.queue.map stamp ++ [s.now]

/-- What every run of the journal keeps. -/
structure Valid (stamp : α → τ) (s : Journal α τ) : Prop where
  block : Block 0 s.lines
  accounted : s.lines.flatMap Line.accounts ++ batchAccounts s.batch
    ++ List.replicate s.window none ++ s.queue.map some = s.fates
  sorted : (s.stamps stamp).Pairwise (· ≤ ·)
  filled : ∀ b, s.batch = some b → b.items ≠ []

-- ========================================================== preservation

/-- Stamping once more with a stamp that stands already keeps the order. -/
theorem pairwise_repeat {x : τ} {xs ys : List τ}
    (h : (xs ++ x :: ys).Pairwise (· ≤ ·)) :
    (xs ++ x :: x :: ys).Pairwise (· ≤ ·) := by
  rw [List.pairwise_append] at h ⊢
  obtain ⟨hxs, hys, hcross⟩ := h
  refine ⟨hxs, ?_, ?_⟩
  · refine List.pairwise_cons.mpr ⟨?_, hys⟩
    intro y hy
    rcases List.mem_cons.mp hy with rfl | hy
    · exact le_refl _
    · exact (List.pairwise_cons.mp hys).1 y hy
  · intro a ha b hb
    rcases List.mem_cons.mp hb with rfl | hb
    · exact hcross a ha _ List.mem_cons_self
    · exact hcross a ha b hb

/-- The last stamp may grow. -/
theorem pairwise_later {x y : τ} {xs : List τ} (hxy : x ≤ y)
    (h : (xs ++ [x]).Pairwise (· ≤ ·)) : (xs ++ [y]).Pairwise (· ≤ ·) := by
  rw [List.pairwise_append] at h ⊢
  obtain ⟨hxs, _, hcross⟩ := h
  refine ⟨hxs, List.pairwise_singleton _ _, ?_⟩
  intro a ha b hb
  rw [List.mem_singleton.mp hb]
  exact le_trans (hcross a ha x List.mem_cons_self) hxy

/-- One step keeps the journal valid. -/
theorem Step.valid {stamp : α → τ} {s s' : Journal α τ}
    (h : Step stamp s s') (hI : Valid stamp s) : Valid stamp s' := by
  obtain ⟨hblock, haccounted, hsorted, hfilled⟩ := hI
  unfold stamps at hsorted
  cases h with
  | advance now hnow =>
      exact ⟨hblock, haccounted, pairwise_later hnow hsorted, hfilled⟩
  | push x hx =>
      refine ⟨hblock, ?_, ?_, hfilled⟩
      · rw [← haccounted]
        simp
      · rw [← List.append_nil [s.now]] at hsorted
        have htwice := pairwise_repeat hsorted
        simpa [stamps, hx] using htwice
  | lap x lost rest before hx hqueue hfates =>
      rw [hqueue, hfates, List.map_cons] at haccounted
      have hbefore : s.lines.flatMap Line.accounts ++ batchAccounts s.batch
          ++ List.replicate s.window none = before := by
        exact List.append_cancel_right haccounted
      refine ⟨hblock, ?_, ?_, hfilled⟩
      · rw [← hbefore]
        simp [List.replicate_succ']
      · rw [hqueue, List.map_cons, ← List.append_nil [s.now]] at hsorted
        have htwice := pairwise_repeat hsorted
        refine htwice.sublist ?_
        simp only [stamps, hx, List.append_assoc, List.map_append,
          List.cons_append, List.map_cons, List.map_nil, List.nil_append]
        refine List.Sublist.append_left (List.Sublist.append_left ?_ _) _
        exact List.sublist_cons_self _ _
  | claim n hpos hle hbatch =>
      rw [hbatch] at haccounted hsorted
      refine ⟨hblock, ?_, ?_, ?_⟩
      · rw [← haccounted]
        simp [batchAccounts]
      · simpa [stamps, batchItems, ← List.map_append] using hsorted
      · intro b hb hempty
        injection hb with hb
        have hlength := congrArg List.length hempty
        rw [← hb, List.length_take, List.length_nil] at hlength
        omega
  | markBatch x rest lost hbatch =>
      refine ⟨hblock.append ?_, ?_, ?_, hfilled⟩
      · rw [Nat.zero_add]
        exact .mark _ _
      · rw [← haccounted]
        simp [Line.accounts]
      · simp only [hbatch, batchItems, List.map_cons, List.append_assoc,
          List.cons_append] at hsorted
        have htwice := pairwise_repeat hsorted
        simpa [stamps, hbatch, batchItems, Line.stampedAt] using htwice
  | markEnd hbatch hqueue =>
      refine ⟨hblock.append ?_, ?_, ?_, hfilled⟩
      · rw [Nat.zero_add]
        exact .mark _ _
      · rw [← haccounted]
        simp [Line.accounts]
      · simp only [hbatch, hqueue, batchItems, List.map_nil,
          List.append_nil] at hsorted
        have htwice := pairwise_repeat hsorted
        simpa [stamps, hbatch, hqueue, batchItems, Line.stampedAt]
          using htwice
  | write b hbatch hlines =>
      have hseq : 0 < s.lines.length := List.length_pos_iff.mpr hlines
      refine ⟨hblock.append ?_, ?_, ?_, nofun⟩
      · rw [Nat.zero_add]
        exact .batch stamp hseq b
      · rw [← haccounted, hbatch, List.flatMap_append,
          batchLines_accounts stamp _ (hfilled b hbatch)]
        simp [batchAccounts]
      · unfold stamps
        rw [List.map_append]
        simp only [hbatch, batchItems] at hsorted ⊢
        rcases batchLines_stamps stamp s.lines.length b with
          heq | ⟨x, rest, hitems, heq⟩
        · rw [heq]
          simpa using hsorted
        · rw [heq]
          simp only [hitems, List.map_cons, List.append_assoc,
            List.cons_append] at hsorted
          have htwice := pairwise_repeat hsorted
          simpa [hitems] using htwice

/-- Every run keeps the journal valid. -/
theorem Valid.of_steps {stamp : α → τ} {s s' : Journal α τ}
    (h : Relation.ReflTransGen (Step stamp) s s') (hI : Valid stamp s) :
    Valid stamp s' := by
  induction h with
  | refl => exact hI
  | tail _ hstep ih => exact hstep.valid ih

/-- A journal nothing was stored in. -/
def fresh (now : τ) : Journal α τ where
  lines := []
  batch := none
  window := 0
  queue := []
  fates := []
  now := now

theorem fresh_valid (stamp : α → τ) (now : τ) :
    Valid stamp (fresh now : Journal α τ) where
  block := .nil 0
  accounted := rfl
  sorted := List.pairwise_singleton _ _
  filled := nofun

end Journal

end Exolon
