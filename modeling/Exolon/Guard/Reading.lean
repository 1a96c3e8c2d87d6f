/-
A quoted command line, as the guard reads it.

The guard cuts a line at separators and at `#` without a look at quotes. So
a line is read as its words when no word has such a character (`Plain`):
then there is one piece (`commandChunks_join`), it is no other shell's
(`unwrap_join`), and its words are the words (`shellArgv_join`).
-/
import Exolon.Guard.Targets

namespace Exolon.Guard

open Regex

/-- The commands of which every operand is written to. -/
def anyOperand : List PyStr :=
  [py "rm", py "rmdir", py "touch", py "mkdir", py "tee", py "truncate"]

/-- The commands of which the last operand is written to. -/
def lastOperand : List PyStr := [py "cp", py "mv", py "ln"]

def ampersand : CodePoint := codePoint '&'

/-- A word without a character that the guard takes for its own. -/
structure Plain (w : PyStr) : Prop where
  separators : ∀ x ∈ w, isOneOf ";|\n#" x = false
  ampersands : ¬ [ampersand, ampersand] <:+: w

-- ============================================================ two in a row

/-- Not two ampersands in a row. -/
def Apart (w : PyStr) : Prop :=
  List.IsChain (fun a b => ¬ (a = ampersand ∧ b = ampersand)) w

theorem apart_iff {w : PyStr} :
    Apart w ↔ ¬ [ampersand, ampersand] <:+: w := by
  unfold Apart
  rw [List.isChain_iff_forall_rel_of_append_cons_cons]
  constructor
  · rintro h ⟨s, t, rfl⟩
    exact @h _ _ s t (by simp) ⟨rfl, rfl⟩
  · rintro h a b s t rfl ⟨rfl, rfl⟩
    exact h ⟨s, t, by simp⟩

theorem apart_cons {c : CodePoint} {w : PyStr} :
    Apart (c :: w) ↔ (c = ampersand → w.head? ≠ some ampersand) ∧ Apart w := by
  unfold Apart
  rw [List.isChain_cons]
  refine and_congr_left fun _ => ?_
  constructor
  · intro h hc hw
    exact h ampersand hw ⟨hc, rfl⟩
  · rintro h b hb ⟨hc, rfl⟩
    exact h hc hb

/-- Characters that are no ampersands keep others apart. -/
theorem apart_append_of_no {s w : PyStr} (hs : ampersand ∉ s)
    (hw : Apart w) : Apart (s ++ w) := by
  induction s with
  | nil => exact hw
  | cons c s ih =>
      rw [List.mem_cons, not_or] at hs
      exact apart_cons.mpr ⟨fun hc => absurd hc.symm hs.1, ih hs.2⟩

theorem quoteChar_apostrophe : quoteChar apostrophe = py "'\"'\"'" :=
  if_pos rfl

theorem quoteChar_of_ne {c : CodePoint} (h : c ≠ apostrophe) :
    quoteChar c = [c] := if_neg h

/-- Quoting puts no two ampersands together. -/
theorem apart_quoteChars {w rest : PyStr} (hw : Apart w) (hrest : Apart rest)
    (hhead : rest.head? ≠ some ampersand) :
    Apart (w.flatMap quoteChar ++ rest) := by
  induction w with
  | nil => exact hrest
  | cons c w ih =>
      have hchain := apart_cons.mp hw
      rw [List.flatMap_cons, List.append_assoc]
      by_cases hquote : c = apostrophe
      · rw [hquote, quoteChar_apostrophe]
        exact apart_append_of_no (by decide) (ih hchain.2)
      · rw [quoteChar_of_ne hquote]
        refine apart_cons.mpr ⟨fun hc => ?_, ih hchain.2⟩
        -- what comes next is the next character, or a quote
        cases w with
        | nil => exact hhead
        | cons d w =>
            show ((d :: w).flatMap quoteChar ++ rest).head? ≠ some ampersand
            rw [List.flatMap_cons, List.append_assoc]
            by_cases hquote' : d = apostrophe
            · rw [hquote', quoteChar_apostrophe]
              exact fun h => absurd (Option.some.inj h) (by decide)
            · rw [quoteChar_of_ne hquote']
              exact hchain.1 hc

theorem apart_append {w rest : PyStr} (hw : Apart w) (hrest : Apart rest)
    (hhead : rest.head? ≠ some ampersand) : Apart (w ++ rest) := by
  induction w with
  | nil => exact hrest
  | cons c w ih =>
      have hchain := apart_cons.mp hw
      refine apart_cons.mpr ⟨fun hc => ?_, ih hchain.2⟩
      cases w with
      | nil => exact hhead
      | cons d w => exact hchain.1 hc

theorem apart_quote {w rest : PyStr} (hw : Apart w) (hrest : Apart rest)
    (hhead : rest.head? ≠ some ampersand) : Apart (quote w ++ rest) := by
  unfold quote
  split
  · exact apart_append_of_no (by decide) hrest
  split
  · exact apart_append hw hrest hhead
  · rw [List.cons_append, List.cons_append, List.append_assoc]
    refine apart_cons.mpr ⟨fun h => absurd h (by decide), ?_⟩
    refine apart_quoteChars hw ?_
      (fun h => absurd (Option.some.inj h) (by decide))
    exact apart_append_of_no (by decide) hrest

theorem apart_join {words : List PyStr} (h : ∀ w ∈ words, Apart w) :
    Apart (join words) := by
  cases words with
  | nil => exact List.IsChain.nil
  | cons w words =>
      rw [join_cons]
      have htail : Apart (words.flatMap fun v => codePoint ' ' :: quote v)
          ∧ (words.flatMap fun v => codePoint ' ' :: quote v).head?
            ≠ some ampersand := by
        rw [List.forall_mem_cons] at h
        induction words with
        | nil => exact ⟨List.IsChain.nil, by simp⟩
        | cons v words ih =>
            have hrest := ih ⟨h.1, fun u hu => h.2 u (List.mem_cons_of_mem _ hu)⟩
            rw [List.flatMap_cons, List.cons_append]
            refine ⟨apart_cons.mpr ⟨fun hc => absurd hc (by decide),
              apart_quote (h.2 v List.mem_cons_self) hrest.1 hrest.2⟩, ?_⟩
            exact fun h => absurd (Option.some.inj h) (by decide)
      exact apart_quote (h w List.mem_cons_self) htail.1 htail.2

-- ============================================================== characters

/-- Quoting brings in quotes only. -/
theorem mem_quote {w : PyStr} {x : CodePoint} (h : x ∈ quote w) :
    x ∈ w ∨ x ∈ py "'\"" := by
  have hquotes {s : String}
      (hs : (py s).all (py "'\"").contains = true) (hx : x ∈ py s) :
      x ∈ py "'\"" := by
    rw [List.all_eq_true] at hs
    exact List.contains_iff_mem.mp (hs x hx)
  unfold quote at h
  split at h
  · exact .inr (hquotes (by decide) h)
  split at h
  · exact .inl h
  · rcases List.mem_append.mp h with h | h
    · rcases List.mem_cons.mp h with rfl | h
      · exact .inr List.mem_cons_self
      · obtain ⟨c, hc, hx⟩ := List.mem_flatMap.mp h
        by_cases hquote : c = apostrophe
        · rw [hquote, quoteChar_apostrophe] at hx
          exact .inr (hquotes (by decide) hx)
        · rw [quoteChar_of_ne hquote] at hx
          rw [List.mem_singleton.mp hx]
          exact .inl hc
    · rw [List.mem_singleton.mp h]
      exact .inr List.mem_cons_self

theorem mem_join {words : List PyStr} {x : CodePoint} (h : x ∈ join words) :
    (∃ w ∈ words, x ∈ w) ∨ x ∈ py " '\"" := by
  have hquote {w : PyStr} (hw : w ∈ words) (hx : x ∈ quote w) :
      (∃ w ∈ words, x ∈ w) ∨ x ∈ py " '\"" := by
    rcases mem_quote hx with hx | hx
    · exact .inl ⟨w, hw, hx⟩
    · exact .inr (List.mem_cons_of_mem _ hx)
  cases words with
  | nil => cases h
  | cons w words =>
      rw [join_cons, List.mem_append] at h
      rcases h with h | h
      · exact hquote List.mem_cons_self h
      · obtain ⟨v, hv, hx⟩ := List.mem_flatMap.mp h
        rcases List.mem_cons.mp hx with rfl | hx
        · exact .inr List.mem_cons_self
        · exact hquote (List.mem_cons_of_mem _ hv) hx

-- ================================================================= pieces

/-- No separator, nowhere. -/
theorem matchAt_commandSplit {before : Option CodePoint} {t : PyStr}
    (hseparators : ∀ x ∈ t, isOneOf ";|\n" x = false) (hapart : Apart t)
    (hne : t ≠ []) : matchAt commandSplit before t = none := by
  obtain ⟨x, t, rfl⟩ := List.exists_cons_of_ne_nil hne
  have hx := hseparators x List.mem_cons_self
  have hbar : (x == codePoint '|') = false := by
    rw [beq_eq_false_iff_ne]
    rintro rfl
    exact absurd hx (by decide)
  have hamps : ends (literal "&&") ⟨before, x :: t, none⟩ = [] := by
    by_cases hamp : (x == ampersand) = true
    · have hnext := (apart_cons.mp hapart).1 (eq_of_beq hamp)
      show ends (seq (one (· == ampersand)) (one (· == ampersand))) _ = []
      cases t with
      | nil => simp [ends]
      | cons y t =>
          have hy : y ≠ ampersand := fun h => hnext (congrArg some h)
          simp [ends, hy]
    · rw [Bool.not_eq_true] at hamp
      exact ends_seq_of_nil (ends_one_of_not hamp)
  have hends : ends commandSplit ⟨before, x :: t, none⟩ = [] :=
    ends_alt_of_nil hamps (ends_alt_of_nil
      (ends_seq_of_nil (ends_one_of_not hbar)) (ends_one_of_not hx))
  unfold matchAt
  rw [hends]
  rfl

theorem strip_eq_self {s : PyStr}
    (hhead : ∀ x ∈ s.head?, isSpace x = false)
    (hlast : ∀ x ∈ s.getLast?, isSpace x = false) : strip s = s := by
  have hdrop {t : PyStr} (h : ∀ x ∈ t.head?, isSpace x = false) :
      t.dropWhile isSpace = t := by
    cases t with
    | nil => rfl
    | cons x t => rw [List.dropWhile_cons_of_neg (by rw [h x rfl]; decide)]
  unfold strip
  rw [hdrop hhead, hdrop (by rwa [List.head?_reverse]), List.reverse_reverse]

theorem isSpace_of_safe {c : CodePoint} (h : isSafe c = true) :
    isSpace c = false := by
  have hmarks : (py "_@%+=:,.-/").all (fun d => !isSpace d) = true := by
    decide
  rw [List.all_eq_true] at hmarks
  rw [← Bool.not_eq_true]
  intro hspace
  unfold isSafe at h
  rw [Bool.or_eq_true] at h
  rcases h with h | h
  · unfold isSpace at hspace
    simp only [Bool.or_eq_true, Bool.and_eq_true, decide_eq_true_eq,
      beq_iff_eq] at h hspace
    omega
  · have hmark := hmarks c (List.contains_iff_mem.mp h)
    rw [hspace] at hmark
    cases hmark

/-- A quoted word begins and ends with no blank. -/
theorem quote_ends (w : PyStr) : quote w ≠ []
    ∧ (∀ x ∈ (quote w).head?, isSpace x = false)
    ∧ ∀ x ∈ (quote w).getLast?, isSpace x = false := by
  have hquote : isSpace apostrophe = false := by decide
  unfold quote
  split
  · refine ⟨List.cons_ne_nil _ _, ?_, ?_⟩
    · rintro x hx
      cases hx
      exact hquote
    · rintro x hx
      cases hx
      exact hquote
  split
  · next hne hsafe =>
      rw [List.all_eq_true] at hsafe
      refine ⟨hne, fun x hx => ?_, fun x hx => ?_⟩
      · exact isSpace_of_safe (hsafe x (List.mem_of_mem_head? hx))
      · exact isSpace_of_safe (hsafe x (List.mem_of_mem_getLast? hx))
  · refine ⟨List.cons_ne_nil _ _, ?_, ?_⟩
    · rintro x hx
      cases hx
      exact hquote
    · intro x hx
      rw [List.getLast?_append] at hx
      cases hx
      exact hquote

theorem strip_join (words : List PyStr) : strip (join words) = join words := by
  refine strip_eq_self ?_ ?_
  · cases words with
    | nil =>
        intro x hx
        cases hx
    | cons w words =>
        obtain ⟨hne, hhead, _⟩ := quote_ends w
        rw [join_cons, List.head?_append_of_ne_nil _ hne]
        exact hhead
  · cases words using List.reverseRecOn with
    | nil =>
        intro x hx
        cases hx
    | append_singleton words w =>
        obtain ⟨hne, _, hlast⟩ := quote_ends w
        have hsnoc : ∃ s, join (words ++ [w]) = s ++ quote w := by
          cases words with
          | nil => exact ⟨[], by simp [join_cons]⟩
          | cons v words =>
              refine ⟨quote v ++ words.flatMap (fun v => codePoint ' ' :: quote v)
                ++ [codePoint ' '], ?_⟩
              simp [join_cons]
        obtain ⟨s, hs⟩ := hsnoc
        rw [hs, List.getLast?_append_of_ne_nil _ hne]
        exact hlast

-- =============================================================== the line

/-- What is true of the names of the commands. -/
theorem command_facts {c : PyStr} (h : c ∈ anyOperand ++ lastOperand) :
    quote c = c ∧ c ≠ [] ∧ isAssignment c = false
      ∧ wrappers.contains (lower c) = false
      ∧ c.all (fun x => !isOneOf ";|\n#&" x) = true
      ∧ c.head?.all (fun x => !isSpace x && !(x == codePoint '/')
        && !isLetter 's' x && !isLetter 'd' x && !isLetter 'b' x
        && !isLetter 'z' x && !isLetter 'k' x) = true := by
  have hall : (anyOperand ++ lastOperand).all (fun c =>
      quote c == c && c != [] && !isAssignment c
        && !wrappers.contains (lower c)
        && c.all (fun x => !isOneOf ";|\n#&" x)
        && c.head?.all (fun x => !isSpace x && !(x == codePoint '/')
          && !isLetter 's' x && !isLetter 'd' x && !isLetter 'b' x
          && !isLetter 'z' x && !isLetter 'k' x)) = true := by
    decide
  have hc := List.all_eq_true.mp hall c h
  simp only [Bool.and_eq_true, beq_iff_eq, bne_iff_ne, ne_eq,
    Bool.not_eq_true'] at hc
  obtain ⟨⟨⟨⟨⟨hquote, hne⟩, hassign⟩, hwrap⟩, hchars⟩, hhead⟩ := hc
  refine ⟨hquote, hne, hassign, hwrap, ?_, ?_⟩
  · simpa using hchars
  · simpa using hhead

/-- Words of other characters are plain. -/
theorem plain_of_all {w : PyStr}
    (h : w.all (fun x => !isOneOf ";|\n#&" x) = true) : Plain w := by
  rw [List.all_eq_true] at h
  have hno {x : CodePoint} (hx : x ∈ w) :
      isOneOf ";|\n#&" x = false := by simpa using h x hx
  constructor
  · intro x hx
    rw [← Bool.not_eq_true]
    intro hone
    have hmem : x ∈ py ";|\n#" := List.contains_iff_mem.mp hone
    have hfalse := hno hx
    rw [← Bool.not_eq_true] at hfalse
    exact hfalse (List.contains_iff_mem.mpr
      (List.mem_append_left (py "&") hmem))
  · intro hinside
    have hamp := hno (hinside.subset List.mem_cons_self)
    exact absurd hamp (by decide)

theorem plain_of_command {c : PyStr} (h : c ∈ anyOperand ++ lastOperand) :
    Plain c :=
  let ⟨_, _, _, _, hchars, _⟩ := command_facts h
  plain_of_all hchars

section Line

variable {c : PyStr} {words : List PyStr}

theorem plain_line (hc : c ∈ anyOperand ++ lastOperand)
    (h : ∀ w ∈ words, Plain w) : ∀ w ∈ c :: words, Plain w :=
  List.forall_mem_cons.mpr ⟨plain_of_command hc, h⟩

/-- No character of the line is one that the guard takes for its own. -/
theorem separators_join (h : ∀ w ∈ words, Plain w) :
    ∀ x ∈ join words, isOneOf ";|\n#" x = false := by
  intro x hx
  rcases mem_join hx with ⟨w, hw, hx⟩ | hx
  · exact (h w hw).separators x hx
  · have hall : (py " '\"").all (fun x => !isOneOf ";|\n#" x) = true := by
      decide
    rw [List.all_eq_true] at hall
    simpa using hall x hx

/-- The line is one piece. -/
theorem commandChunks_join (hc : c ∈ anyOperand ++ lastOperand)
    (h : ∀ w ∈ words, Plain w) :
    commandChunks (join (c :: words)) = [join (c :: words)] := by
  have hplain := plain_line hc h
  have hsplit : commandSplit.split (join (c :: words))
      = [join (c :: words)] := by
    refine split_eq_self fun before t ht hne => matchAt_commandSplit ?_ ?_ hne
    · intro x hx
      have hnone := separators_join hplain x (ht.subset hx)
      rw [← Bool.not_eq_true] at hnone ⊢
      intro hone
      exact hnone (List.contains_iff_mem.mpr
        (List.mem_append_left (py "#") (List.contains_iff_mem.mp hone)))
    · have hapart := apart_join fun w hw => apart_iff.mpr (hplain w hw).ampersands
      rw [apart_iff] at hapart ⊢
      exact fun hinside => hapart (hinside.trans ht.isInfix)
  unfold commandChunks
  rw [hsplit, List.filter_cons_of_pos]
  · rfl
  · obtain ⟨hquote, hne, _⟩ := command_facts hc
    rw [strip_join, bne_iff_ne, join_cons, hquote]
    exact List.append_ne_nil_of_left_ne_nil hne _

/-- The line of a command that is no shell. -/
theorem unwrap_join (hc : c ∈ anyOperand ++ lastOperand) :
    unwrap (join (c :: words)) = join (c :: words) := by
  obtain ⟨hquote, hne, _, _, _, hhead⟩ := command_facts hc
  obtain ⟨x, cs, rfl⟩ := List.exists_cons_of_ne_nil hne
  rw [join_cons, hquote, List.cons_append]
  generalize cs ++ _ = rest
  simp only [List.head?_cons, Option.all_some, Bool.and_eq_true,
    Bool.not_eq_true'] at hhead
  obtain ⟨⟨⟨⟨⟨⟨hspace, hslash⟩, hs⟩, hd⟩, hb⟩, hz⟩, hk⟩ := hhead
  have hstart : ends atStart ⟨none, x :: rest, none⟩
      = [⟨none, x :: rest, none⟩] := rfl
  have hspaces : ends (star space) ⟨none, x :: rest, none⟩
      = [⟨none, x :: rest, none⟩] :=
    ends_star_of_nil (ends_one_of_not hspace)
  have hsudo : ends (anyWord ["sudo", "doas"]) ⟨none, x :: rest, none⟩ = [] :=
    ends_alt_of_nil (ends_seq_of_nil (ends_one_of_not hs))
      (ends_seq_of_nil (ends_one_of_not hd))
  have hbin : ends (literal "/") ⟨none, x :: rest, none⟩ = [] :=
    ends_one_of_not hslash
  have hshell : ends (anyWord ["bash", "sh", "zsh", "dash", "ksh"])
      ⟨none, x :: rest, none⟩ = [] :=
    ends_alt_of_nil (ends_seq_of_nil (ends_one_of_not hb))
      (ends_alt_of_nil (ends_seq_of_nil (ends_one_of_not hs))
        (ends_alt_of_nil (ends_seq_of_nil (ends_one_of_not hz))
          (ends_alt_of_nil (ends_seq_of_nil (ends_one_of_not hd))
            (ends_seq_of_nil (ends_one_of_not hk)))))
  have hends : ends unwrapShell ⟨none, x :: rest, none⟩ = [] :=
    (ends_seq_of_one hstart).trans ((ends_seq_of_one hspaces).trans
      ((ends_seq_of_one (ends_opt_of_nil (ends_seq_of_nil hsudo))).trans
        ((ends_seq_of_one (ends_opt_of_nil (ends_seq_of_nil hbin))).trans
          (ends_seq_of_nil hshell))))
  unfold unwrap matchAt
  rw [hends]
  rfl

/-- The words of the line are the words. -/
theorem shellArgv_join (hc : c ∈ anyOperand ++ lastOperand)
    (h : ∀ w ∈ words, Plain w) : shellArgv (join (c :: words)) = c :: words := by
  obtain ⟨_, _, hassign, hwrap, _⟩ := command_facts hc
  have hhash : (join (c :: words)).takeWhile (fun x => x != codePoint '#')
      = join (c :: words) := by
    rw [List.takeWhile_eq_self_iff]
    intro x hx
    rw [bne_iff_ne]
    rintro rfl
    exact absurd (separators_join (plain_line hc h) _ hx) (by decide)
  unfold shellArgv
  dsimp only
  rw [hhash, strip_join, split_join]
  show List.dropWhile _ ((c :: words).dropWhile isAssignment) = _
  rw [List.dropWhile_cons_of_neg (by rw [hassign]; decide),
    List.dropWhile_cons_of_neg (by rw [hwrap]; decide)]

end Line

end Exolon.Guard
