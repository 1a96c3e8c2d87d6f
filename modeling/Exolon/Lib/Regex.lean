/-
Regular expressions that are matched by backtracking.

The order of the attempts is part of the meaning: an alternative is tried
before the next one, a greedy repetition goes on before it stops, and the
first attempt that succeeds is the match. `ends` has all of them in that
order, and `search`, `findAll` and `split` are what `re` makes of it: the
leftmost match, all matches without overlap, the texts between them.

A zero-width assertion sees the character before it and the text after it.
One group is captured, which is enough where a pattern has one name.
-/
import Mathlib

namespace Exolon

inductive Regex (α : Type) where
  | nothing
  | one (p : α → Bool)
  | seq (r s : Regex α)
  | alt (r s : Regex α)
  | star (r : Regex α)
  | lazyStar (r : Regex α)
  | group (r : Regex α)
  | assert (p : Option α → List α → Bool)

namespace Regex

/-- A place in a text: the character before it, the text after it, and what
the group has captured. -/
structure Cursor (α : Type) where
  before : Option α
  rest : List α
  captured : Option (List α)

variable {α : Type}

/-- Repetitions of something, longest first. The fuel is the length of the
text; a repetition of nothing is none. -/
def greedy (f : Cursor α → List (Cursor α)) :
    Nat → Cursor α → List (Cursor α)
  | 0, c => [c]
  | n + 1, c =>
      ((f c).filter fun d => d.rest.length < c.rest.length).flatMap
        (greedy f n) ++ [c]

/-- Repetitions of something, shortest first. -/
def reluctant (f : Cursor α → List (Cursor α)) :
    Nat → Cursor α → List (Cursor α)
  | 0, c => [c]
  | n + 1, c =>
      c :: ((f c).filter fun d => d.rest.length < c.rest.length).flatMap
        (reluctant f n)

/-- Where a match may end, in the order of the attempts. -/
def ends : Regex α → Cursor α → List (Cursor α)
  | nothing, c => [c]
  | one p, c =>
      match c.rest with
      | [] => []
      | a :: rest => if p a then [⟨some a, rest, c.captured⟩] else []
  | seq r s, c => (ends r c).flatMap (ends s)
  | alt r s, c => ends r c ++ ends s c
  | star r, c => greedy (ends r) c.rest.length c
  | lazyStar r, c => reluctant (ends r) c.rest.length c
  | group r, c => (ends r c).map fun d =>
      { d with captured := some (c.rest.take (c.rest.length - d.rest.length)) }
  | assert p, c => if p c.before c.rest then [c] else []

/-- `r?` -/
def opt (r : Regex α) : Regex α := alt r nothing

/-- `r+` -/
def plus (r : Regex α) : Regex α := seq r (star r)

/-- One after the other. -/
def all : List (Regex α) → Regex α
  | [] => nothing
  | [r] => r
  | r :: rs => seq r (all rs)

/-- One of them. -/
def any : List (Regex α) → Regex α
  | [] => assert fun _ _ => false
  | [r] => r
  | r :: rs => alt r (any rs)

/-- `re.match` -/
def matchAt (r : Regex α) (before : Option α) (text : List α) :
    Option (Cursor α) :=
  (ends r ⟨before, text, none⟩).head?

/-- `re.search` finds something. -/
def search (r : Regex α) : Option α → List α → Bool
  | before, [] => (matchAt r before []).isSome
  | before, a :: rest =>
      (matchAt r before (a :: rest)).isSome || search r (some a) rest

/-- `re.finditer`: where each match ends, with what the group captured. The
fuel is more than the length of the text. -/
def findAll (r : Regex α) : Nat → Option α → List α → List (Cursor α)
  | 0, _, _ => []
  | n + 1, before, text =>
      match matchAt r before text, text with
      | some c, _ =>
          if c.rest.length < text.length then
            c :: findAll r n c.before c.rest
          else
            match text with
            | [] => [c]
            | a :: rest => c :: findAll r n (some a) rest
      | none, [] => []
      | none, a :: rest => findAll r n (some a) rest

/-- `re.split`, of an expression that matches no empty text: `piece` has
what stands before, backwards. -/
def splitFrom (r : Regex α) :
    Nat → Option α → List α → List α → List (List α)
  | 0, _, piece, _ => [piece.reverse]
  | _ + 1, _, piece, [] => [piece.reverse]
  | n + 1, before, piece, a :: rest =>
      match matchAt r before (a :: rest) with
      | some c => piece.reverse :: splitFrom r n c.before [] c.rest
      | none => splitFrom r n (some a) (a :: piece) rest

def split (r : Regex α) (text : List α) : List (List α) :=
  splitFrom r (text.length + 1) none [] text

-- ================================================================= lemmas

variable {r s : Regex α} {before : Option α} {captured : Option (List α)}
  {a : α} {rest : List α} {p : α → Bool}

theorem ends_one_of_not (h : p a = false) :
    ends (one p) ⟨before, a :: rest, captured⟩ = [] := by
  simp only [ends, h, Bool.false_eq_true, if_false]

theorem ends_seq_of_nil {c : Cursor α} (h : ends r c = []) :
    ends (seq r s) c = [] := by
  simp only [ends, h, List.flatMap_nil]

theorem ends_alt_of_nil {c : Cursor α} (h : ends r c = [])
    (h' : ends s c = []) : ends (alt r s) c = [] := by
  simp only [ends, h, h', List.append_nil]

/-- A repetition that cannot start is empty. -/
theorem ends_star_of_nil {c : Cursor α} (h : ends r c = []) :
    ends (star r) c = [c] := by
  cases hlength : c.rest.length with
  | zero => simp only [ends, hlength, greedy]
  | succ n => simp only [ends, hlength, greedy, h, List.filter_nil,
      List.flatMap_nil, List.nil_append]

theorem ends_opt_of_nil {c : Cursor α} (h : ends r c = []) :
    ends (opt r) c = [c] := by
  simp only [ends, opt, h, List.nil_append]

/-- After a part with one end. -/
theorem ends_seq_of_one {c d : Cursor α} (h : ends r c = [d]) :
    ends (seq r s) c = ends s d := by
  simp only [ends, h, List.flatMap_cons, List.flatMap_nil, List.append_nil]

/-- A text without a match is one piece. -/
theorem splitFrom_eq_self (h : ∀ before t, t <:+ rest → t ≠ [] →
    matchAt r before t = none) (n : Nat) (hn : rest.length < n)
    (before : Option α) (piece : List α) :
    splitFrom r n before piece rest = [piece.reverse ++ rest] := by
  induction rest generalizing n before piece with
  | nil =>
      cases n with
      | zero => cases hn
      | succ n => simp only [splitFrom, List.append_nil]
  | cons a rest ih =>
      cases n with
      | zero => cases hn
      | succ n =>
          have hnone := h before (a :: rest) (List.suffix_refl _)
            (List.cons_ne_nil _ _)
          have htail : splitFrom r n (some a) (a :: piece) rest
              = [(a :: piece).reverse ++ rest] := by
            refine ih ?_ n (Nat.lt_of_succ_lt_succ hn) _ _
            exact fun before t ht hne =>
              h before t (ht.trans (List.suffix_cons a rest)) hne
          simp only [splitFrom, hnone, htail, List.reverse_cons,
            List.append_assoc, List.singleton_append]

theorem split_eq_self {text : List α} (h : ∀ before t, t <:+ text → t ≠ [] →
    matchAt r before t = none) : split r text = [text] :=
  splitFrom_eq_self h _ (Nat.lt_succ_self _) none []

end Regex

end Exolon
