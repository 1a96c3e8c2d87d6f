/-
Transactions: calls on a state that answer or raise.

A call of type `σ → Except ε (α × σ)` that raises is rolled back: what it had
written is not there afterwards (`commit`). So what every call that answers
preserves, every call preserves (`commit_preserves`).

# Reading a call

A call is a chain of binds; `check` raises unless a condition holds, and
`fetch` raises where a query has found nothing. The `_eq_ok` lemmas take an
answer of the chain apart into the answers of its links, the `_eq_error`
lemmas say which link raised, and `Only` what kind of error all links raise.
-/
import Mathlib

namespace Exolon.Transaction

universe u v w

variable {ε : Type u} {α β : Type v} {σ : Type w}

-- ================================================================= links

/-- Raise unless the condition holds. -/
def check (p : Prop) [Decidable p] (e : ε) : Except ε PUnit.{v + 1} :=
  if p then .ok .unit else .error e

/-- What a query found, or raise. -/
def fetch (found : Option α) (e : ε) : Except ε α :=
  match found with
  | some a => .ok a
  | none => .error e

theorem bind_eq_ok {x : Except ε α} {f : α → Except ε β} {b : β} :
    (x >>= f) = .ok b ↔ ∃ a, x = .ok a ∧ f a = .ok b := by
  cases x with
  | error e =>
      apply iff_of_false
      · intro h
        cases h
      · intro h
        obtain ⟨a, ha, _⟩ := h
        cases ha
  | ok a =>
      constructor
      · intro h
        exact ⟨a, rfl, h⟩
      · intro h
        obtain ⟨a', ha, hf⟩ := h
        cases ha
        exact hf

theorem bind_eq_error {x : Except ε α} {f : α → Except ε β} {e : ε} :
    (x >>= f) = .error e ↔ x = .error e ∨ ∃ a, x = .ok a ∧ f a = .error e := by
  cases x with
  | error e' =>
      constructor
      · intro h
        cases h
        exact .inl rfl
      · intro h
        obtain h | h := h
        · cases h
          rfl
        · obtain ⟨a, ha, _⟩ := h
          cases ha
  | ok a =>
      constructor
      · intro h
        exact .inr ⟨a, rfl, h⟩
      · intro h
        obtain h | h := h
        · cases h
        · obtain ⟨a', ha, hf⟩ := h
          cases ha
          exact hf

section Check

variable {p : Prop} [Decidable p] {e e' : ε} {u : PUnit}

theorem check_eq_ok : check p e = .ok u ↔ p := by
  unfold check
  by_cases hp : p
  · rw [if_pos hp]
    exact iff_of_true rfl hp
  · rw [if_neg hp]
    exact iff_of_false (fun h => by cases h) hp

theorem check_eq_error :
    (check p e : Except ε PUnit.{v + 1}) = .error e' ↔ ¬ p ∧ e = e' := by
  unfold check
  by_cases hp : p
  · rw [if_pos hp]
    exact iff_of_false (fun h => by cases h) fun h => h.1 hp
  · rw [if_neg hp]
    constructor
    · intro h
      cases h
      exact ⟨hp, rfl⟩
    · intro h
      rw [h.2]

end Check

theorem fetch_eq_ok {found : Option α} {e : ε} {a : α} :
    fetch found e = .ok a ↔ found = some a := by
  cases found with
  | none => exact iff_of_false (fun h => by cases h) fun h => by cases h
  | some a' =>
      constructor
      · intro h
        cases h
        rfl
      · intro h
        cases h
        rfl

theorem fetch_eq_error {found : Option α} {e e' : ε} :
    fetch found e = .error e' ↔ found = none ∧ e = e' := by
  cases found with
  | none =>
      constructor
      · intro h
        cases h
        exact ⟨rfl, rfl⟩
      · intro h
        rw [h.2]
        rfl
  | some a => exact iff_of_false (fun h => by cases h) fun h => by cases h.1

-- ========================================================== transactions

/-- The state after a call. -/
def commit (call : σ → Except ε (α × σ)) (s : σ) : σ :=
  match call s with
  | .ok (_, s') => s'
  | .error _ => s

/-- What the calls that answer preserve, every call preserves. -/
theorem commit_preserves {call : σ → Except ε (α × σ)} {I : σ → Prop} {s : σ}
    (hcall : ∀ {a s'}, call s = .ok (a, s') → I s') (hs : I s) :
    I (commit call s) := by
  unfold commit
  cases h : call s with
  | ok answer => exact hcall (a := answer.1) h
  | error e => exact hs

-- ======================================================= kinds of errors

/-- Whatever is raised is of `P`. -/
def Only (P : ε → Prop) (x : Except ε α) : Prop := ∀ e, x = .error e → P e

section Only

variable {P : ε → Prop} {x : Except ε α} {f : α → Except ε β} {a : α} {e : ε}

@[simp] theorem only_ok : Only P (.ok a : Except ε α) ↔ True := by
  constructor
  · intro _
    trivial
  · intro _ e h
    cases h

@[simp] theorem only_error : Only P (.error e : Except ε α) ↔ P e := by
  constructor
  · intro h
    exact h e rfl
  · intro h e' he
    cases he
    exact h

/-- The second link is asked only where the first one passes. -/
theorem only_bind :
    Only P (x >>= f) ↔ Only P x ∧ ∀ a, x = .ok a → Only P (f a) := by
  constructor
  · intro h
    constructor
    · intro e he
      exact h e (bind_eq_error.mpr (.inl he))
    · intro a ha e he
      exact h e (bind_eq_error.mpr (.inr ⟨a, ha, he⟩))
  · rintro ⟨hx, hf⟩ e he
    rcases bind_eq_error.mp he with he | ⟨a, ha, he⟩
    · exact hx e he
    · exact hf a ha e he

end Only

end Exolon.Transaction
