/-
Procedures over a state that raise, catch, and can be cut off anywhere.

A procedure runs on a state and ends in one of three ways: it is done with
a value, it raised an exception, or it was cut off, as by a crash of the
process. What was done to the state before stays done in all three. A
handler catches an exception and never a cut.

# Triples

`Meets I P c Q E` is the Hoare triple of such a procedure: started in a
state of `P` it ends done in `Q`, raised in `E`, and cut off in `I`. The
rules follow the constructors. A caller proves one triple a procedure and
composes them with `meets_bind` and `meets_tryCatch`.
-/
import Mathlib

namespace Exolon

universe u v w

/-- How a procedure ended. -/
inductive Outcome (ε : Type u) (α : Type v) where
  | done (a : α)
  | raised (e : ε)
  | cut

/-- A procedure on states `σ` that raises `ε` and answers `α`. -/
def Proc (σ : Type w) (ε : Type u) (α : Type v) := σ → Outcome ε α × σ

namespace Proc

variable {σ : Type w} {ε : Type u} {α β : Type v}

def pure (a : α) : Proc σ ε α := fun s => (.done a, s)

def raise (e : ε) : Proc σ ε α := fun s => (.raised e, s)

def cut : Proc σ ε α := fun s => (.cut, s)

def bind (c : Proc σ ε α) (f : α → Proc σ ε β) : Proc σ ε β := fun s =>
  match c s with
  | (.done a, t) => f a t
  | (.raised e, t) => (.raised e, t)
  | (.cut, t) => (.cut, t)

/-- Run a handler on what `c` raises, in the state it raised in. -/
def tryCatch (c : Proc σ ε α) (handler : ε → Proc σ ε α) : Proc σ ε α :=
  fun s =>
    match c s with
    | (.done a, t) => (.done a, t)
    | (.raised e, t) => handler e t
    | (.cut, t) => (.cut, t)

/-- Run `cleanup` where `c` is done or has raised; what `cleanup` raises
comes in place of what `c` did. -/
def andFinally (c : Proc σ ε α) (cleanup : Proc σ ε PUnit.{v + 1}) :
    Proc σ ε α := fun s =>
  match c s with
  | (.done a, t) => bind cleanup (fun _ => pure a) t
  | (.raised e, t) => bind cleanup (fun _ => raise e) t
  | (.cut, t) => (.cut, t)

/-- Answer with `a`, or raise. -/
def ofExcept : Except ε α → Proc σ ε α
  | .ok a => pure a
  | .error e => raise e

/-- The state. -/
def get : Proc σ ε σ := fun s => (.done s, s)

/-- Change the state. -/
def modify (f : σ → σ) : Proc σ ε PUnit := fun s => (.done ⟨⟩, f s)

instance : Monad (Proc.{u, v, w} σ ε) where
  pure := Proc.pure
  bind := Proc.bind

/-- What is read is the state it is read in. -/
theorem get_bind {β : Type w} (f : σ → Proc σ ε β) (s : σ) :
    ((get : Proc σ ε σ) >>= f) s = f s s := rfl

-- =============================================================== triples

/-- Started in `P`: done in `Q`, raised in `E`, cut off in `I`. -/
def Meets (I P : σ → Prop) (c : Proc σ ε α) (Q : α → σ → Prop)
    (E : ε → σ → Prop) : Prop :=
  ∀ s, P s →
    match c s with
    | (.done a, t) => Q a t
    | (.raised e, t) => E e t
    | (.cut, t) => I t

section Rules

variable {I P P' : σ → Prop} {E E' : ε → σ → Prop}

theorem meets_pure {Q : α → σ → Prop} {a : α} (h : ∀ s, P s → Q a s) :
    Meets I P (Pure.pure a : Proc σ ε α) Q E := h

theorem meets_raise {Q : α → σ → Prop} {e : ε} (h : ∀ s, P s → E e s) :
    Meets I P (raise e : Proc σ ε α) Q E := h

theorem meets_cut {Q : α → σ → Prop} (h : ∀ s, P s → I s) :
    Meets I P (cut : Proc σ ε α) Q E := h

theorem meets_get {Q : σ → σ → Prop} (h : ∀ s, P s → Q s s) :
    Meets I P (get : Proc σ ε σ) Q E := h

theorem meets_modify {f : σ → σ} {Q : PUnit → σ → Prop}
    (h : ∀ s, P s → Q ⟨⟩ (f s)) :
    Meets I P (modify f : Proc σ ε PUnit) Q E := h

/-- The second half starts where the first one was done. -/
theorem meets_bind {c : Proc σ ε α} {f : α → Proc σ ε β}
    {R : α → σ → Prop} {Q : β → σ → Prop} (hc : Meets I P c R E)
    (hf : ∀ a, Meets I (R a) (f a) Q E) : Meets I P (c >>= f) Q E := by
  intro s hs
  have hfirst := hc s hs
  show match Proc.bind c f s with
    | (.done b, t) => Q b t
    | (.raised e, t) => E e t
    | (.cut, t) => I t
  unfold Proc.bind
  cases hrun : c s with
  | mk outcome t =>
      rw [hrun] at hfirst
      cases outcome with
      | done a => exact hf a t hfirst
      | raised e => exact hfirst
      | cut => exact hfirst

/-- A handler starts where the exception was raised. -/
theorem meets_tryCatch {c : Proc σ ε α} {handler : ε → Proc σ ε α}
    {Q : α → σ → Prop} (hc : Meets I P c Q E)
    (hh : ∀ e, Meets I (E e) (handler e) Q E') :
    Meets I P (tryCatch c handler) Q E' := by
  intro s hs
  have hfirst := hc s hs
  unfold tryCatch
  cases hrun : c s with
  | mk outcome t =>
      rw [hrun] at hfirst
      cases outcome with
      | done a => exact hfirst
      | raised e => exact hh e t hfirst
      | cut => exact hfirst

/-- The clean-up starts where `c` ended. -/
theorem meets_andFinally {c : Proc σ ε α} {cleanup : Proc σ ε PUnit}
    {R Q : α → σ → Prop} (hc : Meets I P c R E)
    (hdone : ∀ a, Meets I (R a) cleanup (fun _ => Q a) E')
    (hraised : ∀ e, Meets I (E e) cleanup (fun _ => E' e) E') :
    Meets I P (andFinally c cleanup) Q E' := by
  intro s hs
  have hfirst := hc s hs
  unfold andFinally bind
  cases hrun : c s with
  | mk outcome t =>
      rw [hrun] at hfirst
      cases outcome with
      | done a =>
          have hclean := hdone a t hfirst
          dsimp only
          cases hend : cleanup t with
          | mk outcome u =>
              rw [hend] at hclean
              cases outcome <;> exact hclean
      | raised e =>
          have hclean := hraised e t hfirst
          dsimp only
          cases hend : cleanup t with
          | mk outcome u =>
              rw [hend] at hclean
              cases outcome <;> exact hclean
      | cut => exact hfirst

theorem meets_ofExcept {x : Except ε α} {Q : α → σ → Prop}
    (hok : ∀ a s, x = .ok a → P s → Q a s)
    (herror : ∀ e s, x = .error e → P s → E e s) :
    Meets I P (ofExcept x) Q E := by
  cases x with
  | ok a => exact fun s => hok a s rfl
  | error e => exact fun s => herror e s rfl

/-- Weaker before, stronger after. -/
theorem Meets.mono {c : Proc σ ε α} {Q Q' : α → σ → Prop}
    (h : Meets I P c Q E) (hP : ∀ s, P' s → P s)
    (hQ : ∀ a s, Q a s → Q' a s) (hE : ∀ e s, E e s → E' e s) :
    Meets I P' c Q' E' := by
  intro s hs
  have hend := h s (hP s hs)
  cases hrun : c s with
  | mk outcome t =>
      rw [hrun] at hend
      cases outcome with
      | done a => exact hQ a t hend
      | raised e => exact hE e t hend
      | cut => exact hend

theorem Meets.pre {c : Proc σ ε α} {Q : α → σ → Prop}
    (h : Meets I P c Q E) (hP : ∀ s, P' s → P s) : Meets I P' c Q E :=
  h.mono hP (fun _ _ hQ => hQ) (fun _ _ hE => hE)

/-- A fact about the state that selects the procedure. -/
theorem meets_of_forall {c : Proc σ ε α} {Q : α → σ → Prop}
    (h : ∀ s, P s → Meets I (fun t => t = s) c Q E) : Meets I P c Q E :=
  fun s hs => h s hs s rfl

/-- What a triple says of one run. -/
theorem Meets.outcome {c : Proc σ ε α} {Q : α → σ → Prop}
    (h : Meets I P c Q E) {s : σ} (hs : P s) :
    (∀ a, (c s).1 = .done a → Q a (c s).2)
      ∧ (∀ e, (c s).1 = .raised e → E e (c s).2)
      ∧ ((c s).1 = .cut → I (c s).2) := by
  have hend := h s hs
  cases hrun : c s with
  | mk outcome t =>
      rw [hrun] at hend
      refine ⟨?_, ?_, ?_⟩
      · rintro a rfl
        exact hend
      · rintro e rfl
        exact hend
      · rintro rfl
        exact hend

/-- However it ended, it ended in `I`. -/
theorem Meets.ends {c : Proc σ ε α} {Q : α → σ → Prop}
    (h : Meets I P c Q E) (hQ : ∀ a s, Q a s → I s)
    (hE : ∀ e s, E e s → I s) {s : σ} (hs : P s) : I (c s).2 := by
  have hend := h s hs
  cases hrun : c s with
  | mk outcome t =>
      rw [hrun] at hend
      cases outcome with
      | done a => exact hQ a t hend
      | raised e => exact hE e t hend
      | cut => exact hend

end Rules

end Proc

end Exolon
