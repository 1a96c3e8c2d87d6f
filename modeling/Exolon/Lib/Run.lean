/-
Runs of a guarded transition function, and the rules every
run-level theorem of the development goes through.

A system is a step function `step : σ → α → Option σ` over an action
type: `none` is an action the state does not allow, or one that stops
the program. A run folds a list of actions and fails on the first
disabled one, so "for every interleaving" is "for every action list
whose run answers a state".

# The rules

- `run_invariant`: what one step preserves, a run preserves.
- `run_invariant_along`: the same with a condition the steps of this
  run are known to meet (`Along`), each at the state it is taken in.
- `run_invariant_rest`: the same with an invariant that may speak of the
  actions still to come, such as a count that must not run out.
- `visits_iff_along`: a property holds in every state of exactly the runs
  that meet a condition, when the condition keeps it and a step that keeps
  it meets the condition; `visits_iff_along_of_invariant` is the same over
  what every run keeps.

- `foldl_settles`: a loop over a list of items, where each item's turn
  settles something for it that the later turns keep.

`Along` is what a claim of the form "in every run whose steps all meet
the condition" quantifies over; `along_of_forall` discharges it where
the condition does not depend on the state.
-/
import Mathlib

namespace Exolon.Run

universe u v

variable {σ : Type u} {α : Type v}

-- ================================================================= runs

/-- Run a list of actions, failing on the first disabled one. -/
def run (step : σ → α → Option σ) : σ → List α → Option σ
  | s, [] => some s
  | s, a :: rest => (step s a).bind fun s' => run step s' rest

@[simp] theorem run_nil (step : σ → α → Option σ) (s : σ) :
    run step s [] = some s := rfl

theorem run_cons (step : σ → α → Option σ) (s : σ) (a : α) (rest : List α) :
    run step s (a :: rest) = (step s a).bind fun s' => run step s' rest := rfl

/-- A run that starts with `a` steps by `a` first. -/
theorem run_cons_inv {step : σ → α → Option σ} {s t : σ} {a : α}
    {rest : List α} (h : run step s (a :: rest) = some t) :
    ∃ s', step s a = some s' ∧ run step s' rest = some t :=
  Option.bind_eq_some_iff.mp h

/-- Runs compose: the second half starts where the first one ended. -/
theorem run_append (step : σ → α → Option σ) (s : σ) (l₁ l₂ : List α) :
    run step s (l₁ ++ l₂) = (run step s l₁).bind fun s' => run step s' l₂ := by
  induction l₁ generalizing s with
  | nil => rfl
  | cons a l₁ ih =>
      rw [List.cons_append, run_cons, run_cons, Option.bind_assoc]
      congr 1
      funext s'
      exact ih s'

theorem run_append_inv {step : σ → α → Option σ} {s t : σ} {l₁ l₂ : List α}
    (h : run step s (l₁ ++ l₂) = some t) :
    ∃ s', run step s l₁ = some s' ∧ run step s' l₂ = some t := by
  rw [run_append] at h
  exact Option.bind_eq_some_iff.mp h

/-- `t` is reached from `s` somewhere along the run of `acts`. -/
def Visits (step : σ → α → Option σ) (s : σ) (acts : List α) (t : σ) : Prop :=
  ∃ pre, pre <+: acts ∧ run step s pre = some t

/-- `t` is reached from `s` by some run. -/
def Reachable (step : σ → α → Option σ) (s t : σ) : Prop :=
  ∃ acts, run step s acts = some t

-- ================================================== conditions on steps

/-- Every step the run of `acts` takes meets `P` at the state it is
taken in. -/
def Along (step : σ → α → Option σ) (P : σ → α → Prop) : σ → List α → Prop
  | _, [] => True
  | s, a :: rest => P s a ∧ ∀ s', step s a = some s' → Along step P s' rest

/-- A condition that holds of every listed action in every state holds
along the run. -/
theorem along_of_forall {step : σ → α → Option σ} {P : σ → α → Prop}
    {acts : List α} (h : ∀ a ∈ acts, ∀ s, P s a) :
    ∀ s, Along step P s acts := by
  induction acts with
  | nil => exact fun _ => trivial
  | cons a rest ih =>
      intro s
      refine ⟨h a List.mem_cons_self s, fun s' _ => ?_⟩
      exact ih (fun b hb => h b (List.mem_cons_of_mem a hb)) s'

/-- A condition along a run holds along each prefix of it. -/
theorem Along.of_prefix {step : σ → α → Option σ} {P : σ → α → Prop}
    {pre acts : List α} (hpre : pre <+: acts) :
    ∀ {s : σ}, Along step P s acts → Along step P s pre := by
  induction pre generalizing acts with
  | nil => exact fun _ => trivial
  | cons a pre ih =>
      intro s h
      obtain ⟨suf, rfl⟩ := hpre
      refine ⟨h.1, fun s' hs' => ?_⟩
      exact ih (List.prefix_append pre suf) (h.2 s' hs')

-- ========================================================= the run rules

/-- An invariant that may speak of the actions still to come: what each
step hands on to the rest of the run, the run hands on to its end. -/
theorem run_invariant_rest {step : σ → α → Option σ}
    {I : List α → σ → Prop}
    (hstep : ∀ {s s' a rest}, I (a :: rest) s → step s a = some s' →
      I rest s') :
    ∀ {acts : List α} {s t : σ}, I acts s → run step s acts = some t →
      I [] t := by
  intro acts
  induction acts with
  | nil =>
      intro s t hI hrun
      cases hrun
      exact hI
  | cons a rest ih =>
      intro s t hI hrun
      obtain ⟨s', hs', hrest⟩ := run_cons_inv hrun
      exact ih (hstep hI hs') hrest

/-- What every step that meets `P` preserves, a run whose steps all meet
`P` preserves. -/
theorem run_invariant_along {step : σ → α → Option σ} {P : σ → α → Prop}
    {I : σ → Prop}
    (hstep : ∀ {s s' a}, I s → P s a → step s a = some s' → I s')
    {acts : List α} {s t : σ} (hI : I s) (hP : Along step P s acts)
    (hrun : run step s acts = some t) : I t := by
  have hend : I t ∧ Along step P t [] := by
    refine run_invariant_rest (I := fun rest s => I s ∧ Along step P s rest)
      ?_ ⟨hI, hP⟩ hrun
    intro s s' a rest h hs'
    exact ⟨hstep h.1 h.2.1 hs', h.2.2 s' hs'⟩
  exact hend.1

/-- What every step preserves, every run preserves. -/
theorem run_invariant {step : σ → α → Option σ} {I : σ → Prop}
    (hstep : ∀ {s s' a}, I s → step s a = some s' → I s')
    {acts : List α} {s t : σ} (hI : I s) (hrun : run step s acts = some t) :
    I t := by
  refine run_invariant_along (P := fun _ _ => True) ?_ hI ?_ hrun
  · intro s s' a h _ hs'
    exact hstep h hs'
  · exact along_of_forall (fun _ _ _ => trivial) s

/-- An invariant of the start state holds in every reachable state. -/
theorem Reachable.invariant {step : σ → α → Option σ} {I : σ → Prop}
    {s t : σ} (h : Reachable step s t) (hI : I s)
    (hstep : ∀ {s s' a}, I s → step s a = some s' → I s') : I t := by
  obtain ⟨acts, hrun⟩ := h
  exact run_invariant hstep hI hrun

-- ======================================================= exact conditions

/-- The first state of a run is one it visits, and a run visits what the
rest of it visits. -/
theorem Visits.start {step : σ → α → Option σ} (s : σ) (acts : List α) :
    Visits step s acts s :=
  ⟨[], List.nil_prefix, rfl⟩

theorem Visits.cons {step : σ → α → Option σ} {s s' t : σ} {a : α}
    {rest : List α} (hstep : step s a = some s')
    (h : Visits step s' rest t) : Visits step s (a :: rest) t := by
  obtain ⟨pre, hpre, hrun⟩ := h
  refine ⟨a :: pre, List.cons_prefix_cons.mpr ⟨rfl, hpre⟩, ?_⟩
  rw [run_cons, hstep]
  exact hrun

/-- Where every state of a run has a property, its steps meet what a step
between two such states meets. -/
theorem along_of_visits {step : σ → α → Option σ} {P : σ → α → Prop}
    {I : σ → Prop}
    (hback : ∀ {s a}, I s → (∀ s', step s a = some s' → I s') → P s a)
    {acts : List α} {s : σ} (h : ∀ t, Visits step s acts t → I t) :
    Along step P s acts := by
  induction acts generalizing s with
  | nil => trivial
  | cons a rest ih =>
      refine ⟨hback (h s (Visits.start s _)) ?_, ?_⟩
      · intro s' hs'
        exact h s' (Visits.cons hs' (Visits.start s' rest))
      · intro s' hs'
        exact ih fun t ht => h t (Visits.cons hs' ht)

/-- A property `I` holds in every state of exactly the runs whose steps all
meet `P`: `J` is what such runs keep. -/
theorem visits_iff_along {step : σ → α → Option σ} {P : σ → α → Prop}
    {I J : σ → Prop}
    (hstep : ∀ {s s' a}, J s → P s a → step s a = some s' → J s')
    (hholds : ∀ {s}, J s → I s)
    (hback : ∀ {s a}, I s → (∀ s', step s a = some s' → I s') → P s a)
    {acts : List α} {s : σ} (hJ : J s) :
    (∀ t, Visits step s acts t → I t) ↔ Along step P s acts := by
  constructor
  · exact along_of_visits hback
  · rintro hP t ⟨pre, hpre, hrun⟩
    exact hholds (run_invariant_along hstep hJ (hP.of_prefix hpre) hrun)

/-- The same, where every run keeps `K`. -/
theorem visits_iff_along_of_invariant {step : σ → α → Option σ}
    {P : σ → α → Prop} {I J K : σ → Prop}
    (hkeep : ∀ {s s' a}, K s → step s a = some s' → K s')
    (hstep : ∀ {s s' a}, K s → J s → P s a → step s a = some s' → J s')
    (hholds : ∀ {s}, K s → J s → I s)
    (hback : ∀ {s a}, K s → I s → (∀ s', step s a = some s' → I s') → P s a)
    {acts : List α} {s : σ} (hK : K s) (hJ : J s) :
    (∀ t, Visits step s acts t → I t) ↔ Along step P s acts := by
  have hboth : (∀ t, Visits step s acts t → K t ∧ I t)
      ↔ Along step P s acts := by
    refine visits_iff_along (J := fun s => K s ∧ J s) ?_ ?_ ?_ ⟨hK, hJ⟩
    · intro s s' a h hP hs'
      exact ⟨hkeep h.1 hs', hstep h.1 h.2 hP hs'⟩
    · intro s h
      exact ⟨h.1, hholds h.1 h.2⟩
    · intro s a h hnext
      exact hback h.1 h.2 fun s' hs' => (hnext s' hs').2
  rw [← hboth]
  constructor
  · rintro h t ⟨pre, hpre, hrun⟩
    exact ⟨run_invariant hkeep hK hrun, h t ⟨pre, hpre, hrun⟩⟩
  · intro h t ht
    exact (h t ht).2

-- ========================================================= a settling loop

/-- The turn of `a` from `s` to `s'`: the invariant after it, what it settles
for `a`, and that what was settled stays so. -/
structure Settles (I : σ → Prop) (C : α → σ → Prop)
    (a : α) (s s' : σ) : Prop where
  next : I s'
  settled : C a s'
  kept : ∀ b, C b s → C b s'

/-- A loop over some items, with an invariant that knows which are done:
what each turn settles, the later turns keep. -/
theorem foldl_settles {f : σ → α → σ}
    {I : List α → σ → Prop} {C : α → σ → Prop} {l : List α}
    (hstep : ∀ done a rest s, l = done ++ a :: rest → I done s →
      Settles (I (done ++ [a])) C a s (f s a))
    {s : σ} (hs : I [] s) : I l (l.foldl f s) ∧ ∀ a ∈ l, C a (l.foldl f s) := by
  have hrest : ∀ (rest done : List α) (s : σ), l = done ++ rest → I done s →
      (∀ a ∈ done, C a s) →
        I l (rest.foldl f s) ∧ ∀ a ∈ l, C a (rest.foldl f s) := by
    intro rest
    induction rest with
    | nil =>
        intro done s hl hs hdone
        rw [List.append_nil] at hl
        rw [hl]
        exact ⟨hs, hdone⟩
    | cons a rest ih =>
        intro done s hl hs hdone
        have hturn := hstep done a rest s hl hs
        refine ih (done ++ [a]) (f s a) ?_ hturn.next ?_
        · rw [hl, List.append_assoc]
          rfl
        · intro b hb
          rcases List.mem_append.mp hb with hb | hb
          · exact hturn.kept b (hdone b hb)
          · rw [List.mem_singleton.mp hb]
            exact hturn.settled
  exact hrest l [] s rfl hs fun a ha => absurd ha List.not_mem_nil

end Exolon.Run
