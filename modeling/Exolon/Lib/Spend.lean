/-
Tokens that are spent once.

A `Holding` says of every token whether it is known, that is, was ever made,
and whether it is live. `Later` is any change that makes no known token live
again; `Spent` is a list of tokens no two of which are the same and none of
which is live. What is spent stays spent (`Spent.later`), and a change that
takes live tokens adds them (`Spent.spend`).
-/
import Mathlib

namespace Exolon.Spend

variable {τ : Type}

/-- What is held at a moment. -/
structure Holding (τ : Type) where
  Known : τ → Prop
  Live : τ → Prop

/-- No token that was known becomes live. -/
def Later (before after : Holding τ) : Prop :=
  ∀ t, before.Known t → after.Known t ∧ (after.Live t → before.Live t)

theorem Later.refl (h : Holding τ) : Later h h :=
  fun _ hknown => ⟨hknown, id⟩

theorem Later.trans {a b c : Holding τ} (hab : Later a b) (hbc : Later b c) :
    Later a c := by
  intro t hknown
  obtain ⟨hb, hlive⟩ := hab t hknown
  obtain ⟨hc, hlive'⟩ := hbc t hb
  exact ⟨hc, fun h => hlive (hlive' h)⟩

/-- Tokens that are gone, each of them once. -/
structure Spent (h : Holding τ) (tokens : List τ) : Prop where
  nodup : tokens.Nodup
  gone : ∀ t ∈ tokens, h.Known t ∧ ¬ h.Live t

theorem Spent.nil (h : Holding τ) : Spent h [] where
  nodup := List.nodup_nil
  gone := by simp

theorem Spent.later {before after : Holding τ} {tokens : List τ}
    (h : Spent before tokens) (hlater : Later before after) :
    Spent after tokens where
  nodup := h.nodup
  gone := by
    intro t ht
    obtain ⟨hknown, hdead⟩ := h.gone t ht
    obtain ⟨hafter, hlive⟩ := hlater t hknown
    exact ⟨hafter, fun hl => hdead (hlive hl)⟩

/-- Live tokens are taken. -/
theorem Spent.spend {before after : Holding τ} {tokens taken : List τ}
    (h : Spent before tokens) (hlater : Later before after)
    (hnodup : taken.Nodup)
    (htaken : ∀ t ∈ taken, before.Known t ∧ before.Live t ∧ ¬ after.Live t) :
    Spent after (taken ++ tokens) where
  nodup := by
    rw [List.nodup_append]
    refine ⟨hnodup, h.nodup, ?_⟩
    intro t ht u hu heq
    subst heq
    exact (h.gone t hu).2 (htaken t ht).2.1
  gone := by
    intro t ht
    rcases List.mem_append.mp ht with hnew | hold
    · obtain ⟨hknown, _, hdead⟩ := htaken t hnew
      exact ⟨(hlater t hknown).1, hdead⟩
    · exact (h.later hlater).gone t hold

end Exolon.Spend
