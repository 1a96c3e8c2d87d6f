/-
The running optimum of a scan.

`keepLeast` keeps the value with the least key so far and the earlier one
of two with equal keys. `Optimal` is what a scan leaves: none of an empty
list, else a member with the least key.
-/
import Mathlib

namespace Exolon

universe u v

variable {α : Type u} {κ : Type v} [LinearOrder κ]

/-- One more candidate. -/
def keepLeast (key : α → κ) (best : Option α) (a : α) : Option α :=
  match best with
  | none => some a
  | some b => if key a < key b then some a else some b

/-- What is left of the candidates. -/
structure Optimal (key : α → κ) (candidates : List α) (best : Option α) :
    Prop where
  none_iff : best = none ↔ candidates = []
  least : ∀ b, best = some b →
    b ∈ candidates ∧ ∀ a ∈ candidates, key b ≤ key a

variable {key : α → κ} {candidates : List α} {best : Option α}

theorem Optimal.nil : Optimal key [] none :=
  ⟨by simp, by simp⟩

/-- A scan that has one more candidate behind it. -/
theorem Optimal.keep (h : Optimal key candidates best) (a : α) :
    Optimal key (candidates ++ [a]) (keepLeast key best a) := by
  cases best with
  | none =>
      rw [h.none_iff.mp rfl]
      exact ⟨by simp [keepLeast], by simp [keepLeast]⟩
  | some b =>
      obtain ⟨hmem, hleast⟩ := h.least b rfl
      unfold keepLeast
      by_cases hlt : key a < key b
      · simp only [if_pos hlt]
        refine ⟨by simp, ?_⟩
        rintro c ⟨⟩
        refine ⟨by simp, ?_⟩
        intro d hd
        rcases List.mem_append.mp hd with hd | hd
        · exact hlt.le.trans (hleast d hd)
        · rw [List.mem_singleton.mp hd]
      · simp only [if_neg hlt]
        refine ⟨by simp, ?_⟩
        rintro c ⟨⟩
        refine ⟨List.mem_append_left _ hmem, ?_⟩
        intro d hd
        rcases List.mem_append.mp hd with hd | hd
        · exact hleast d hd
        · rw [List.mem_singleton.mp hd]
          exact not_lt.mp hlt

/-- The same for a scan that passes over some of the candidates. -/
theorem Optimal.keep_filter {p : α → Bool}
    (h : Optimal key (candidates.filter p) best) (a : α) :
    Optimal key ((candidates ++ [a]).filter p)
      (if p a then keepLeast key best a else best) := by
  rw [List.filter_append, List.filter_singleton]
  cases p a with
  | true => exact h.keep a
  | false =>
      rw [cond_false, List.append_nil]
      exact h

theorem optimal_foldl (key : α → κ) (candidates : List α) :
    Optimal key candidates (candidates.foldl (keepLeast key) none) := by
  induction candidates using List.reverseRecOn with
  | nil => exact Optimal.nil
  | append_singleton candidates a ih =>
      rw [List.foldl_concat]
      exact ih.keep a

end Exolon
