/-
The maximal runs of an increasing list of integers.

`runsFrom a b` reads the rest of the list with the run from `a` up to `b`
open. The runs have the members of the list, each of them in one run
(`mem_runs`); a run has no member of the list at either end of it
(`runs_maximal`), and there is a gap between two runs (`runs_apart`).
-/
import Mathlib

namespace Exolon.Runs

/-- The runs, each with its first member and what comes after its last. -/
def runsFrom (a b : Int) : List Int → List (Int × Int)
  | [] => [(a, b)]
  | c :: rest =>
      if c = b then runsFrom a (b + 1) rest
      else (a, b) :: runsFrom c (c + 1) rest

def runs : List Int → List (Int × Int)
  | [] => []
  | a :: rest => runsFrom a (a + 1) rest

/-- A list that goes on from the end of a run, upwards. -/
structure Rising (a b : Int) (rest : List Int) : Prop where
  open_ : a < b
  behind : ∀ c ∈ rest, b ≤ c
  sorted : rest.Pairwise (· < ·)

section Rest

variable {a b c : Int} {rest : List Int}

theorem Rising.join (h : Rising a b (c :: rest)) (hc : c = b) :
    Rising a (b + 1) rest := by
  have hsorted := List.pairwise_cons.mp h.sorted
  refine ⟨by have := h.open_; omega, ?_, hsorted.2⟩
  intro d hd
  have hlt := hsorted.1 d hd
  omega

theorem Rising.next (h : Rising a b (c :: rest)) :
    Rising c (c + 1) rest := by
  have hsorted := List.pairwise_cons.mp h.sorted
  refine ⟨by omega, ?_, hsorted.2⟩
  intro d hd
  have hlt := hsorted.1 d hd
  omega

/-- Where the runs of the rest are. -/
theorem mem_runsFrom (h : Rising a b rest) {c : Int} :
    (∃ r ∈ runsFrom a b rest, r.1 ≤ c ∧ c < r.2)
      ↔ (a ≤ c ∧ c < b) ∨ c ∈ rest := by
  induction rest generalizing a b with
  | nil => simp [runsFrom]
  | cons d rest ih =>
      rw [runsFrom]
      by_cases hd : d = b
      · rw [if_pos hd, ih (h.join hd), List.mem_cons]
        have hopen := h.open_
        constructor
        · rintro (hin | hin)
          · by_cases hlast : c = b
            · exact .inr (.inl (hlast.trans hd.symm))
            · exact .inl ⟨hin.1, by omega⟩
          · exact .inr (.inr hin)
        · rintro (hin | rfl | hin)
          · exact .inl ⟨hin.1, by omega⟩
          · exact .inl ⟨by omega, by omega⟩
          · exact .inr hin
      · rw [if_neg hd]
        simp only [List.mem_cons, exists_eq_or_imp]
        rw [ih h.next]
        have hone : d ≤ c ∧ c < d + 1 ↔ c = d := by omega
        rw [hone]

/-- The runs do not reach below the open one. -/
theorem le_of_mem_runsFrom (h : Rising a b rest) :
    ∀ r ∈ runsFrom a b rest, a ≤ r.1 ∧ r.1 < r.2 := by
  induction rest generalizing a b with
  | nil =>
      intro r hr
      rw [runsFrom, List.mem_singleton] at hr
      rw [hr]
      exact ⟨le_rfl, h.open_⟩
  | cons d rest ih =>
      intro r hr
      rw [runsFrom] at hr
      by_cases hd : d = b
      · rw [if_pos hd] at hr
        exact ih (h.join hd) r hr
      · rw [if_neg hd] at hr
        rcases List.mem_cons.mp hr with rfl | hr
        · exact ⟨le_rfl, h.open_⟩
        · have hin := ih h.next r hr
          have hlow := h.behind d List.mem_cons_self
          have hopen := h.open_
          exact ⟨by omega, hin.2⟩

/-- A gap after every run. -/
theorem runsFrom_apart (h : Rising a b rest) :
    (runsFrom a b rest).Pairwise fun r s => r.2 < s.1 := by
  induction rest generalizing a b with
  | nil => exact List.pairwise_singleton _ _
  | cons d rest ih =>
      rw [runsFrom]
      by_cases hd : d = b
      · rw [if_pos hd]
        exact ih (h.join hd)
      · rw [if_neg hd]
        refine List.pairwise_cons.mpr ⟨?_, ih h.next⟩
        intro s hs
        have hin := le_of_mem_runsFrom h.next s hs
        have hlow := h.behind d List.mem_cons_self
        show b < s.1
        omega

end Rest

section Whole

variable {l : List Int}

theorem rising_of_sorted {a : Int} {rest : List Int}
    (h : (a :: rest).Pairwise (· < ·)) : Rising a (a + 1) rest := by
  rw [List.pairwise_cons] at h
  refine ⟨by omega, ?_, h.2⟩
  intro c hc
  have hlt := h.1 c hc
  omega

/-- The runs have the members of the list. -/
theorem mem_runs (h : l.Pairwise (· < ·)) {c : Int} :
    c ∈ l ↔ ∃ r ∈ runs l, r.1 ≤ c ∧ c < r.2 := by
  cases l with
  | nil => simp [runs]
  | cons a rest =>
      rw [runs, mem_runsFrom (rising_of_sorted h), List.mem_cons]
      have hone : a ≤ c ∧ c < a + 1 ↔ c = a := by omega
      rw [hone]

theorem lt_of_mem_runs (h : l.Pairwise (· < ·)) :
    ∀ r ∈ runs l, r.1 < r.2 := by
  cases l with
  | nil => simp [runs]
  | cons a rest =>
      intro r hr
      exact (le_of_mem_runsFrom (rising_of_sorted h) r hr).2

theorem runs_apart (h : l.Pairwise (· < ·)) :
    (runs l).Pairwise fun r s => r.2 < s.1 := by
  cases l with
  | nil => exact List.Pairwise.nil
  | cons a rest => exact runsFrom_apart (rising_of_sorted h)

/-- Of two runs, one ends before the other one starts. -/
theorem runs_gap (h : l.Pairwise (· < ·)) :
    ∀ r ∈ runs l, ∀ s ∈ runs l, r.2 < s.1 ∨ s.2 < r.1 ∨ r = s := by
  have hsymm : Std.Symm fun r s : Int × Int =>
      r.2 < s.1 ∨ s.2 < r.1 ∨ r = s := by
    constructor
    rintro r s (hrs | hrs | rfl)
    · exact .inr (.inl hrs)
    · exact .inl hrs
    · exact .inr (.inr rfl)
  apply List.Pairwise.forall_of_forall
  · intro r _
    exact .inr (.inr rfl)
  · exact (runs_apart h).imp Or.inl

/-- A run could not be longer. -/
theorem runs_maximal (h : l.Pairwise (· < ·)) {r : Int × Int}
    (hr : r ∈ runs l) : r.1 - 1 ∉ l ∧ r.2 ∉ l := by
  have hwide := lt_of_mem_runs h r hr
  -- a member beside the run would be in another run, without a gap
  have hnone {c : Int} (hc : c ∈ l) : c ≠ r.1 - 1 ∧ c ≠ r.2 := by
    obtain ⟨s, hs, hin⟩ := (mem_runs h).mp hc
    rcases runs_gap h r hr s hs with hlt | hlt | rfl
    · omega
    · omega
    · omega
  exact ⟨fun hc => (hnone hc).1 rfl, fun hc => (hnone hc).2 rfl⟩

end Whole

end Exolon.Runs
