/-
Numbers that are given out one after the other.

A table that gives every new row the largest number so far and one numbers
its rows `1, 2, …, n` in the order of their insertion (`Numbered.append`), so
the largest number is how many there are, and no number is given out twice.
-/
import Mathlib

namespace Exolon

/-- The numbers are `1, 2, …, n`. -/
def Numbered (numbers : List Nat) : Prop :=
  numbers = List.range' 1 numbers.length

namespace Numbered

variable {numbers : List Nat}

theorem nil : Numbered [] := rfl

theorem foldr_max_append (numbers : List Nat) (n : Nat) :
    (numbers ++ [n]).foldr max 0 = max (numbers.foldr max 0) n := by
  induction numbers with
  | nil => simp
  | cons m numbers ih =>
      show max m ((numbers ++ [n]).foldr max 0) = _
      rw [ih]
      exact (max_assoc _ _ _).symm

/-- The largest number is the number of rows. -/
theorem last (h : Numbered numbers) :
    numbers.foldr max 0 = numbers.length := by
  rw [h, List.length_range']
  generalize numbers.length = n
  induction n with
  | zero => rfl
  | succ n ih =>
      rw [List.range'_concat, foldr_max_append, ih]
      omega

/-- The next row has the next number. -/
theorem append (h : Numbered numbers) :
    Numbered (numbers ++ [numbers.foldr max 0 + 1]) := by
  rw [h.last]
  unfold Numbered
  rw [List.length_append, List.length_singleton, List.range'_concat, ← h]
  congr 2
  omega

theorem pairwise (h : Numbered numbers) : numbers.Pairwise (· < ·) := by
  rw [h]
  exact List.pairwise_lt_range'

theorem mem_iff (h : Numbered numbers) {n : Nat} :
    n ∈ numbers ↔ 1 ≤ n ∧ n ≤ numbers.length := by
  constructor
  · intro hn
    rw [h, List.mem_range'_1] at hn
    omega
  · intro hn
    rw [h, List.mem_range'_1]
    omega

end Numbered

end Exolon
