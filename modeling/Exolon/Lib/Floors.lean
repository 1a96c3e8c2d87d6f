/-
Sums of products that are each rounded down.

`floored k xs rates` is the sum of `x * rate / k` over two lists. It is
monotone in both (`floored_mono`), and adding two lists before rounding gives
no less than adding after (`floored_add_le`) and at most one more for every
place (`floored_add_le_length`).
-/
import Mathlib

namespace Exolon.Floors

/-- The products, each rounded down, and their sum. -/
def floored (k : Nat) (xs rates : List Nat) : Nat :=
  (List.zipWith (fun x rate => x * rate / k) xs rates).sum

/-- The lists, place by place. -/
def added (xs ys : List Nat) : List Nat := List.zipWith (· + ·) xs ys

section

variable {k x y rate : Nat} {xs ys rates rates' : List Nat}

@[simp] theorem floored_nil_left : floored k [] rates = 0 := rfl

@[simp] theorem floored_nil_right : floored k xs [] = 0 := by
  unfold floored
  rw [List.zipWith_nil_right, List.sum_nil]

@[simp] theorem floored_cons :
    floored k (x :: xs) (rate :: rates)
      = x * rate / k + floored k xs rates := by
  unfold floored
  rw [List.zipWith_cons_cons, List.sum_cons]

/-- Two quotients lose at most one to the quotient of the sum. -/
theorem div_add_le (hk : 0 < k) : (x + y) / k ≤ x / k + y / k + 1 := by
  rw [Nat.add_div hk]
  by_cases h : k ≤ x % k + y % k
  · rw [if_pos h]
  · rw [if_neg h]
    omega

theorem floored_add_le (h : xs.length = ys.length) :
    floored k xs rates + floored k ys rates
      ≤ floored k (added xs ys) rates := by
  induction xs generalizing ys rates with
  | nil =>
      rw [List.length_nil, eq_comm, List.length_eq_zero_iff] at h
      subst h
      exact le_rfl
  | cons x xs ih =>
      cases ys with
      | nil => cases h
      | cons y ys =>
          cases rates with
          | nil => simp
          | cons rate rates =>
              have hrest := @ih _ rates (Nat.succ.inj h)
              have hfirst : x * rate / k + y * rate / k
                  ≤ (x + y) * rate / k := by
                rw [Nat.add_mul]
                exact Nat.div_add_div_le_add_div
              show floored k (x :: xs) (rate :: rates)
                + floored k (y :: ys) (rate :: rates)
                  ≤ floored k ((x + y) :: added xs ys) (rate :: rates)
              simp only [floored_cons]
              omega

theorem floored_add_le_length (hk : 0 < k) (h : xs.length = ys.length) :
    floored k (added xs ys) rates
      ≤ floored k xs rates + floored k ys rates + xs.length := by
  induction xs generalizing ys rates with
  | nil =>
      rw [List.length_nil, eq_comm, List.length_eq_zero_iff] at h
      subst h
      exact le_rfl
  | cons x xs ih =>
      cases ys with
      | nil => cases h
      | cons y ys =>
          cases rates with
          | nil => simp
          | cons rate rates =>
              have hrest := @ih _ rates (Nat.succ.inj h)
              have hfirst : (x + y) * rate / k
                  ≤ x * rate / k + y * rate / k + 1 := by
                rw [Nat.add_mul]
                exact div_add_le hk
              show floored k ((x + y) :: added xs ys) (rate :: rates) ≤ _
              simp only [floored_cons, List.length_cons]
              omega

theorem floored_mono (hxs : List.Forall₂ (· ≤ ·) xs ys)
    (hrates : List.Forall₂ (· ≤ ·) rates rates') :
    floored k xs rates ≤ floored k ys rates' := by
  induction hxs generalizing rates rates' with
  | nil => simp
  | @cons x y xs ys hx hxs ih =>
      cases hrates with
      | nil => simp
      | cons hrate hrates =>
          rw [floored_cons, floored_cons]
          have hproduct := Nat.mul_le_mul hx hrate
          exact Nat.add_le_add (Nat.div_le_div_right hproduct) (ih hrates)

end

end Exolon.Floors
