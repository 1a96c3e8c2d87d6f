/-
Nearest-rank percentiles.

The nearest-rank percentile of some values is one of them: the one whose
rank, counted from one in ascending order, is `percent` of their number,
rounded up. What a bound on it says does not need the order:
`nearestRank_le_iff` counts the values within the bound.

The other half of the module is the arithmetic of rates in fixed point: a
rate that is rounded down to a number of parts compares with a bound as the
fraction does, as far as it can (`rate_lt_iff`, `lt_rate_iff`).
-/
import Mathlib

namespace Exolon.Rank

universe u

section Order

variable {α : Type u} [LinearOrder α] {l : List α} {b d : α} {k percent : Nat}

/-- The value of a rank, counted from one in ascending order. -/
def ranked (k : Nat) (l : List α) (d : α) : α :=
  (l.insertionSort (· ≤ ·)).getD (k - 1) d

/-- In ascending order, the values within a bound come first. -/
theorem sorted_le_iff {s : List α} (hs : s.Pairwise (· ≤ ·)) {i : Nat}
    (hi : i < s.length) : s[i] ≤ b ↔ i < s.countP (· ≤ b) := by
  induction s generalizing i with
  | nil => exact absurd hi (Nat.not_lt_zero i)
  | cons a s ih =>
      rw [List.pairwise_cons] at hs
      by_cases ha : a ≤ b
      · have hcount : (a :: s).countP (· ≤ b) = s.countP (· ≤ b) + 1 :=
          List.countP_cons_of_pos (decide_eq_true ha)
        rw [hcount]
        cases i with
        | zero => exact iff_of_true ha (Nat.succ_pos _)
        | succ i =>
            rw [List.getElem_cons_succ, ih hs.2, Nat.succ_lt_succ_iff]
      · -- the first value is beyond the bound, so all are
        have hnone : (a :: s).countP (· ≤ b) = 0 := by
          rw [List.countP_eq_zero]
          intro c hc
          rw [decide_eq_true_eq]
          rcases List.mem_cons.mp hc with rfl | hc
          · exact ha
          · exact fun hcb => ha ((hs.1 c hc).trans hcb)
        rw [hnone]
        apply iff_of_false
        · intro hib
          rcases List.mem_cons.mp (List.getElem_mem hi) with hia | his
          · exact ha (hia ▸ hib)
          · exact ha ((hs.1 _ his).trans hib)
        · exact Nat.not_lt_zero i

/-- The value of a rank is within a bound as soon as that many values are. -/
theorem ranked_le_iff (hk : 1 ≤ k) (hlength : k ≤ l.length) :
    ranked k l d ≤ b ↔ k ≤ l.countP (· ≤ b) := by
  have hperm := List.perm_insertionSort (· ≤ ·) l
  have hi : k - 1 < (l.insertionSort (· ≤ ·)).length := by
    rw [hperm.length_eq]
    omega
  unfold ranked
  rw [List.getD_eq_getElem _ d hi,
    sorted_le_iff (List.pairwise_insertionSort (· ≤ ·) l) hi,
    hperm.countP_eq]
  omega

/-- The nearest-rank percentile; `d` stands for none. -/
def nearestRank (percent : Nat) (l : List α) (d : α) : α :=
  ranked ((percent * l.length + 99) / 100) l d

/-- It is within a bound as soon as that percentage of the values is. -/
theorem nearestRank_le_iff (hl : l ≠ [])
    (hpercent : 1 ≤ percent ∧ percent ≤ 100) :
    nearestRank percent l d ≤ b
      ↔ percent * l.length ≤ 100 * l.countP (· ≤ b) := by
  have hpos : 0 < l.length := List.length_pos_iff.mpr hl
  have hlow : l.length ≤ percent * l.length :=
    Nat.le_mul_of_pos_left _ hpercent.1
  have hhigh : percent * l.length ≤ 100 * l.length :=
    Nat.mul_le_mul_right _ hpercent.2
  unfold nearestRank
  rw [ranked_le_iff (by omega) (by omega)]
  omega

end Order

-- ================================================================= rates

section Rate

variable {parts whole bound count : Nat}

/-- A rate that was rounded down is below a bound as the fraction is. -/
theorem rate_lt_iff (hwhole : 0 < whole) :
    count * parts / whole < bound ↔ count * parts < bound * whole :=
  Nat.div_lt_iff_lt_mul hwhole

/-- It is above a bound as the fraction is, as long as one more of the whole
is no less than one more part: where the bound is `p` of `q` of the parts,
and the whole is not greater than `parts / q`. -/
theorem lt_rate_iff {p q : Nat} (hwhole : 0 < whole) (hqpos : 0 < q)
    (hbound : bound * q = p * parts) (hq : whole * q ≤ parts) :
    bound < count * parts / whole ↔ p * whole < q * count := by
  have hparts : 0 < parts := (Nat.mul_pos hwhole hqpos).trans_le hq
  have hscaled : q * (bound * whole) = p * whole * parts := by
    calc q * (bound * whole) = bound * q * whole := by ring
      _ = p * whole * parts := by rw [hbound]; ring
  rw [Nat.lt_iff_add_one_le, Nat.le_div_iff_mul_le hwhole, Nat.add_one_mul]
  constructor
  · intro h
    have hle : q * (bound * whole) + q * whole ≤ q * count * parts := by
      rw [← Nat.mul_add, Nat.mul_assoc q count]
      exact Nat.mul_le_mul_left q h
    have hlt : p * whole * parts < q * count * parts := by
      have hone : 0 < q * whole := Nat.mul_pos hqpos hwhole
      omega
    exact lt_of_mul_lt_mul_right hlt (Nat.zero_le parts)
  · intro h
    have hle : (p * whole + 1) * parts ≤ q * count * parts :=
      Nat.mul_le_mul_right parts h
    rw [Nat.add_one_mul, ← hscaled] at hle
    have hboth : q * (bound * whole + whole) ≤ q * (count * parts) := by
      rw [Nat.mul_add, ← Nat.mul_assoc q count, Nat.mul_comm q whole]
      omega
    exact Nat.le_of_mul_le_mul_left hboth hqpos

end Rate

end Exolon.Rank
