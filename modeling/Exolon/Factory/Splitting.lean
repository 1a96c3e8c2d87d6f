/-
What splitting usage can gain, and when a cost overflows.

A cost is a sum of five buckets, each at its own rate and rounded down, so
the laws of such sums are the laws of a cost wherever it is defined
(`calculateCostUsdMicros_ok`).
-/
import Exolon.Factory.Pricing
import Exolon.Lib.Floors

namespace Exolon.Factory

open Floors

-- ================================================================ buckets

/-- The five buckets, in the order of their rates. -/
def UsageTokens.buckets (usage : UsageTokens) : List Nat := [
  usage.inputTokens, usage.outputTokens, usage.reasoningTokens,
  usage.cachedInputTokens, usage.cacheWriteTokens]

def PriceTable.rates (table : PriceTable) : List Nat := [
  table.inputUsdMicrosPerMillion, table.outputUsdMicrosPerMillion,
  table.reasoningUsdMicrosPerMillion, table.cachedInputUsdMicrosPerMillion,
  table.cacheWriteUsdMicrosPerMillion]

/-- The sum of two usages, bucket by bucket, where its total is one that a
usage may have. -/
def UsageTokens.add (a b : UsageTokens)
    (h : a.totalTokens + b.totalTokens ≤ maxSignedBigint) : UsageTokens where
  inputTokens := a.inputTokens + b.inputTokens
  outputTokens := a.outputTokens + b.outputTokens
  reasoningTokens := a.reasoningTokens + b.reasoningTokens
  cachedInputTokens := a.cachedInputTokens + b.cachedInputTokens
  cacheWriteTokens := a.cacheWriteTokens + b.cacheWriteTokens
  total_le := by
    unfold totalTokens at h
    omega

theorem UsageTokens.buckets_add {a b : UsageTokens}
    (h : a.totalTokens + b.totalTokens ≤ maxSignedBigint) :
    (a.add b h).buckets = added a.buckets b.buckets := rfl

/-- The exact sum of the floors. -/
def exactCost (usage : UsageTokens) (table : PriceTable) : Nat :=
  floored 1000000 usage.buckets table.rates

/-- The digest that a caller has to supply with a table. -/
def PriceTable.supplied (sha256 : List UInt8 → Digest) (table : PriceTable) :
    PyJson :=
  .str ((table.digest sha256).text.map codePoint)

-- =================================================================== cost

section

variable {sha256 : List UInt8 → Digest} {usage usage' : UsageTokens}
  {table table' : PriceTable} {supplied : PyJson}

/-- With the digest of its table, a cost is exact or above the bound. -/
theorem calculateCostUsdMicros_supplied :
    calculateCostUsdMicros sha256 usage table (table.supplied sha256)
      = if maxSignedBigint < exactCost usage table then
          .error ⟨"integer_overflow", py "cost_usd_micros"⟩
        else .ok (exactCost usage table) := by
  have hexact : exactCost usage table
      = bucketCost usage.inputTokens table.inputUsdMicrosPerMillion
        + bucketCost usage.outputTokens table.outputUsdMicrosPerMillion
        + bucketCost usage.reasoningTokens table.reasoningUsdMicrosPerMillion
        + bucketCost usage.cachedInputTokens
          table.cachedInputUsdMicrosPerMillion
        + bucketCost usage.cacheWriteTokens
          table.cacheWriteUsdMicrosPerMillion := by
    unfold exactCost UsageTokens.buckets PriceTable.rates bucketCost
    simp only [floored_cons, floored_nil_left]
    omega
  unfold calculateCostUsdMicros PriceTable.supplied
  dsimp only
  rw [if_neg (not_not.mpr rfl), hexact]

/-- Another value is refused. -/
theorem calculateCostUsdMicros_other (h : supplied ≠ table.supplied sha256) :
    calculateCostUsdMicros sha256 usage table supplied
      = .error ⟨"price_table_digest_mismatch", []⟩ := by
  unfold calculateCostUsdMicros
  cases supplied with
  | str s =>
      have hne : s ≠ (table.digest sha256).text.map codePoint := by
        rintro rfl
        exact h rfl
      exact if_pos hne
  | _ => rfl

theorem calculateCostUsdMicros_ok {cost : Nat} :
    calculateCostUsdMicros sha256 usage table supplied = .ok cost
      ↔ supplied = table.supplied sha256 ∧ cost = exactCost usage table
        ∧ cost ≤ maxSignedBigint := by
  by_cases hs : supplied = table.supplied sha256
  · subst hs
    rw [calculateCostUsdMicros_supplied]
    by_cases hlt : maxSignedBigint < exactCost usage table
    · rw [if_pos hlt]
      constructor
      · intro h
        cases h
      · rintro ⟨-, rfl, hle⟩
        exact absurd hle (Nat.not_le.mpr hlt)
    · rw [if_neg hlt, Except.ok.injEq]
      constructor
      · rintro rfl
        exact ⟨rfl, rfl, Nat.le_of_not_lt hlt⟩
      · rintro ⟨-, rfl, -⟩
        rfl
  · rw [calculateCostUsdMicros_other hs]
    constructor
    · intro h
      cases h
    · exact fun h => absurd h.1 hs

theorem calculateCostUsdMicros_overflow :
    calculateCostUsdMicros sha256 usage table supplied
        = .error ⟨"integer_overflow", py "cost_usd_micros"⟩
      ↔ supplied = table.supplied sha256
        ∧ maxSignedBigint < exactCost usage table := by
  by_cases hs : supplied = table.supplied sha256
  · subst hs
    rw [calculateCostUsdMicros_supplied]
    by_cases hlt : maxSignedBigint < exactCost usage table
    · rw [if_pos hlt]
      exact ⟨fun _ => ⟨rfl, hlt⟩, fun _ => rfl⟩
    · rw [if_neg hlt]
      constructor
      · intro h
        cases h
      · exact fun h => absurd h.2 hlt
  · rw [calculateCostUsdMicros_other hs]
    constructor
    · intro h
      have hcode := congrArg PricingContractError.code (Except.error.inj h)
      exact absurd hcode (by decide)
    · exact fun h => absurd h.1 hs

/-- More tokens and higher rates cost no less. -/
theorem exactCost_mono
    (husage : List.Forall₂ (· ≤ ·) usage.buckets usage'.buckets)
    (htable : List.Forall₂ (· ≤ ·) table.rates table'.rates) :
    exactCost usage table ≤ exactCost usage' table' :=
  floored_mono husage htable

end

/-- Splitting usage gains at most one micro dollar a bucket, more usage at
higher rates is defined only if less is, and costs no less, and the only cost
that is refused for its size is one above the bound. -/
theorem calculateCostUsdMicros_laws (sha256 : List UInt8 → Digest) :
    (∀ (table : PriceTable) (a b : UsageTokens)
      (h : a.totalTokens + b.totalTokens ≤ maxSignedBigint)
      (s s' s'' : PyJson) (ca cb cost : Nat),
      calculateCostUsdMicros sha256 a table s = .ok ca →
      calculateCostUsdMicros sha256 b table s' = .ok cb →
      calculateCostUsdMicros sha256 (a.add b h) table s'' = .ok cost →
        ca + cb ≤ cost ∧ cost ≤ ca + cb + 5)
      ∧ (∀ (usage usage' : UsageTokens) (table table' : PriceTable)
        (s' : PyJson) (cost' : Nat),
        List.Forall₂ (· ≤ ·) usage.buckets usage'.buckets →
        List.Forall₂ (· ≤ ·) table.rates table'.rates →
        calculateCostUsdMicros sha256 usage' table' s' = .ok cost' →
          ∃ cost, calculateCostUsdMicros sha256 usage table
              (table.supplied sha256) = .ok cost ∧ cost ≤ cost')
      ∧ ∀ (usage : UsageTokens) (table : PriceTable) (s : PyJson),
        (calculateCostUsdMicros sha256 usage table s
            = .error ⟨"integer_overflow", py "cost_usd_micros"⟩
          ↔ s = table.supplied sha256
            ∧ maxSignedBigint < exactCost usage table)
        ∧ ∀ cost, calculateCostUsdMicros sha256 usage table s = .ok cost →
          cost = exactCost usage table := by
  refine ⟨?_, ?_, ?_⟩
  · intro table a b h s s' s'' ca cb cost ha hb hcost
    obtain ⟨-, rfl, -⟩ := calculateCostUsdMicros_ok.mp ha
    obtain ⟨-, rfl, -⟩ := calculateCostUsdMicros_ok.mp hb
    obtain ⟨-, rfl, -⟩ := calculateCostUsdMicros_ok.mp hcost
    unfold exactCost
    rw [UsageTokens.buckets_add]
    have hlength : a.buckets.length = b.buckets.length := rfl
    exact ⟨floored_add_le hlength,
      floored_add_le_length (by decide) hlength⟩
  · intro usage usage' table table' s' cost' husage htable h
    obtain ⟨-, rfl, hle⟩ := calculateCostUsdMicros_ok.mp h
    have hmono := exactCost_mono husage htable
    exact ⟨exactCost usage table,
      calculateCostUsdMicros_ok.mpr ⟨rfl, rfl, hmono.trans hle⟩, hmono⟩
  · intro usage table s
    refine ⟨calculateCostUsdMicros_overflow, fun cost h => ?_⟩
    exact (calculateCostUsdMicros_ok.mp h).2.1

-- ================================================================ a sample

def oneToken : UsageTokens := ⟨1, 1, 1, 1, 1, by decide⟩

/-- Half a micro dollar a token. -/
def halfTable : PriceTable :=
  ⟨500000, 500000, 500000, 500000, 500000, by decide⟩

/-- SHA-256 of the table. -/
def halfSha (_ : List UInt8) : Digest where
  text :=
    "7e5f9ead3990c6c3da2ad0630bb19e8519639d57fe4c5378102ebbac8f28577c".toList
  length_eq := by decide
  hex := by decide

theorem cost_oneToken :
    calculateCostUsdMicros halfSha oneToken halfTable
      (halfTable.supplied halfSha) = .ok 0 := by
  rw [calculateCostUsdMicros_supplied]
  rfl

theorem cost_twoTokens :
    calculateCostUsdMicros halfSha (oneToken.add oneToken (by decide))
      halfTable (halfTable.supplied halfSha) = .ok 5 := by
  rw [calculateCostUsdMicros_supplied]
  rfl

/-- One token in each bucket costs nothing, and two cost five. -/
theorem calculateCostUsdMicros_laws_half :
    calculateCostUsdMicros halfSha (oneToken.add oneToken (by decide))
        halfTable (halfTable.supplied halfSha) = .ok 5
      ∧ 0 + 0 ≤ 5 ∧ 5 ≤ 0 + 0 + 5 := by
  refine ⟨cost_twoTokens, ?_⟩
  exact (calculateCostUsdMicros_laws halfSha).1 halfTable oneToken oneToken
    (by decide) _ _ _ 0 0 5 cost_oneToken cost_oneToken cost_twoTokens

end Exolon.Factory
