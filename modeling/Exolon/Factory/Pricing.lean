/-
Pricing of provider usage: five token buckets, a table of rates, and the
cost in micro dollars.

Every number is a non-negative 64-bit integer, and so are the total and the
cost; the structures carry it.
-/
import Exolon.Factory.Audit
import Exolon.Lib.PyJson

namespace Exolon.Factory

/-- `PricingContractError` -/
structure PricingContractError where
  code : String
  detail : PyStr := []
  deriving DecidableEq

def maxSignedBigint : Nat := 2 ^ 63 - 1

/-- `_nonnegative_bigint`; a `bool` is no integer here. -/
def nonnegativeBigint (value : PyJson) (name : String) :
    Except PricingContractError { n : Nat // n ≤ maxSignedBigint } :=
  match value with
  | .int (.ofNat n) =>
      if h : n ≤ maxSignedBigint then .ok ⟨n, h⟩
      else .error ⟨"integer_overflow", py name⟩
  | _ => .error ⟨"invalid_nonnegative_integer", py name⟩

-- ================================================================= usage

/-- Five mutually exclusive billing buckets. -/
structure UsageTokens where
  inputTokens : Nat
  outputTokens : Nat
  reasoningTokens : Nat
  cachedInputTokens : Nat
  cacheWriteTokens : Nat
  total_le : inputTokens + outputTokens + reasoningTokens
    + cachedInputTokens + cacheWriteTokens ≤ maxSignedBigint

namespace UsageTokens

def totalTokens (usage : UsageTokens) : Nat :=
  usage.inputTokens + usage.outputTokens + usage.reasoningTokens
    + usage.cachedInputTokens + usage.cacheWriteTokens

/-- `UsageTokens(...)` -/
def checked (input output reasoning cachedInput cacheWrite : PyJson) :
    Except PricingContractError UsageTokens := do
  let input ← nonnegativeBigint input "input_tokens"
  let output ← nonnegativeBigint output "output_tokens"
  let reasoning ← nonnegativeBigint reasoning "reasoning_tokens"
  let cachedInput ← nonnegativeBigint cachedInput "cached_input_tokens"
  let cacheWrite ← nonnegativeBigint cacheWrite "cache_write_tokens"
  if h : input.val + output.val + reasoning.val + cachedInput.val
      + cacheWrite.val ≤ maxSignedBigint then
    .ok ⟨input, output, reasoning, cachedInput, cacheWrite, h⟩
  else .error ⟨"integer_overflow", py "total_tokens"⟩

end UsageTokens

-- ================================================================ tables

/-- Rates in micro dollars per million tokens, of schema version 1. -/
structure PriceTable where
  inputUsdMicrosPerMillion : Nat
  outputUsdMicrosPerMillion : Nat
  reasoningUsdMicrosPerMillion : Nat
  cachedInputUsdMicrosPerMillion : Nat
  cacheWriteUsdMicrosPerMillion : Nat
  rates_le : inputUsdMicrosPerMillion ≤ maxSignedBigint
    ∧ outputUsdMicrosPerMillion ≤ maxSignedBigint
    ∧ reasoningUsdMicrosPerMillion ≤ maxSignedBigint
    ∧ cachedInputUsdMicrosPerMillion ≤ maxSignedBigint
    ∧ cacheWriteUsdMicrosPerMillion ≤ maxSignedBigint

namespace PriceTable

def fields : List PyStr := [
  py "schema_version",
  py "input_usd_micros_per_million",
  py "output_usd_micros_per_million",
  py "reasoning_usd_micros_per_million",
  py "cached_input_usd_micros_per_million",
  py "cache_write_usd_micros_per_million"]

/-- `",".join(sorted(names))` -/
def joined (names : List PyStr) : PyStr :=
  List.intercalate (py ",") (names.insertionSort (· ≤ ·))

/-- The value under a key that is known to be there. -/
def field (value : PyJson) (name : String) : PyJson :=
  (value.get? (py name)).getD .none

/-- `PriceTableV1.from_dict` -/
def fromDict (value : PyJson) : Except PricingContractError PriceTable :=
  match value with
  | .dict members => do
      let names := members.map Prod.fst
      let unknown := names.filter fun name => name ∉ fields
      let missing := fields.filter fun name => name ∉ names
      if unknown ≠ [] then
        .error ⟨"unknown_price_table_fields", joined unknown⟩
      else if missing ≠ [] then
        .error ⟨"missing_price_table_fields", joined missing⟩
      else
        match field value "schema_version" with
        | .int 1 => do
            let rate (name : String) := nonnegativeBigint (field value name)
              name
            let input ← rate "input_usd_micros_per_million"
            let output ← rate "output_usd_micros_per_million"
            let reasoning ← rate "reasoning_usd_micros_per_million"
            let cachedInput ← rate "cached_input_usd_micros_per_million"
            let cacheWrite ← rate "cache_write_usd_micros_per_million"
            .ok ⟨input, output, reasoning, cachedInput, cacheWrite,
              input.2, output.2, reasoning.2, cachedInput.2, cacheWrite.2⟩
        | _ => .error ⟨"unsupported_price_table_schema", []⟩
  | _ => .error ⟨"invalid_price_table", []⟩

/-- `to_dict` -/
def toDict (table : PriceTable) : Json :=
  .obj [
    ("schema_version".toList, .int 1),
    ("input_usd_micros_per_million".toList,
      .int table.inputUsdMicrosPerMillion),
    ("output_usd_micros_per_million".toList,
      .int table.outputUsdMicrosPerMillion),
    ("reasoning_usd_micros_per_million".toList,
      .int table.reasoningUsdMicrosPerMillion),
    ("cached_input_usd_micros_per_million".toList,
      .int table.cachedInputUsdMicrosPerMillion),
    ("cache_write_usd_micros_per_million".toList,
      .int table.cacheWriteUsdMicrosPerMillion)]

/-- `price_table_digest` -/
def digest (sha256 : List UInt8 → Digest) (table : PriceTable) : Digest :=
  canonicalDigest sha256 table.toDict

end PriceTable

-- ================================================================== cost

/-- A bucket at its rate, rounded down. -/
def bucketCost (tokens rate : Nat) : Nat := tokens * rate / 1000000

/-- `calculate_cost_usd_micros`; the digest may be any value. -/
def calculateCostUsdMicros (sha256 : List UInt8 → Digest)
    (usage : UsageTokens) (table : PriceTable) (suppliedDigest : PyJson) :
    Except PricingContractError Nat :=
  match suppliedDigest with
  | .str supplied =>
      if supplied ≠ (table.digest sha256).text.map codePoint then
        .error ⟨"price_table_digest_mismatch", []⟩
      else
        let cost :=
          bucketCost usage.inputTokens table.inputUsdMicrosPerMillion
          + bucketCost usage.outputTokens table.outputUsdMicrosPerMillion
          + bucketCost usage.reasoningTokens
            table.reasoningUsdMicrosPerMillion
          + bucketCost usage.cachedInputTokens
            table.cachedInputUsdMicrosPerMillion
          + bucketCost usage.cacheWriteTokens
            table.cacheWriteUsdMicrosPerMillion
        if maxSignedBigint < cost then
          .error ⟨"integer_overflow", py "cost_usd_micros"⟩
        else .ok cost
  | _ => .error ⟨"price_table_digest_mismatch", []⟩

end Exolon.Factory
