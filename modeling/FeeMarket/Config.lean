import FeeMarket.Json.Decode

/-!
# Parameters

**Chain parameters** (`ChainConfig`). The block at which the fee market starts, if it ever does,
the elasticity (how many times the gas target the gas limit is), and the denominator that
bounds how far the base fee moves in one block. All nodes of a chain agree on them.

**Query limits** (`OracleConfig`). How many percentiles a query may ask for, how many blocks it
may cover when it needs headers only and when it needs full blocks, and how many fetchers
work on it.

**Valid parameters.** A fee market divides by the elasticity and the denominator, and a query
needs a fetcher, so none of them is zero; and full blocks are never served further back than
headers.
-/

namespace FeeMarket

/-- The parameters of the fee market of a chain. -/
structure ChainConfig where
  /-- The first block of the fee market, if there is one. -/
  forkBlock : Option UInt64 := some 0
  elasticity : UInt64 := 2
  denominator : UInt64 := 8
deriving DecidableEq, Inhabited

/-- The limits of a query. -/
structure OracleConfig where
  maxPercentiles : UInt64 := 100
  /-- The longest window of a query that needs headers only. -/
  maxHeaderHistory : UInt64 := 1024
  /-- The longest window of a query that needs blocks and receipts. -/
  maxBlockHistory : UInt64 := 256
  maxBlockFetchers : UInt64 := 4
deriving DecidableEq, Inhabited

/-- Why parameters are refused. -/
inductive ConfigError where
  | zeroElasticity
  | zeroDenominator
  | zeroFetchers
  | blockHistoryTooLong (blockHistory headerHistory : UInt64)
deriving DecidableEq

def ConfigError.message : ConfigError → String
  | .zeroElasticity => "elasticity_multiplier must be greater than zero"
  | .zeroDenominator => "base_fee_change_denominator must be greater than zero"
  | .zeroFetchers => "max_block_fetchers must be greater than zero"
  | .blockHistoryTooLong blockHistory headerHistory =>
    "max_block_history (" ++ Word.toDecimal blockHistory ++ ") exceeds max_header_history ("
      ++ Word.toDecimal headerHistory ++ ")"

namespace ChainConfig

/-- Whether the fee market rules apply to a block. -/
def active (c : ChainConfig) (number : UInt64) : Bool :=
  match c.forkBlock with
  | some fork => fork ≤ number
  | none => false

def validate (c : ChainConfig) : Except ConfigError Unit :=
  if c.elasticity = 0 then .error .zeroElasticity
  else if c.denominator = 0 then .error .zeroDenominator
  else .ok ()

/-- Parameters under which the base fee rule never divides by zero. -/
structure Valid (c : ChainConfig) : Prop where
  elasticity_ne_zero : c.elasticity ≠ 0
  denominator_ne_zero : c.denominator ≠ 0

theorem validate_eq_ok {c : ChainConfig} : c.validate = .ok () ↔ c.Valid := by
  unfold validate
  constructor
  · intro h
    split at h
    · cases h
    · split at h
      · cases h
      · rename_i he hd
        exact ⟨he, hd⟩
  · intro h
    rw [if_neg h.elasticity_ne_zero, if_neg h.denominator_ne_zero]

/-! ## JSON -/

def encode (c : ChainConfig) : Json :=
  .object [("eip1559_block", .nullable .word c.forkBlock),
    ("elasticity_multiplier", .word c.elasticity),
    ("base_fee_change_denominator", .word c.denominator)]

/-- Missing fields have their defaults; a fork block of null means that there is no fork. -/
def decode : Json → Decoded ChainConfig :=
  let names := ["eip1559_block", "elasticity_multiplier", "base_fee_change_denominator"]
  Decode.record names fun r => do
    let denominator ← r.visit "base_fee_change_denominator" Decode.word
    let forkBlock ← r.visit "eip1559_block" (Decode.nullable Decode.word)
    let elasticity ← r.visit "elasticity_multiplier" Decode.word
    let unset : ChainConfig := {}
    return ⟨forkBlock.getD unset.forkBlock, elasticity.getD unset.elasticity,
      denominator.getD unset.denominator⟩

end ChainConfig

namespace OracleConfig

def validate (c : OracleConfig) : Except ConfigError Unit :=
  if c.maxBlockFetchers = 0 then .error .zeroFetchers
  else if c.maxHeaderHistory < c.maxBlockHistory then
    .error (.blockHistoryTooLong c.maxBlockHistory c.maxHeaderHistory)
  else .ok ()

/-- Limits that a query can work under. -/
structure Valid (c : OracleConfig) : Prop where
  maxBlockFetchers_ne_zero : c.maxBlockFetchers ≠ 0
  maxBlockHistory_le : c.maxBlockHistory ≤ c.maxHeaderHistory

theorem validate_eq_ok {c : OracleConfig} : c.validate = .ok () ↔ c.Valid := by
  unfold validate
  constructor
  · intro h
    split at h
    · cases h
    · split at h
      · cases h
      · rename_i hf hh
        exact ⟨hf, UInt64.not_lt.1 hh⟩
  · intro h
    rw [if_neg h.maxBlockFetchers_ne_zero, if_neg (UInt64.not_lt.2 h.maxBlockHistory_le)]

/-! ## JSON -/

def encode (c : OracleConfig) : Json :=
  .object [("max_percentiles", .word c.maxPercentiles),
    ("max_header_history", .word c.maxHeaderHistory),
    ("max_block_history", .word c.maxBlockHistory),
    ("max_block_fetchers", .word c.maxBlockFetchers)]

/-- Missing fields have their defaults. -/
def decode : Json → Decoded OracleConfig :=
  Decode.record ["max_percentiles", "max_header_history", "max_block_history",
    "max_block_fetchers"] fun r => do
    let fetchers ← r.visit "max_block_fetchers" Decode.word
    let blockHistory ← r.visit "max_block_history" Decode.word
    let headerHistory ← r.visit "max_header_history" Decode.word
    let percentiles ← r.visit "max_percentiles" Decode.word
    let unset : OracleConfig := {}
    return ⟨percentiles.getD unset.maxPercentiles, headerHistory.getD unset.maxHeaderHistory,
      blockHistory.getD unset.maxBlockHistory, fetchers.getD unset.maxBlockFetchers⟩

end OracleConfig

end FeeMarket
