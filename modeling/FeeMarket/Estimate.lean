import FeeMarket.FeeHistory

/-!
# Suggested fees

**Estimate.** The base fees projected after a history, and for each percentile the mean reward
over the rows of the history. Empty rows, of blocks whose receipts were not at hand, do not
count. Sums stop at the largest amount and the mean is rounded down.

**Gas fees.** For a chosen percentile the priority fee is its mean reward, and the highest fee is
the base fee, cut to a cap, plus the priority fee.
-/

namespace FeeMarket

/-- Fees suggested after a history. -/
structure FeesEstimate where
  /-- The base fee projected for the block after the history. -/
  baseFeePerGas : Wei
  percentileFees : List Wei
  baseFeePerBlobGas : Wei
deriving DecidableEq

/-- Why a history gives no estimate. -/
inductive EstimateError where
  | missingBaseFees
  | missingBlobFees
  | missingRewards
  | missingPercentileFee
deriving DecidableEq

def EstimateError.message : EstimateError → String
  | .missingBaseFees => "Missing base fees"
  | .missingBlobFees => "Missing base blob fees"
  | .missingRewards => "Missing rewards"
  | .missingPercentileFee => "Missing percentile fee"

/-- A value, or the error that its absence is. -/
def EstimateError.unless {α : Type} (e : EstimateError) : Option α → Except EstimateError α
  | some a => .ok a
  | none => .error e

/-- The most a transaction pays for each unit of gas, in all and above the base fee. -/
structure GasFees where
  maxFee : Wei
  maxPriorityFee : Wei
deriving DecidableEq

namespace FeesEstimate

/-- The sum of a column of the rows; an error if a row is too short. -/
def columnSum (column : Nat) : Wei → List (List Wei) → Except EstimateError Wei
  | sum, [] => .ok sum
  | sum, row :: rows => do
    let fee ← EstimateError.missingPercentileFee.unless row[column]?
    columnSum column (sum + fee) rows

/-- The mean of a column of the rows, rounded down. -/
def columnMean (rows : List (List Wei)) (column : Nat) : Except EstimateError Wei := do
  let sum ← columnSum column 0 rows
  return sum.div rows.length

/-- The fees suggested after a history. -/
def ofHistory (h : FeeHistory) : Except EstimateError FeesEstimate := do
  let baseFee ← EstimateError.missingBaseFees.unless h.baseFeePerGas.getLast?
  let blobFee ← EstimateError.missingBlobFees.unless h.baseFeePerBlobGas.getLast?
  let reward ← EstimateError.missingRewards.unless h.reward
  let rows := reward.filter fun row => !row.isEmpty
  let first ← EstimateError.missingRewards.unless rows.head?
  let fees ← (List.range first.length).mapM (columnMean rows)
  return ⟨baseFee, fees, blobFee⟩

/-- The gas fees at a percentile, with the base fee cut to a cap. -/
def gasFees (e : FeesEstimate) (index : Nat) (cap : Wei) : Except EstimateError GasFees := do
  let priority ← EstimateError.missingPercentileFee.unless e.percentileFees[index]?
  return ⟨min e.baseFeePerGas cap + priority, priority⟩

/-! ## JSON -/

def encode (e : FeesEstimate) : Json :=
  .object [("baseFeePerGas", e.baseFeePerGas.encode),
    ("percentileFees", .list Wei.encode e.percentileFees),
    ("baseFeePerBlobGas", e.baseFeePerBlobGas.encode)]

def decode : Json → Decoded FeesEstimate :=
  Decode.record ["baseFeePerGas", "percentileFees", "baseFeePerBlobGas"] fun r => do
    let baseFeePerBlobGas ← r.visit "baseFeePerBlobGas" Decode.wei
    let baseFeePerGas ← r.visit "baseFeePerGas" Decode.wei
    let percentileFees ← r.visit "percentileFees" (Decode.list Decode.wei)
    let baseFeePerGas ← r.require "baseFeePerGas" baseFeePerGas
    let percentileFees ← r.require "percentileFees" percentileFees
    let baseFeePerBlobGas ← r.require "baseFeePerBlobGas" baseFeePerBlobGas
    return ⟨baseFeePerGas, percentileFees, baseFeePerBlobGas⟩

end FeesEstimate

end FeeMarket
