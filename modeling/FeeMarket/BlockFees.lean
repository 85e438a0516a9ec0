import FeeMarket.BaseFee
import FeeMarket.Reward

/-!
# Fees of a block

**Fees** (`ProcessedFees`). What one block contributes to a fee history: its base fee and the one
projected for its successor, the share of the gas limit that it used, and the rewards at the
requested percentiles. Blob fees are always zero.

**Basis** (`RewardBasis`). Rewards need the block and one receipt for each of its transactions;
an empty block needs no receipts. The basis says which of these is at hand, so that whether
rewards are computed and what is reported instead are read off the same value.

All fields but the rewards depend on the header alone.
-/

namespace FeeMarket

/-- The fee data of one block. -/
structure ProcessedFees where
  /-- One reward for each percentile; absent if none were asked for or their basis is missing. -/
  reward : Option (List Wei)
  baseFee : Wei
  /-- The base fee projected for the following block. -/
  nextBaseFee : Wei
  gasUsedRatio : Float
  blobGasUsedRatio : Float
  blobBaseFee : Wei
  nextBlobBaseFee : Wei
deriving DecidableEq

/-- What the rewards of a block can be computed from. -/
inductive RewardBasis where
  /-- No percentile was asked for. -/
  | notRequested
  | blockMissing
  /-- There are transactions, and their receipts are absent or of another number. -/
  | receiptsMissing (transactions : Nat) (receipts : Option Nat)
  | present (block : Block) (receipts : List Receipt)
deriving DecidableEq

namespace RewardBasis

/-- The basis for a block and its receipts, either of which may be absent. -/
def of (block : Option Block) (receipts : Option (List Receipt)) (percentiles : List Float) :
    RewardBasis :=
  if percentiles.isEmpty then .notRequested
  else
    match block with
    | none => .blockMissing
    | some block =>
      match receipts with
      | some receipts =>
        if receipts.length = block.transactions.length then .present block receipts
        else if block.transactions.isEmpty then .present block []
        else .receiptsMissing block.transactions.length (some receipts.length)
      | none =>
        if block.transactions.isEmpty then .present block []
        else .receiptsMissing block.transactions.length none

/-- The rewards that a basis gives. -/
def rewards (basis : RewardBasis) (percentiles : List Float) : Checked (Option (List Wei)) :=
  match basis with
  | .present block receipts => do
    let row ← rewardPercentiles block.gasUsed block.transactions receipts percentiles
    return some row
  | _ => .ok none

end RewardBasis

/-- The share of the gas limit that was used; zero for a gas limit of zero. -/
def Header.gasUsedRatio (h : Header) : Float :=
  if h.gasLimit = 0 then 0 else h.gasUsed.toFloat / h.gasLimit.toFloat

/-- The base fee projected for the block after `h`; zero while the fee market has not started. -/
def projectedBaseFee (config : ChainConfig) (h : Header) : Checked Wei :=
  if config.active (Word.addUpTo h.number 1) then nextBaseFee config h else .ok 0

/-- The fees of a block with a given basis for its rewards. -/
def processBasis (config : ChainConfig) (header : Header) (basis : RewardBasis)
    (percentiles : List Float) : Checked ProcessedFees := do
  let nextBaseFee ← projectedBaseFee config header
  let reward ← basis.rewards percentiles
  return ⟨reward, header.baseFeeOrZero, nextBaseFee, header.gasUsedRatio, 0, 0, 0⟩

/-- The fees of a block. Block and receipts matter only if percentiles are asked for. -/
def processBlock (config : ChainConfig) (header : Header) (block : Option Block)
    (receipts : Option (List Receipt)) (percentiles : List Float) : Checked ProcessedFees :=
  processBasis config header (.of block receipts percentiles) percentiles

end FeeMarket
