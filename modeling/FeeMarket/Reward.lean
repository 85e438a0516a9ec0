import FeeMarket.Block
import FeeMarket.Fault

/-!
# Rewards at percentiles of the gas used

**Weighted reward.** A transaction offers its declared gas as reward and weighs as much as the
gas it used. Rewards are put into ascending order; equal ones keep the order of the block.

**Threshold.** The gas that a percentile of the block's gas used amounts to, as a double, rounded
toward zero into a word.

**Walk.** A cursor stands on a transaction and knows the gas used up to it, that transaction
included. For each percentile in turn it advances until the gas used reaches the threshold or
no transaction is left; its reward is the answer. The cursor never goes back.

**Faults.** A block with transactions needs a receipt for at least one of them, and the gas that
the cursor adds up has to stay a word.
-/

namespace FeeMarket

/-- The reward that a transaction offers and the gas it used. -/
structure WeightedReward where
  reward : Wei
  gasUsed : UInt64
deriving DecidableEq

namespace WeightedReward

/-- What a transaction and its receipt say. -/
def of (transaction : Transaction) (receipt : Receipt) : WeightedReward :=
  ⟨.ofWord transaction.gas, receipt.gasUsed⟩

/-- The rewards of a block in ascending order, equal ones in block order. Transactions without a
receipt are left out. -/
def ascending (transactions : List Transaction) (receipts : List Receipt) :
    List WeightedReward :=
  (List.zipWith of transactions receipts).mergeSort fun a b => decide (a.reward ≤ b.reward)

end WeightedReward

/-- The gas that a percentile of the gas used in a block amounts to. -/
def gasThreshold (blockGasUsed : UInt64) (percentile : Float) : UInt64 :=
  (blockGasUsed.toFloat * percentile / 100).toUInt64

/-- A place in a list of rewards. -/
structure RewardCursor where
  here : WeightedReward
  /-- The gas used up to this place, this transaction included. -/
  gasUsed : UInt64
  ahead : List WeightedReward

namespace RewardCursor

/-- Advances from `here` until the gas used reaches a threshold or nothing is ahead. -/
def seekFrom (threshold : UInt64) (here : WeightedReward) (gasUsed : UInt64) :
    List WeightedReward → Checked RewardCursor
  | [] => .ok ⟨here, gasUsed, []⟩
  | next :: ahead =>
    if gasUsed < threshold then do
      let gasUsed ← Word.add gasUsed next.gasUsed
      seekFrom threshold next gasUsed ahead
    else .ok ⟨here, gasUsed, next :: ahead⟩

/-- Advances until the gas used reaches a threshold or nothing is ahead. -/
def seek (c : RewardCursor) (threshold : UInt64) : Checked RewardCursor :=
  seekFrom threshold c.here c.gasUsed c.ahead

/-- The rewards at each threshold, one after the other. -/
def rewards (c : RewardCursor) : List UInt64 → Checked (List Wei)
  | [] => .ok []
  | threshold :: rest => do
    let c ← c.seek threshold
    let later ← c.rewards rest
    return c.here.reward :: later

end RewardCursor

/-- The reward at each percentile of the gas used in a block; zeros for a block without
transactions. -/
def rewardPercentiles (blockGasUsed : UInt64) (transactions : List Transaction)
    (receipts : List Receipt) (percentiles : List Float) : Checked (List Wei) :=
  if transactions.isEmpty then .ok (percentiles.map fun _ => 0)
  else
    match WeightedReward.ascending transactions receipts with
    | [] => .error .indexOutOfBounds
    | first :: ahead =>
      RewardCursor.rewards ⟨first, first.gasUsed, ahead⟩
        (percentiles.map (gasThreshold blockGasUsed))

end FeeMarket
