import FeeMarket.FetchPool

/-!
# Fee histories

**History.** Base fees, shares of gas used and rewards over consecutive blocks. The lists of base
fees have one entry more than there are blocks: the fee projected for the block that follows.
The history of no block has no entry at all.

**Slots.** One place for each block of a range, filled as samples arrive in any order. Only the
slots before the first empty one make up the history.
-/

namespace FeeMarket

/-- Fees over consecutive blocks. -/
structure FeeHistory where
  oldestBlock : UInt64 := 0
  /-- One row for each block; absent if no percentiles were asked for. -/
  reward : Option (List (List Wei)) := none
  baseFeePerGas : List Wei := []
  gasUsedRatio : List Float := []
  baseFeePerBlobGas : List Wei := []
  blobGasUsedRatio : List Float := []
deriving DecidableEq, Inhabited

namespace FeeHistory

/-- The history of no block. -/
def empty : FeeHistory := {}

/-- How many blocks the history covers. -/
def length (h : FeeHistory) : Nat := h.gasUsedRatio.length

def isEmpty (h : FeeHistory) : Bool := h.gasUsedRatio.isEmpty

/-- The history of consecutive blocks from `oldest` on. A block without rewards has an empty
row. -/
def ofFees (oldest : UInt64) (fees : List ProcessedFees) (withRewards : Bool) : FeeHistory :=
  match fees.getLast? with
  | none => empty
  | some last =>
    { oldestBlock := oldest
      reward := if withRewards then some (fees.map fun f => f.reward.getD []) else none
      baseFeePerGas := fees.map ProcessedFees.baseFee ++ [last.nextBaseFee]
      gasUsedRatio := fees.map ProcessedFees.gasUsedRatio
      baseFeePerBlobGas := fees.map ProcessedFees.blobBaseFee ++ [last.nextBlobBaseFee]
      blobGasUsedRatio := fees.map ProcessedFees.blobGasUsedRatio }

/-! ## Slots -/

/-- Puts the fees of a deposit into the slot of its number. A number outside of the range has no
slot. -/
def place (oldest : UInt64) (slots : List (Option ProcessedFees)) (d : Deposit) :
    List (Option ProcessedFees) :=
  slots.set (d.number - oldest).toNat d.fees?

/-- The slots of a range after some deposits. -/
def slots (oldest : UInt64) (count : Nat) (deposits : List Deposit) :
    List (Option ProcessedFees) :=
  deposits.foldl (place oldest) (List.replicate count none)

/-- The entries before the first empty slot. -/
def leading {α : Type} : List (Option α) → List α
  | some a :: rest => a :: leading rest
  | _ => []

/-! ## JSON -/

private def number (f : Float) : Json := .number (.double f)

/-- The JSON text of a history, with `ratio` for its shares. An absent list of rewards has no
field. -/
def encodeWith (ratio : Float → Json) (h : FeeHistory) : List (String × Json) :=
  ("oldestBlock", .string (Word.toHex h.oldestBlock))
    :: (h.reward.map fun rows => ("reward", Json.list (Json.list Wei.encode) rows)).toList
    ++ [("baseFeePerGas", .list Wei.encode h.baseFeePerGas),
      ("gasUsedRatio", .list ratio h.gasUsedRatio),
      ("baseFeePerBlobGas", .list Wei.encode h.baseFeePerBlobGas),
      ("blobGasUsedRatio", .list ratio h.blobGasUsedRatio)]

def encode (h : FeeHistory) : Json := .object (h.encodeWith number)

def decode : Json → Decoded FeeHistory :=
  Decode.record ["oldestBlock", "reward", "baseFeePerGas", "gasUsedRatio",
    "baseFeePerBlobGas", "blobGasUsedRatio"] fun r => do
    let baseFeePerBlobGas ← r.visit "baseFeePerBlobGas" (Decode.list Decode.wei)
    let baseFeePerGas ← r.visit "baseFeePerGas" (Decode.list Decode.wei)
    let blobGasUsedRatio ← r.visit "blobGasUsedRatio" (Decode.list Decode.double)
    let gasUsedRatio ← r.visit "gasUsedRatio" (Decode.list Decode.double)
    let oldestBlock ← r.visit "oldestBlock" Decode.quantity
    let reward ← r.visit "reward" (Decode.nullable (Decode.list (Decode.list Decode.wei)))
    let oldestBlock ← r.require "oldestBlock" oldestBlock
    let baseFeePerGas ← r.require "baseFeePerGas" baseFeePerGas
    let gasUsedRatio ← r.require "gasUsedRatio" gasUsedRatio
    let baseFeePerBlobGas ← r.require "baseFeePerBlobGas" baseFeePerBlobGas
    let blobGasUsedRatio ← r.require "blobGasUsedRatio" blobGasUsedRatio
    return ⟨oldestBlock, reward.getD none, baseFeePerGas, gasUsedRatio, baseFeePerBlobGas,
      blobGasUsedRatio⟩

end FeeHistory

end FeeMarket
