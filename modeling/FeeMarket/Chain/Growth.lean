import FeeMarket.BaseFee
import FeeMarket.Chain.Memory

/-!
# Growing a chain by a pattern

**Pattern.** A gas limit and a cycle of block contents. A block takes its contents from the cycle
by its number; they are pairs of declared and used gas, one for each transaction.

**Grown block.** Its gas used is the sum over its transactions, and its base fee follows from the
head by the base fee rule. Before the fork it has none, and a first block starts from the
initial base fee. Hashes are numbered, so that no two of them are equal.
-/

namespace FeeMarket

/-- A transaction to be: the gas its sender declares and the gas it uses. -/
structure GasPair where
  declared : UInt64
  used : UInt64
deriving DecidableEq

/-- The contents of grown blocks. -/
structure GrowthPattern where
  gasLimit : UInt64
  cycle : List (List GasPair)
deriving DecidableEq

namespace GrowthPattern

/-- The hash of the transaction at an index of a block. -/
def transactionHash (number : UInt64) (index : Nat) : Hash :=
  .ofNat (1000 * (number.toNat + 1) + index)

/-- The contents of the block with a number. -/
def contents (p : GrowthPattern) (number : UInt64) : Checked (List GasPair) :=
  if p.cycle.isEmpty then .error .divisionByZero
  else
    match p.cycle[number.toNat % p.cycle.length]? with
    | some pairs => .ok pairs
    | none => .error .indexOutOfBounds

/-- The base fee of the block after a head. -/
def baseFee (config : ChainConfig) (head : Option Header) (number : UInt64) :
    Checked (Option Wei) :=
  if config.active number then
    match head with
    | some parent => (nextBaseFee config parent).map some
    | none => .ok (some initialBaseFee)
  else .ok none

/-- The block with a number after a head. -/
def block (p : GrowthPattern) (config : ChainConfig) (head : Option Header) (number : UInt64) :
    Checked FullBlock := do
  let pairs ← p.contents number
  let gasUsed ← (pairs.map GasPair.used).foldlM Word.add 0
  let baseFee ← baseFee config head number
  let hashed := pairs.mapIdx fun i pair => (transactionHash number i, pair)
  return {
    block := {
      header := ⟨number, .ofNat (number.toNat + 1), p.gasLimit, gasUsed, baseFee⟩
      transactions := hashed.map fun (hash, pair) => ⟨hash, pair.declared⟩ }
    receipts := hashed.map fun (hash, pair) => ⟨hash, pair.used⟩ }

end GrowthPattern

/-- Appends `count` blocks. What was appended before a fault stays. -/
def MemoryChain.grow (config : ChainConfig) (p : GrowthPattern) :
    Nat → MemoryChain → MemoryChain × Checked (Except ChainError Unit)
  | 0, c => (c, .ok (.ok ()))
  | count + 1, c =>
    match p.block config (c.head?.map fun b => b.block.header) (UInt64.ofNat c.blocks.size) with
    | .error fault => (c, .error fault)
    | .ok b =>
      match c.push b with
      | .error e => (c, .ok (.error e))
      | .ok c => c.grow config p count

end FeeMarket
