import FeeMarket.Json.Decode

/-!
# Blocks

The part of a block that the fee market reads.

**Header.** Number, hash, gas limit and gas used, and the base fee, which blocks before the fork
do not have. **Transaction.** Its hash and the gas its sender declared. **Receipt.** The hash of
its transaction and the gas that transaction used. **Block.** A header and its transactions.
**Full block.** A block and the receipts that go with it.

Each of them is written to JSON and read back.
-/

namespace FeeMarket

/-- The header of a block, as far as the fee market reads it. -/
structure Header where
  number : UInt64
  hash : Hash
  gasLimit : UInt64
  gasUsed : UInt64
  /-- Absent before the fork. -/
  baseFee : Option Wei
deriving DecidableEq

structure Transaction where
  hash : Hash
  /-- The gas that the sender declared. -/
  gas : UInt64
deriving DecidableEq

structure Block where
  header : Header
  transactions : List Transaction
deriving DecidableEq

structure Receipt where
  transactionHash : Hash
  /-- The gas that this transaction alone used. -/
  gasUsed : UInt64
deriving DecidableEq

/-- A block and its receipts. -/
structure FullBlock where
  block : Block
  receipts : List Receipt
deriving DecidableEq

/-- The declared base fee; zero where there is none. -/
def Header.baseFeeOrZero (h : Header) : Wei := h.baseFee.getD 0

namespace Block

def number (b : Block) : UInt64 := b.header.number

def hash (b : Block) : Hash := b.header.hash

def gasUsed (b : Block) : UInt64 := b.header.gasUsed

end Block

/-- The number of the block. -/
def FullBlock.number (b : FullBlock) : UInt64 := b.block.number

/-! ## JSON -/

/-- The text of a hash as JSON. -/
def Hash.encode (h : Hash) : Json := .string h.toHex

/-- The text of an amount as JSON. -/
def Wei.encode (w : Wei) : Json := .string w.toHex

namespace Header

def encode (h : Header) : Json :=
  .object [("number", .word h.number), ("hash", h.hash.encode), ("gasLimit", .word h.gasLimit),
    ("gasUsed", .word h.gasUsed), ("baseFee", .nullable Wei.encode h.baseFee)]

def decode : Json → Decoded Header :=
  Decode.record ["number", "hash", "gasLimit", "gasUsed", "baseFee"] fun r => do
    let baseFee ← r.visit "baseFee" (Decode.nullable Decode.wei)
    let gasLimit ← r.visit "gasLimit" Decode.word
    let gasUsed ← r.visit "gasUsed" Decode.word
    let hash ← r.visit "hash" Decode.hash
    let number ← r.visit "number" Decode.word
    let number ← r.require "number" number
    let hash ← r.require "hash" hash
    let gasLimit ← r.require "gasLimit" gasLimit
    let gasUsed ← r.require "gasUsed" gasUsed
    return ⟨number, hash, gasLimit, gasUsed, baseFee.getD none⟩

end Header

namespace Transaction

def encode (t : Transaction) : Json :=
  .object [("hash", t.hash.encode), ("gas", .word t.gas)]

def decode : Json → Decoded Transaction :=
  Decode.record ["hash", "gas"] fun r => do
    let gas ← r.visit "gas" Decode.word
    let hash ← r.visit "hash" Decode.hash
    let hash ← r.require "hash" hash
    let gas ← r.require "gas" gas
    return ⟨hash, gas⟩

end Transaction

namespace Receipt

def encode (p : Receipt) : Json :=
  .object [("transactionHash", p.transactionHash.encode), ("gasUsed", .word p.gasUsed)]

def decode : Json → Decoded Receipt :=
  Decode.record ["transactionHash", "gasUsed"] fun r => do
    let gasUsed ← r.visit "gasUsed" Decode.word
    let transactionHash ← r.visit "transactionHash" Decode.hash
    let transactionHash ← r.require "transactionHash" transactionHash
    let gasUsed ← r.require "gasUsed" gasUsed
    return ⟨transactionHash, gasUsed⟩

end Receipt

namespace Block

def encode (b : Block) : Json :=
  .object [("header", b.header.encode), ("transactions", .list Transaction.encode b.transactions)]

def decode : Json → Decoded Block :=
  Decode.record ["header", "transactions"] fun r => do
    let header ← r.visit "header" Header.decode
    let transactions ← r.visit "transactions" (Decode.list Transaction.decode)
    let header ← r.require "header" header
    let transactions ← r.require "transactions" transactions
    return ⟨header, transactions⟩

end Block

namespace FullBlock

def encode (b : FullBlock) : Json :=
  .object [("block", b.block.encode), ("receipts", .list Receipt.encode b.receipts)]

def decode : Json → Decoded FullBlock :=
  Decode.record ["block", "receipts"] fun r => do
    let block ← r.visit "block" Block.decode
    let receipts ← r.visit "receipts" (Decode.list Receipt.decode)
    let block ← r.require "block" block
    let receipts ← r.require "receipts" receipts
    return ⟨block, receipts⟩

end FullBlock

end FeeMarket
