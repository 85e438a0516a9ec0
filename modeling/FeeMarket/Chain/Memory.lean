import FeeMarket.Dialogue

/-!
# A chain in memory

**Chain** (`MemoryChain`). Blocks from number zero on, in order, each with its receipts; the
pending block, if one is being assembled on top of the head; and the number of the last
finalized block, once there is one.

**Changes.** A block is pushed only with the number that comes next and with one receipt for each
transaction. A pending block has the number that comes next. Only a block of the chain is
finalized. Rewinding drops the blocks above a head and the pending block, and lowers the
finalized number to that head. A change that is refused leaves the chain as it was.
-/

namespace FeeMarket

/-- A chain kept in memory. -/
structure MemoryChain where
  blocks : Array FullBlock := #[]
  pending : Option FullBlock := none
  finalized : Option UInt64 := none
deriving DecidableEq, Inhabited

/-- Why a change to a chain is refused. -/
inductive ChainError where
  | unexpectedNumber (expected : Nat) (number : UInt64)
  | receiptsMismatch (number : UInt64) (transactions receipts : Nat)
  | unexpectedPending (expected : Nat) (number : UInt64)
  | unknownBlock (number : UInt64)
deriving DecidableEq

def ChainError.message : ChainError → String
  | .unexpectedNumber expected number =>
    "Expected block number " ++ Numeral.decimal expected ++ ", got " ++ Word.toDecimal number
  | .receiptsMismatch number transactions receipts =>
    "Block " ++ Word.toDecimal number ++ " has " ++ Numeral.decimal transactions
      ++ " transactions but " ++ Numeral.decimal receipts ++ " receipts"
  | .unexpectedPending expected number =>
    "Pending block must be " ++ Numeral.decimal expected ++ ", got " ++ Word.toDecimal number
  | .unknownBlock number => "Cannot finalize unknown block " ++ Word.toDecimal number

namespace MemoryChain

/-- The chain without blocks. -/
def empty : MemoryChain := {}

/-! ## Reading -/

/-- The last block, if there is one. -/
def head? (c : MemoryChain) : Option FullBlock := c.blocks.back?

/-- The number of the last block, if there is one. -/
def headNumber? (c : MemoryChain) : Option UInt64 := c.head?.map FullBlock.number

/-- The block with a number. -/
def get? (c : MemoryChain) (number : UInt64) : Option FullBlock := c.blocks[number.toNat]?

/-- The block that a selector names. Where no block is pending the head stands for it. -/
def find? (c : MemoryChain) : Selector → Option FullBlock
  | .number n => c.get? n
  | .latest => c.head?
  | .pending => c.pending.or c.head?
  | .finalized => c.finalized.bind c.get?

/-- The receipts of the first block with a hash, the pending block coming last. -/
def receipts? (c : MemoryChain) (hash : Hash) : Option (List Receipt) :=
  ((c.blocks.toList ++ c.pending.toList).find? fun b => b.block.hash = hash).map FullBlock.receipts

/-- What the chain replies. -/
def view (c : MemoryChain) : View
  | .header s => .ofOption ((c.find? s).map fun b => b.block.header)
  | .block s => .ofOption ((c.find? s).map FullBlock.block)
  | .receipts hash => .ofOption (c.receipts? hash)
  | .pending => c.pending
  | .finalized => .ofOption ((c.find? .finalized).map FullBlock.block)

/-! ## Changing -/

/-- Appends a block. -/
def push (c : MemoryChain) (b : FullBlock) : Except ChainError MemoryChain :=
  if b.number.toNat ≠ c.blocks.size then .error (.unexpectedNumber c.blocks.size b.number)
  else if b.block.transactions.length ≠ b.receipts.length then
    .error (.receiptsMismatch b.number b.block.transactions.length b.receipts.length)
  else .ok { c with blocks := c.blocks.push b }

/-- Puts a block on top of the head, or takes it away. -/
def setPending (c : MemoryChain) : Option FullBlock → Except ChainError MemoryChain
  | none => .ok { c with pending := none }
  | some b =>
    if b.number.toNat ≠ c.blocks.size then .error (.unexpectedPending c.blocks.size b.number)
    else .ok { c with pending := some b }

/-- Marks a block as finalized. -/
def setFinalized (c : MemoryChain) (number : UInt64) : Except ChainError MemoryChain :=
  if (c.get? number).isNone then .error (.unknownBlock number)
  else .ok { c with finalized := some number }

/-- How many blocks lie above a head. -/
def above (c : MemoryChain) (head : UInt64) : Nat := c.blocks.size - (head.toNat + 1)

/-- Drops the blocks above a head, and the pending block. -/
def rewind (c : MemoryChain) (head : UInt64) : MemoryChain :=
  { blocks := c.blocks.take (head.toNat + 1)
    pending := none
    finalized := c.finalized.map fun number => min number head }

/-- What is recorded about rewinding to a head. -/
def rewindNotice? (c : MemoryChain) (head : UInt64) : Option Notice :=
  if 0 < c.above head then some (.chainRewound head (c.above head)) else none

/-! ## When a change is made, and what it writes -/

theorem push_eq_ok {c c' : MemoryChain} {b : FullBlock} :
    c.push b = .ok c' ↔
      b.number.toNat = c.blocks.size ∧ b.block.transactions.length = b.receipts.length ∧
        c' = { c with blocks := c.blocks.push b } := by
  unfold push
  by_cases hnumber : b.number.toNat = c.blocks.size
  · by_cases hreceipts : b.block.transactions.length = b.receipts.length
    · simp [hnumber, hreceipts, eq_comm]
    · simp [hnumber, hreceipts]
  · simp [hnumber]

theorem setPending_eq_ok {c c' : MemoryChain} {b? : Option FullBlock} :
    c.setPending b? = .ok c' ↔
      (∀ b, b? = some b → b.number.toNat = c.blocks.size) ∧ c' = { c with pending := b? } := by
  cases b? with
  | none => simp [setPending, eq_comm]
  | some b =>
    by_cases hnumber : b.number.toNat = c.blocks.size
    · simp [setPending, hnumber, eq_comm]
    · simp [setPending, hnumber]

theorem setFinalized_eq_ok {c c' : MemoryChain} {number : UInt64} :
    c.setFinalized number = .ok c' ↔
      number.toNat < c.blocks.size ∧ c' = { c with finalized := some number } := by
  unfold setFinalized get?
  by_cases hnumber : number.toNat < c.blocks.size
  · simp [hnumber, eq_comm]
  · simp [hnumber]

@[simp] theorem size_rewind (c : MemoryChain) (head : UInt64) :
    (c.rewind head).blocks.size = min (head.toNat + 1) c.blocks.size := by
  simp [rewind, Array.take]

/-- Rewinding keeps the blocks up to the head where they are. -/
theorem getElem?_of_rewind {c : MemoryChain} {head : UInt64} {i : Nat} {b : FullBlock}
    (hb : (c.rewind head).blocks[i]? = some b) : c.blocks[i]? = some b := by
  rw [rewind, Array.take, Array.getElem?_extract] at hb
  split at hb
  · simpa using hb
  · cases hb

end MemoryChain

end FeeMarket
