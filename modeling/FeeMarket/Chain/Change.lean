import FeeMarket.Chain.Memory

/-!
# Changing a chain in place

**Changing** (`Changing`). A computation on a chain that is kept in one place. It may be refused, and
what it has written before it is refused stays written.

**Change** (`Change`). One of the four changes, with its arguments. `perform` makes it in place and
`apply` says what becomes of the chain. Every change looks first and writes only if it is not going
to be refused, so the two agree, and a refused change writes nothing (`run_perform`).

**Journal** (`Journal`). A chain with the changes that were attempted on it, first to last, each with
the reason for which it was refused if it was. The chain without blocks begins an empty journal.
-/

namespace FeeMarket

/-- A computation that changes a chain in place. -/
abbrev Changing := EStateM ChainError MemoryChain

namespace Changing

/-- Appends a block. -/
def push (b : FullBlock) : Changing Unit := do
  let expected := (← get).blocks.size
  if b.number.toNat ≠ expected then throw (.unexpectedNumber expected b.number)
  if b.block.transactions.length ≠ b.receipts.length then
    throw (.receiptsMismatch b.number b.block.transactions.length b.receipts.length)
  modify fun c => { c with blocks := c.blocks.push b }

/-- Puts a block on top of the head, or takes it away. -/
def setPending (b? : Option FullBlock) : Changing Unit := do
  if let some b := b? then
    let expected := (← get).blocks.size
    if b.number.toNat ≠ expected then throw (.unexpectedPending expected b.number)
  modify fun c => { c with pending := b? }

/-- Marks a block as finalized. -/
def setFinalized (number : UInt64) : Changing Unit := do
  if ((← get).get? number).isNone then throw (.unknownBlock number)
  modify fun c => { c with finalized := some number }

/-- Drops the blocks above a head, and the pending block. The value is how many were dropped from
the chain. -/
def rewind (head : UInt64) : Changing Nat := do
  let removed := (← get).above head
  modify fun c => { c with blocks := c.blocks.take (head.toNat + 1) }
  modify fun c => { c with pending := none }
  modify fun c => { c with finalized := c.finalized.map fun number => min number head }
  return removed

end Changing

/-- A change to a chain, with its arguments. -/
inductive Change where
  | push (b : FullBlock)
  | setPending (b? : Option FullBlock)
  | setFinalized (number : UInt64)
  | rewind (head : UInt64)
deriving DecidableEq

namespace Change

/-- Makes the change in place. -/
def perform : Change → Changing Unit
  | push b => Changing.push b
  | setPending b? => Changing.setPending b?
  | setFinalized number => Changing.setFinalized number
  | rewind head => discard (Changing.rewind head)

/-- The chain after the change, or why the change is refused. -/
def apply (c : MemoryChain) : Change → Except ChainError MemoryChain
  | push b => c.push b
  | setPending b? => c.setPending b?
  | setFinalized number => c.setFinalized number
  | rewind head => .ok (c.rewind head)

/-- A change that is refused has written nothing. -/
theorem run_perform (change : Change) (c : MemoryChain) :
    change.perform.run c =
      match change.apply c with
      | .ok c' => .ok () c'
      | .error e => .error e c := by
  cases change with
  | push b =>
    simp only [perform, apply, Changing.push, MemoryChain.push]
    by_cases hnumber : b.number.toNat = c.blocks.size
    · by_cases hreceipts : b.block.transactions.length = b.receipts.length
      · simp [hnumber, hreceipts]
      · simp [hnumber, hreceipts]
    · simp [hnumber]
  | setPending b? =>
    cases b? with
    | none => rfl
    | some b =>
      simp only [perform, apply, Changing.setPending, MemoryChain.setPending]
      by_cases hnumber : b.number.toNat = c.blocks.size
      · simp [hnumber]
      · simp [hnumber]
  | setFinalized number =>
    simp only [perform, apply, Changing.setFinalized, MemoryChain.setFinalized]
    cases hblock : c.get? number with
    | none => simp [hblock]
    | some b => simp [hblock]
  | rewind head => rfl

end Change

/-! ## Journals -/

/-- A change that was attempted, and why it was refused if it was. -/
structure Attempt where
  change : Change
  refusal? : Option ChainError
deriving DecidableEq

/-- A chain, and what was attempted on it since it had no blocks. -/
structure Journal where
  chain : MemoryChain := .empty
  attempts : List Attempt := []
deriving DecidableEq

namespace Journal

/-- Attempts a change. -/
def attempt (j : Journal) (change : Change) : Journal :=
  match change.perform.run j.chain with
  | .ok () c => ⟨c, j.attempts ++ [⟨change, none⟩]⟩
  | .error e c => ⟨c, j.attempts ++ [⟨change, some e⟩]⟩

/-- The journal after changes are attempted in order. -/
def extend (j : Journal) (changes : List Change) : Journal := changes.foldl attempt j

/-- The journal of a chain on which changes were attempted from the start. -/
def of (changes : List Change) : Journal := extend {} changes

/-- A change is made and written down, or it is refused and only written down. -/
theorem attempt_cases (j : Journal) (change : Change) :
    (∃ c, change.apply j.chain = .ok c ∧
      j.attempt change = ⟨c, j.attempts ++ [⟨change, none⟩]⟩) ∨
    (∃ e, change.apply j.chain = .error e ∧
      j.attempt change = ⟨j.chain, j.attempts ++ [⟨change, some e⟩]⟩) := by
  unfold attempt
  rw [Change.run_perform]
  cases happly : change.apply j.chain with
  | ok c => exact .inl ⟨c, rfl, rfl⟩
  | error e => exact .inr ⟨e, rfl, rfl⟩

@[simp] theorem of_nil : of [] = {} := rfl

@[simp] theorem of_concat (changes : List Change) (change : Change) :
    of (changes ++ [change]) = (of changes).attempt change := by
  simp [of, extend]

end Journal

end FeeMarket
