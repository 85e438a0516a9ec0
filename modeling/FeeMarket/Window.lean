import FeeMarket.Dialogue

/-!
# The window of a query

**Window.** The last block of a query, how many blocks it covers, and the pending block if it ends
there. An empty window covers nothing.

**Resolving.** The head is looked up first. A number above the head is an error. The pending
block, where there is none, gives way to the head, and as one block less is then at hand the
count drops by one. The count is cut so that the window does not reach below block zero.
-/

namespace FeeMarket

/-- The blocks that a query covers. -/
structure Window where
  /-- The pending block, if the window ends with it. -/
  pending : Option FullBlock
  last : UInt64
  count : UInt64
deriving DecidableEq

namespace Window

/-- The window that covers nothing. -/
def empty : Window := ⟨none, 0, 0⟩

def isEmpty (w : Window) : Bool := w.count = 0

/-- The first block of the window. -/
def oldest (w : Window) : Checked UInt64 := do
  let beyond ← Word.add w.last 1
  Word.sub beyond w.count

/-- Up to `count` blocks that end with `last`. -/
def ending (pending : Option FullBlock) (last count : UInt64) : Window :=
  if count = 0 then empty
  else ⟨pending, last, min count (Word.addUpTo last 1)⟩

/-- The block that a lookup of a symbolic selector gives; its absence is an error. -/
def resolved {α : Type} (selector : Selector) (lookup : Lookup α) : Query α := do
  match ← Query.settle lookup with
  | some a => pure a
  | none => Query.refuse (.unresolved selector)

/-- The window of up to `count` blocks that ends with a selected block. -/
def resolve (last : Selector) (count : UInt64) : Query Window := do
  let reply ← Query.call (.header .latest)
  let header ← resolved .latest reply
  let head := header.number
  match last with
  | .number requested =>
    if head < requested then Query.refuse (.beyondHead requested head)
    else return ending none requested count
  | .latest => return ending none head count
  | .pending =>
    match ← Query.call .pending with
    | some pending => return ending (some pending) pending.number count
    | none => return ending none head (Word.subDownTo count 1)
  | .finalized =>
    let reply ← Query.call .finalized
    let block ← resolved .finalized reply
    return ending none block.number count

end Window

end FeeMarket
