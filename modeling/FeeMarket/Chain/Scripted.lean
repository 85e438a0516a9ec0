import FeeMarket.Dialogue

/-!
# Scripted chains

**Script.** A chain whose replies are written down one by one, and need not fit together: any
header may stand for any number, and the lookups of the latest and the finalized block and of
receipts may fail. What is not written down is absent.

**Hindrance.** A chain may be hindered at certain numbers: a header or block with such an explicit
number breaks the reader, or the lookup fails, or the block is hidden, in this order of
precedence. Lookups by any other selector are not hindered.
-/

namespace FeeMarket

/-- A reply that is written down. -/
inductive Scripted (α : Type) where
  | value (a : α)
  | nothing
  | failure (reason : String)
deriving DecidableEq

/-- The outcome of a lookup that is written down. -/
def Scripted.lookup {α : Type} : Scripted α → Lookup α
  | .value a => .found a
  | .nothing => .absent
  | .failure reason => .failed reason

/-- A chain whose replies are written down. -/
structure ScriptedChain where
  latest : Scripted Header
  finalized : Scripted Block
  pending : Option FullBlock
  headers : List (UInt64 × Header)
  blocks : List (UInt64 × Block)
  receipts : List (Hash × Scripted (List Receipt))

/-- What the chain replies. The latest and the finalized block can be had in one way only. -/
def ScriptedChain.view (c : ScriptedChain) : View
  | .header .latest => c.latest.lookup
  | .header (.number n) => Lookup.ofOption (c.headers.lookup n)
  | .header _ => .absent
  | .block (.number n) => Lookup.ofOption (c.blocks.lookup n)
  | .block _ => .absent
  | .receipts hash => ((c.receipts.lookup hash).getD .nothing).lookup
  | .pending => c.pending
  | .finalized => c.finalized.lookup

/-! ## Hindrances -/

/-- The numbers at which a chain is hindered. -/
structure Hindrance where
  hidden : List UInt64 := []
  failing : List UInt64 := []
  breaking : List UInt64 := []
deriving DecidableEq, Inhabited

namespace Hindrance

/-- What a hindered lookup gives in place of `lookup`. -/
def apply {α : Type} (h : Hindrance) (selector : Selector) (lookup : Lookup α) : Lookup α :=
  match selector with
  | .number n =>
    if h.breaking.contains n then .broken
    else if h.failing.contains n then .failed ("Failed to fetch block " ++ Word.toDecimal n)
    else if h.hidden.contains n then .absent
    else lookup
  | _ => lookup

/-- A hindered chain. -/
def applyTo (h : Hindrance) (view : View) : View
  | .header s => h.apply s (view (.header s))
  | .block s => h.apply s (view (.block s))
  | .receipts hash => view (.receipts hash)
  | .pending => view .pending
  | .finalized => view .finalized

end Hindrance

end FeeMarket
