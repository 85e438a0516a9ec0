import FeeMarket.Block
import FeeMarket.Fault
import FeeMarket.Notice

/-!
# Dialogues with a chain

**Call.** What can be asked of a chain: a header or a block by selector, the receipts of a block
by its hash, the pending block with its receipts, and the finalized block.

**Lookup.** The outcome of a call. Data may be absent (not there, or not any more), which is not
the same as a failed lookup, and the chain reader may break down altogether.

**View.** A chain at one moment: a reply for each call.

**Dialogue.** A computation that asks calls, one after another, records notices and ends with a
value. It knows nothing of the chain but the replies, so the same dialogue runs over a view, over
a chain that changes between calls, or over a node on a network.

**Query.** A dialogue that may end with an error or a fault.
-/

namespace FeeMarket

/-- The outcome of looking something up in a chain. -/
inductive Lookup (α : Type) where
  | absent
  | found (value : α)
  | failed (reason : String)
  | broken
deriving DecidableEq

namespace Lookup

def ofOption {α : Type} : Option α → Lookup α
  | some a => .found a
  | none => .absent

end Lookup

/-- What can be asked of a chain. -/
inductive Call where
  | header (selector : Selector)
  | block (selector : Selector)
  | receipts (hash : Hash)
  | pending
  | finalized
deriving DecidableEq

/-- What a chain replies to a call. -/
abbrev Reply : Call → Type
  | .header _ => Lookup Header
  | .block _ => Lookup Block
  | .receipts _ => Lookup (List Receipt)
  | .pending => Option FullBlock
  | .finalized => Lookup Block

/-- A chain at one moment. -/
abbrev View := (call : Call) → Reply call

/-! ## Dialogues -/

/-- A computation that asks a chain and records notices. -/
inductive Dialogue (α : Type) where
  | done (value : α)
  | note (notice : Notice) (rest : Dialogue α)
  | ask (call : Call) (rest : Reply call → Dialogue α)

/-- What a dialogue came to over a view, and what it asked and recorded on the way. -/
structure Run (α : Type) where
  value : α
  calls : List Call
  notices : List Notice

namespace Dialogue

variable {α β : Type}

/-- One dialogue after another. -/
def bind (f : α → Dialogue β) : Dialogue α → Dialogue β
  | .done a => f a
  | .note notice rest => .note notice (rest.bind f)
  | .ask call rest => .ask call fun reply => (rest reply).bind f

instance : Monad Dialogue where
  pure := .done
  bind d f := d.bind f

/-- Runs a dialogue over a view. -/
def run (view : View) : Dialogue α → Run α
  | .done a => ⟨a, [], []⟩
  | .note notice rest =>
    let r := rest.run view
    ⟨r.value, r.calls, notice :: r.notices⟩
  | .ask call rest =>
    let r := (rest (view call)).run view
    ⟨r.value, call :: r.calls, r.notices⟩

/-- Runs a dialogue with replies and records that are effects. -/
def runIn {m : Type → Type} [Monad m] (reply : (call : Call) → m (Reply call))
    (record : Notice → m Unit) : Dialogue α → m α
  | .done a => pure a
  | .note notice rest => do
    record notice
    rest.runIn reply record
  | .ask call rest => do
    let r ← reply call
    (rest r).runIn reply record

/-- Records a notice. -/
def notice (n : Notice) : Dialogue Unit := .note n (.done ())

/-- Asks a call. -/
def call (c : Call) : Dialogue (Reply c) := .ask c .done

end Dialogue

/-! ## Queries -/

/-- What ends a query before it has an answer. -/
inductive Stop where
  | refused (error : FeeHistoryError)
  | crashed (fault : Fault)
deriving DecidableEq

/-- A dialogue that may stop before it has an answer. -/
abbrev Query := ExceptT Stop Dialogue

namespace Query

variable {α : Type}

/-- Ends with an error. -/
def refuse (error : FeeHistoryError) : Query α := throw (.refused error)

/-- The value of a checked computation; its fault ends the query. -/
def checked : Checked α → Query α
  | .ok a => pure a
  | .error fault => throw (.crashed fault)

/-- Records a notice. -/
def notice (n : Notice) : Query Unit := ExceptT.lift (Dialogue.notice n)

/-- Asks a call. -/
def call (c : Call) : Query (Reply c) := ExceptT.lift (Dialogue.call c)

/-- What a lookup found, if anything; a failed lookup ends the query. -/
def settle : Lookup α → Query (Option α)
  | .absent => pure none
  | .found a => pure (some a)
  | .failed reason => refuse (.fetch reason)
  | .broken => throw (.crashed .brokenReader)

end Query

end FeeMarket
