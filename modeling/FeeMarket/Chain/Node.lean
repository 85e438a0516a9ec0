import FeeMarket.Dialogue
import FeeMarket.Json.Decode

/-!
# Chains behind a node

**Node.** A server that answers JSON-RPC requests. A request asks for a block, with its
transactions or only their hashes, or for the receipts of a block. The reply is a result, a
failure, or nothing before the time is up.

**Conversion.** A node counts gas in 256 bits. A block converts when it has a number and its gas
limit, its gas used and the gas of each of its transactions are words; a list of receipts
converts when each of them has a gas used that is a word. Nothing is cut off: one number that is
too large fails the whole conversion.

**Pending block.** It is had together with its receipts, which an empty block does not need. Any
failure on the way means that there is no pending block.
-/

namespace FeeMarket

/-! ## Replies -/

/-- What a node is asked for. -/
inductive NodeRequest where
  | block (selector : Selector) (withTransactions : Bool)
  | receipts (hash : Hash)
  | pendingReceipts
deriving DecidableEq

namespace NodeRequest

def method : NodeRequest → String
  | .block .. => "eth_getBlockByNumber"
  | .receipts _ => "eth_getBlockReceipts"
  | .pendingReceipts => "eth_getBlockReceipts"

def params : NodeRequest → Json
  | .block selector withTransactions => .array [selector.encode, .bool withTransactions]
  | .receipts hash => .array [hash.encode]
  | .pendingReceipts => .array [.string "pending"]

end NodeRequest

/-- What comes of a request. -/
inductive NodeReply where
  | result (value : Json)
  | failed
  | timedOut

/-- A node at one moment. -/
abbrev Endpoint := NodeRequest → NodeReply

/-- A node that cannot be reached: every request fails. -/
def Endpoint.unreachable : Endpoint := fun _ => .failed

/-- Why a node gives no data. -/
inductive NodeError where
  | failed (method : String)
  | timedOut (method : String)
  | missingNumber
  | missingGasUsed
  | oversized (field : String) (value : Wei)
  | pendingReceiptsMissing
deriving DecidableEq

def NodeError.message : NodeError → String
  | .failed method => method ++ " failed"
  | .timedOut method => method ++ " timed out"
  | .missingNumber => "Missing block number"
  | .missingGasUsed => "Missing receipt gas used"
  | .oversized field value => field ++ " does not fit in u64: " ++ value.toDecimal
  | .pendingReceiptsMissing => "Node does not serve pending receipts"

/-- The outcome of a lookup that may fail. -/
def Lookup.ofNode {α : Type} : Except NodeError (Option α) → Lookup α
  | .ok a => .ofOption a
  | .error e => .failed e.message

/-! ## Data of a node -/

/-- A transaction as a node describes it. -/
structure NodeTransaction where
  hash : Hash
  gas : Wei
deriving DecidableEq

/-- A block as a node describes it, with `τ` for each transaction. -/
structure NodeBlock (τ : Type) where
  /-- Absent in a block that is pending. -/
  number : Option UInt64
  /-- Absent in a block that is pending. -/
  hash : Option Hash
  gasLimit : Wei
  gasUsed : Wei
  baseFee : Option Wei
  transactions : List τ
deriving DecidableEq

/-- A receipt as a node describes it. -/
structure NodeReceipt where
  transactionHash : Hash
  gasUsed : Option Wei
deriving DecidableEq

/-- A word, if the amount is one. -/
def Wei.toWord (field : String) (w : Wei) : Except NodeError UInt64 :=
  match Word.ofNat? w.toNat with
  | some word => .ok word
  | none => .error (.oversized field w)

namespace NodeBlock

variable {τ : Type}

/-- The header of a block. -/
def toHeader (b : NodeBlock τ) : Except NodeError Header := do
  match b.number with
  | none => throw .missingNumber
  | some number =>
    let gasLimit ← b.gasLimit.toWord "gas limit"
    let gasUsed ← b.gasUsed.toWord "gas used"
    return ⟨number, b.hash.getD 0, gasLimit, gasUsed, b.baseFee⟩

end NodeBlock

def NodeTransaction.toTransaction (t : NodeTransaction) : Except NodeError Transaction := do
  let gas ← t.gas.toWord "transaction gas"
  return ⟨t.hash, gas⟩

/-- A block and its transactions. -/
def NodeBlock.toBlock (b : NodeBlock NodeTransaction) : Except NodeError Block := do
  let header ← b.toHeader
  let transactions ← b.transactions.mapM NodeTransaction.toTransaction
  return ⟨header, transactions⟩

def NodeReceipt.toReceipt (r : NodeReceipt) : Except NodeError Receipt := do
  match r.gasUsed with
  | none => throw .missingGasUsed
  | some gasUsed =>
    let gasUsed ← gasUsed.toWord "receipt gas used"
    return ⟨r.transactionHash, gasUsed⟩

/-- The receipts of a block. -/
def NodeReceipt.toReceipts (rs : List NodeReceipt) : Except NodeError (List Receipt) :=
  rs.mapM NodeReceipt.toReceipt

/-! ## Decoding -/

namespace NodeTransaction

def decode (v : Json) : Decoded NodeTransaction := do
  let hash ← Decode.hash (v.field "hash")
  let gas ← Decode.wei (v.field "gas")
  return ⟨hash, gas⟩

end NodeTransaction

namespace NodeReceipt

def decode (v : Json) : Decoded NodeReceipt := do
  let transactionHash ← Decode.hash (v.field "transactionHash")
  let gasUsed ← Decode.nullable Decode.wei (v.field "gasUsed")
  return ⟨transactionHash, gasUsed⟩

end NodeReceipt

namespace NodeBlock

variable {τ : Type}

/-- A missing gas limit or gas used counts as zero, and a missing list as empty. -/
def decode (transaction : Json → Decoded τ) (v : Json) : Decoded (NodeBlock τ) :=
  match v with
  | .object _ => do
    let number ← Decode.nullable Decode.quantity (v.field "number")
    let hash ← Decode.nullable Decode.hash (v.field "hash")
    let gasLimit ← (v.field? "gasLimit").mapM Decode.wei
    let gasUsed ← (v.field? "gasUsed").mapM Decode.wei
    let baseFee ← Decode.nullable Decode.wei (v.field "baseFeePerGas")
    let transactions ← (v.field? "transactions").mapM (Decode.list transaction)
    return ⟨number, hash, gasLimit.getD 0, gasUsed.getD 0, baseFee, transactions.getD []⟩
  | _ => .error .malformed

end NodeBlock

/-! ## Calls -/

namespace NodeReply

/-- What a reply says: data, or null. A result of the wrong shape is a failure. -/
def read {α : Type} (request : NodeRequest) (decode : Json → Decoded α) :
    NodeReply → Except NodeError (Option α)
  | .failed => .error (.failed request.method)
  | .timedOut => .error (.timedOut request.method)
  | .result v =>
    match Decode.nullable decode v with
    | .ok a => .ok a
    | .error _ => .error (.failed request.method)

end NodeReply

namespace Node

variable {m : Type → Type} [Monad m]

/-- Sends a request and converts what the reply says. -/
def fetch {α β : Type} (send : NodeRequest → m NodeReply) (request : NodeRequest)
    (decode : Json → Decoded α) (convert : α → Except NodeError β) :
    m (Except NodeError (Option β)) := do
  let reply ← send request
  return do
    let data ← reply.read request decode
    data.mapM convert

/-- A header. -/
def header (send : NodeRequest → m NodeReply) (selector : Selector) :
    m (Except NodeError (Option Header)) :=
  fetch send (.block selector false) (NodeBlock.decode Decode.hash) NodeBlock.toHeader

/-- A block with its transactions. -/
def block (send : NodeRequest → m NodeReply) (selector : Selector) :
    m (Except NodeError (Option Block)) :=
  fetch send (.block selector true) (NodeBlock.decode NodeTransaction.decode) NodeBlock.toBlock

/-- The receipts of a block. -/
def receipts (send : NodeRequest → m NodeReply) (request : NodeRequest) :
    m (Except NodeError (Option (List Receipt))) :=
  fetch send request (Decode.list NodeReceipt.decode) NodeReceipt.toReceipts

/-- The pending block with its receipts. -/
def pending (send : NodeRequest → m NodeReply) : m (Except NodeError (Option FullBlock)) := do
  match ← block send .pending with
  | .error e => return .error e
  | .ok none => return .ok none
  | .ok (some b) =>
    if b.transactions.isEmpty then return .ok (some ⟨b, []⟩)
    else
      match ← receipts send .pendingReceipts with
      | .error e => return .error e
      | .ok none => return .error .pendingReceiptsMissing
      | .ok (some rs) => return .ok (some ⟨b, rs⟩)

/-- The reply to a call. -/
def reply (send : NodeRequest → m NodeReply) (record : Notice → m Unit) :
    (call : Call) → m (Reply call)
  | .header selector => do return .ofNode (← header send selector)
  | .block selector => do return .ofNode (← block send selector)
  | .receipts hash => do return .ofNode (← receipts send (.receipts hash))
  | .pending => do
    match ← pending send with
    | .ok b => return b
    | .error _ =>
      record .pendingUnavailable
      return none
  | .finalized => do return .ofNode (← block send .finalized)

/-- What a chain behind a node replies. -/
def view (endpoint : Endpoint) : View := fun call =>
  Id.run (reply (fun request => pure (endpoint request)) (fun _ => pure ()) call)

end Node

end FeeMarket
