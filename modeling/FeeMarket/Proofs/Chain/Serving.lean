import FeeMarket.Proofs.Alike
import FeeMarket.Proofs.Chain.Completeness
import FeeMarket.Proofs.Chain.Node
import FeeMarket.Proofs.Json.Codec

/-!
# Nodes that serve a chain

A node may have a chain that a reader could as well keep in memory.

**Told.** What a node tells of a transaction, a receipt or a block: gas in 256 bits, and the number
and the hash of a block as fields that could be absent. What is told converts back
(`Block.toBlock_told`, `NodeReceipt.toReceipts_told`). The hash of a pending block is not settled:
the node may leave it out, and the reader then puts zero in its place.

**Tells** (`Node.Tells`). The reply to a request is a result, and it is decoded to just these data, or
is null.

**Serves** (`Node.Serves`). The node tells of each selector what the chain has, and null where it has
nothing; for a hash it gives the receipts of a block with that hash.

If no two blocks have the same hash, a query comes to the same outcome over the chain in memory and
over a node that serves it (`served_queries_agree`). Every chain is served by some node
(`MemoryChain.serves_endpoint`).
-/

namespace FeeMarket

/-! ## What a node tells -/

section Told

variable {τ : Type}

/-- What a node tells of a transaction. -/
def Transaction.told (t : Transaction) : NodeTransaction := ⟨t.hash, .ofWord t.gas⟩

/-- What a node tells of a receipt. -/
def Receipt.told (r : Receipt) : NodeReceipt := ⟨r.transactionHash, some (.ofWord r.gasUsed)⟩

/-- What a node tells of a block, with a hash that may be absent. -/
def Block.told (tell : Transaction → τ) (hash : Option Hash) (b : Block) : NodeBlock τ :=
  ⟨some b.number, hash, .ofWord b.header.gasLimit, .ofWord b.gasUsed, b.header.baseFee,
    b.transactions.map tell⟩

theorem Wei.toWord_ofWord (field : String) (w : UInt64) : (ofWord w).toWord field = .ok w := by
  rw [toWord, toNat_ofWord, Word.ofNat?_toNat]

theorem Block.toHeader_told (tell : Transaction → τ) (hash : Option Hash) (b : Block) :
    (b.told tell hash).toHeader = .ok (b.header.withHash (hash.getD 0)) := by
  simp only [told, NodeBlock.toHeader, Wei.toWord_ofWord]
  rfl

theorem Transaction.toTransaction_told (t : Transaction) : t.told.toTransaction = .ok t := by
  rw [NodeTransaction.toTransaction, told, Wei.toWord_ofWord]
  rfl

theorem Receipt.toReceipt_told (r : Receipt) : r.told.toReceipt = .ok r := by
  simp only [told, NodeReceipt.toReceipt, Wei.toWord_ofWord]
  rfl

theorem Block.toBlock_told (hash : Option Hash) (b : Block) :
    (b.told Transaction.told hash).toBlock = .ok (b.withHash (hash.getD 0)) := by
  rw [NodeBlock.toBlock, toHeader_told]
  show ((b.transactions.map Transaction.told).mapM NodeTransaction.toTransaction >>= _) = _
  rw [mapM_map_eq_ok Transaction.toTransaction_told]
  rfl

theorem NodeReceipt.toReceipts_told (rs : List Receipt) :
    toReceipts (rs.map Receipt.told) = .ok rs := mapM_map_eq_ok Receipt.toReceipt_told rs

end Told

/-! ## Serving a chain -/

namespace MemoryChain

/-- The block is stored, or pending. -/
def Holds (c : MemoryChain) (b : FullBlock) : Prop := b ∈ c.blocks ∨ c.pending = some b

/-- What there is to be said of receipts by a hash. Of a pending block a node need not know them. -/
inductive ReceiptsOf (c : MemoryChain) (hash : Hash) : Option (List Receipt) → Prop
  | held {b} : c.Holds b → b.block.hash = hash → ReceiptsOf c hash (some b.receipts)
  | unknown : (∀ b ∈ c.blocks, b.block.hash ≠ hash) → ReceiptsOf c hash none

/-- No two blocks, stored or pending, have the same hash. -/
def DistinctHashesWithPending (c : MemoryChain) : Prop :=
  ((c.blocks.toList ++ c.pending.toList).map fun b => b.block.hash).Nodup

instance (c : MemoryChain) : Decidable c.DistinctHashesWithPending :=
  inferInstanceAs (Decidable (List.Nodup _))

/-- A pending block has one receipt for each transaction. -/
def PendingReceipted (c : MemoryChain) : Prop :=
  ∀ b, c.pending = some b → b.receipts.length = b.block.transactions.length

variable {c : MemoryChain}

theorem mem_of_holds {b : FullBlock} (h : c.Holds b) :
    b ∈ c.blocks.toList ++ c.pending.toList := by
  simpa [Holds, eq_comm] using h

theorem DistinctHashesWithPending.stored (distinct : c.DistinctHashesWithPending) :
    c.DistinctHashes := by
  rw [DistinctHashesWithPending, List.map_append] at distinct
  exact distinct.of_append_left

theorem DistinctHashesWithPending.receiptsOf_stored (distinct : c.DistinctHashesWithPending)
    {b : FullBlock} (hb : b ∈ c.blocks) {receipts : Option (List Receipt)}
    (h : c.ReceiptsOf b.block.hash receipts) : receipts = some b.receipts := by
  cases h with
  | @held b' hb' hhash =>
    rw [List.inj_on_of_nodup_map distinct (mem_of_holds hb') (mem_of_holds (.inl hb)) hhash]
  | unknown hne => exact absurd rfl (hne b hb)

end MemoryChain

namespace Node

/-- The reply is a result, and it is decoded to these data, or to their absence. -/
def Tells {α : Type} (endpoint : Endpoint) (request : NodeRequest) (decode : Json → Decoded α)
    (data : Option α) : Prop :=
  ∃ v, endpoint request = .result v ∧ Decode.nullable decode v = .ok data

/-- The node tells what the chain has. -/
structure Serves (endpoint : Endpoint) (c : MemoryChain) : Prop where
  header : ∀ selector, selector ≠ .pending → Tells endpoint (.block selector false)
    (NodeBlock.decode Decode.hash)
    ((c.find? selector).map fun b => b.block.told Transaction.hash (some b.block.hash))
  block : ∀ selector, selector ≠ .pending → Tells endpoint (.block selector true)
    (NodeBlock.decode NodeTransaction.decode)
    ((c.find? selector).map fun b => b.block.told Transaction.told (some b.block.hash))
  pendingHeader : ∃ hash, Tells endpoint (.block .pending false) (NodeBlock.decode Decode.hash)
    (c.pending.map fun b => b.block.told Transaction.hash hash)
  /-- The node may leave out the hash of a pending block. -/
  pending : ∃ hash, Tells endpoint (.block .pending true) (NodeBlock.decode NodeTransaction.decode)
    (c.pending.map fun b => b.block.told Transaction.told hash)
  receipts : ∀ hash, ∃ receipts, c.ReceiptsOf hash receipts ∧ Tells endpoint (.receipts hash)
    (Decode.list NodeReceipt.decode) (receipts.map (List.map Receipt.told))
  pendingReceipts : Tells endpoint .pendingReceipts (Decode.list NodeReceipt.decode)
    (c.pending.map fun b => b.receipts.map Receipt.told)

section Views

variable {α β γ : Type} {endpoint : Endpoint} {request : NodeRequest} {decode : Json → Decoded α}
  {convert : α → Except NodeError β} {c : MemoryChain}

theorem fetch_of_tells {tell : γ → α} {converted : γ → β} {data : Option γ}
    (h : Tells endpoint request decode (data.map tell))
    (hconvert : ∀ x, convert (tell x) = .ok (converted x)) :
    Id.run (fetch (fun r => pure (endpoint r)) request decode convert) =
      .ok (data.map converted) := by
  obtain ⟨v, hreply, hv⟩ := h
  rw [fetch_of_result hreply hv]
  cases data with
  | none => rfl
  | some x =>
    show (convert (tell x) >>= fun b => pure (some b)) = _
    rw [hconvert]
    rfl

theorem lookup_of_tells {tell : γ → α} {converted : γ → β} {data : Option γ}
    (h : Tells endpoint request decode (data.map tell))
    (hconvert : ∀ x, convert (tell x) = .ok (converted x)) :
    Lookup.ofNode (Id.run (fetch (fun r => pure (endpoint r)) request decode convert)) =
      .ofOption (data.map converted) := by
  rw [fetch_of_tells h hconvert]
  rfl

theorem sound_of_tells {tell : γ → α} {converted : γ → β} {data : Option γ}
    (h : Tells endpoint request decode (data.map tell))
    (hconvert : ∀ x, convert (tell x) = .ok (converted x)) :
    ¬ (Lookup.ofNode
      (Id.run (fetch (fun r => pure (endpoint r)) request decode convert))).Fails := by
  rw [lookup_of_tells h hconvert]
  exact MemoryChain.ofOption_sound _

namespace Serves

theorem view_header (serves : Serves endpoint c) {selector : Selector}
    (hs : selector ≠ .pending) : view endpoint (.header selector) = c.view (.header selector) :=
  lookup_of_tells (serves.header selector hs) fun b => b.block.toHeader_told _ _

theorem view_block (serves : Serves endpoint c) {selector : Selector}
    (hs : selector ≠ .pending) : view endpoint (.block selector) = c.view (.block selector) :=
  lookup_of_tells (serves.block selector hs) fun b => b.block.toBlock_told _

theorem view_receipts (serves : Serves endpoint c) (hash : Hash) :
    ∃ receipts, c.ReceiptsOf hash receipts ∧
      view endpoint (.receipts hash) = .ofOption receipts := by
  obtain ⟨receipts, hreceipts, htells⟩ := serves.receipts hash
  refine ⟨receipts, hreceipts, ?_⟩
  have hlookup := lookup_of_tells htells NodeReceipt.toReceipts_told
  rw [Option.map_id'] at hlookup
  exact hlookup

/-- The pending block has its receipts, also where it needs none. -/
theorem view_pending (serves : Serves endpoint c) (receipted : c.PendingReceipted) :
    (view endpoint .pending).map FullBlock.unsealed = c.pending.map FullBlock.unsealed := by
  obtain ⟨hash, htells⟩ := serves.pending
  rw [Node.view_pending, Node.block, fetch_of_tells htells fun b => b.block.toBlock_told hash,
    Node.receipts, fetch_of_tells serves.pendingReceipts fun b =>
      NodeReceipt.toReceipts_told b.receipts]
  cases hp : c.pending with
  | none => rfl
  | some b =>
    have hlength := receipted b hp
    simp only [Option.map_some]
    split
    · rename_i hempty
      have htransactions : b.block.transactions = [] := List.isEmpty_iff.1 hempty
      rw [htransactions, List.length_nil, List.length_eq_zero_iff] at hlength
      rw [Option.map_some, FullBlock.unsealed, FullBlock.unsealed, hlength]
      rfl
    · rfl

theorem view_sound (serves : Serves endpoint c) (call : Call) :
    ¬ (Reply.status call (view endpoint call)).Fails := by
  have headers (selector : Selector) : ¬ (view endpoint (.header selector)).Fails := by
    by_cases hs : selector = .pending
    · obtain ⟨hash, htells⟩ := serves.pendingHeader
      rw [hs]
      exact sound_of_tells htells fun b => b.block.toHeader_told _ hash
    · exact sound_of_tells (serves.header selector hs) fun b => b.block.toHeader_told _ _
  have blocks (selector : Selector) : ¬ (view endpoint (.block selector)).Fails := by
    by_cases hs : selector = .pending
    · obtain ⟨hash, htells⟩ := serves.pending
      rw [hs]
      exact sound_of_tells htells fun b => b.block.toBlock_told hash
    · exact sound_of_tells (serves.block selector hs) fun b => b.block.toBlock_told _
  cases call with
  | pending => exact id
  | header selector => exact fun h => headers selector (Lookup.fails_status.1 h)
  | block selector => exact fun h => blocks selector (Lookup.fails_status.1 h)
  | finalized => exact fun h => blocks .finalized (Lookup.fails_status.1 h)
  | receipts hash =>
    obtain ⟨receipts, -, htells⟩ := serves.receipts hash
    intro h
    exact sound_of_tells htells NodeReceipt.toReceipts_told (Lookup.fails_status.1 h)

/-- **Nodes reply alike.** -/
theorem alike (serves : Serves endpoint c) (distinct : c.DistinctHashesWithPending)
    (receipted : c.PendingReceipted) : c.view.Alike (view endpoint) where
  head := (serves.view_header (by decide)).symm
  finalized := (serves.view_block (by decide)).symm
  header _ := (serves.view_header Selector.noConfusion).symm
  block _ := (serves.view_block Selector.noConfusion).symm
  receipts := by
    intro n block hblock
    obtain ⟨receipts, hreceipts, hview⟩ := serves.view_receipts block.hash
    obtain ⟨b, hb, rfl⟩ : ∃ b ∈ c.blocks, b.block = block := by
      cases hget : c.get? n with
      | none => simp [MemoryChain.view, MemoryChain.find?, hget, Lookup.ofOption] at hblock
      | some b =>
        refine ⟨b, Array.mem_of_getElem? hget, ?_⟩
        simpa [MemoryChain.view, MemoryChain.find?, hget, Lookup.ofOption] using hblock
    rw [hview, distinct.receiptsOf_stored hb hreceipts]
    show Lookup.ofOption (c.receipts? b.block.hash) = _
    rw [distinct.stored.receipts?_eq hb]
  pending := (serves.view_pending receipted).symm

end Serves

end Views

end Node

/-! ## A node for every chain -/

open Json

namespace NodeTransaction

def encode (t : NodeTransaction) : Json := .object [("hash", t.hash.encode), ("gas", t.gas.encode)]

theorem decodes (t : NodeTransaction) : Decodes decode t.encode t := by
  refine .record (by simp) fun own inOrder hown => ?_
  have hhash := hown.field "hash" (.hash t.hash) rfl
  have hgas := hown.field "gas" (.wei t.gas) rfl
  simp only [decode, hhash, hgas]
  rfl

end NodeTransaction

namespace NodeReceipt

def encode (r : NodeReceipt) : Json :=
  .object [("transactionHash", r.transactionHash.encode),
    ("gasUsed", .nullable Wei.encode r.gasUsed)]

theorem decodes (r : NodeReceipt) : Decodes decode r.encode r := by
  refine .record (by simp) fun own inOrder hown => ?_
  have hhash := hown.field "transactionHash" (.hash r.transactionHash) rfl
  have hused := hown.field "gasUsed" (.nullable (by rintro a ⟨⟩) .wei r.gasUsed) rfl
  simp only [decode, hhash, hused]
  rfl

end NodeReceipt

namespace NodeBlock

variable {τ : Type}

def encode (transaction : τ → Json) (b : NodeBlock τ) : Json :=
  .object [("number", .nullable (fun n => .string (Word.toHex n)) b.number),
    ("hash", .nullable Hash.encode b.hash), ("gasLimit", b.gasLimit.encode),
    ("gasUsed", b.gasUsed.encode), ("baseFeePerGas", .nullable Wei.encode b.baseFee),
    ("transactions", .list transaction b.transactions)]

theorem decodes {decodeItem : Json → Decoded τ} {encodeItem : τ → Json}
    (h : ∀ t, Decodes decodeItem (encodeItem t) t) (b : NodeBlock τ) :
    Decodes (decode decodeItem) (b.encode encodeItem) b := by
  refine .record (by simp) fun own inOrder hown => ?_
  have hnumber := hown.field "number" (.nullable (by rintro a ⟨⟩) .quantity b.number) rfl
  have hhash := hown.field "hash" (.nullable (by rintro a ⟨⟩) .hash b.hash) rfl
  have hlimit := hown.field? "gasLimit" (.wei b.gasLimit) rfl
  have hused := hown.field? "gasUsed" (.wei b.gasUsed) rfl
  have hfee := hown.field "baseFeePerGas" (.nullable (by rintro a ⟨⟩) .wei b.baseFee) rfl
  have htransactions := hown.field? "transactions" (.list h b.transactions) rfl
  simp only [decode, hnumber, hhash, hlimit, hused, hfee, htransactions]
  rfl

end NodeBlock

theorem Node.tells_of_decodes {α : Type} {endpoint : Endpoint} {request : NodeRequest}
    {decode : Json → Decoded α} {encode : α → Json} {data : Option α}
    (h : endpoint request = .result (.nullable encode data)) (hnull : ∀ a, decode .null ≠ .ok a)
    (hdecodes : ∀ a, Decodes decode (encode a) a) : Tells endpoint request decode data :=
  ⟨_, h, Decodes.nullable hnull hdecodes data false⟩

namespace MemoryChain

variable {τ : Type} (c : MemoryChain)

/-- What a node tells of the block of a selector. No block stands for a pending one, and its hash is
left out. -/
def told (tell : Transaction → τ) : Selector → Option (NodeBlock τ)
  | .pending => c.pending.map fun b => b.block.told tell none
  | selector => (c.find? selector).map fun b => b.block.told tell (some b.block.hash)

/-- A node that has the chain. -/
def endpoint : Endpoint
  | .block selector false =>
    .result (.nullable (NodeBlock.encode Hash.encode) (c.told Transaction.hash selector))
  | .block selector true =>
    .result (.nullable (NodeBlock.encode NodeTransaction.encode) (c.told Transaction.told selector))
  | .receipts hash =>
    .result (.nullable (.list NodeReceipt.encode) ((c.receipts? hash).map (List.map Receipt.told)))
  | .pendingReceipts =>
    .result (.nullable (.list NodeReceipt.encode)
      (c.pending.map fun b => b.receipts.map Receipt.told))

theorem told_of_ne_pending (tell : Transaction → τ) {selector : Selector}
    (hs : selector ≠ .pending) : c.told tell selector =
      (c.find? selector).map fun b => b.block.told tell (some b.block.hash) := by
  cases selector with
  | pending => exact absurd rfl hs
  | number n | latest | finalized => rfl

theorem tells_header (selector : Selector) : Node.Tells c.endpoint (.block selector false)
    (NodeBlock.decode Decode.hash) (c.told Transaction.hash selector) :=
  Node.tells_of_decodes rfl (by rintro a ⟨⟩) (NodeBlock.decodes .hash)

theorem tells_block (selector : Selector) : Node.Tells c.endpoint (.block selector true)
    (NodeBlock.decode NodeTransaction.decode) (c.told Transaction.told selector) :=
  Node.tells_of_decodes rfl (by rintro a ⟨⟩) (NodeBlock.decodes NodeTransaction.decodes)

theorem receiptsOf_receipts? (hash : Hash) : c.ReceiptsOf hash (c.receipts? hash) := by
  unfold receipts?
  cases h : (c.blocks.toList ++ c.pending.toList).find? fun b => b.block.hash = hash with
  | some b =>
    refine .held ?_ (by simpa using List.find?_some h)
    simpa [Holds, eq_comm] using List.mem_of_find?_eq_some h
  | none =>
    refine .unknown fun b hb => ?_
    have hmem : b ∈ c.blocks.toList ++ c.pending.toList := mem_of_holds (.inl hb)
    simpa using List.find?_eq_none.1 h b hmem

/-- **Every chain is served by some node.** -/
theorem serves_endpoint : Node.Serves c.endpoint c where
  header selector hs := c.told_of_ne_pending _ hs ▸ c.tells_header selector
  block selector hs := c.told_of_ne_pending _ hs ▸ c.tells_block selector
  pendingHeader := ⟨none, c.tells_header .pending⟩
  pending := ⟨none, c.tells_block .pending⟩
  receipts hash := ⟨_, c.receiptsOf_receipts? hash,
    Node.tells_of_decodes rfl (by rintro a ⟨⟩) (.list NodeReceipt.decodes)⟩
  pendingReceipts := Node.tells_of_decodes rfl (by rintro a ⟨⟩) (.list NodeReceipt.decodes)

end MemoryChain

/-! ## Queries -/

/-- **A chain in memory and a node that serves it are told apart by no query.** Whatever the two
schedules, the answer is the same, or the error. -/
theorem served_queries_agree {c : MemoryChain} {endpoint : Endpoint} (reachable : c.Reachable)
    (distinct : c.DistinctHashesWithPending) (receipted : c.PendingReceipted)
    (serves : Node.Serves endpoint c) (o : Oracle) (count : UInt64) (last : Selector)
    (percentiles : List Float) :
    ∃ outcome, o.ComesTo c.view count last percentiles outcome ∧
      o.ComesTo (Node.view endpoint) count last percentiles outcome :=
  (serves.alike distinct receipted).comesTo c.view_sound serves.view_sound
    fun _ planned nonempty => reachable.coherent.room planned nonempty

/-- A chain of one finalized block, with a pending one. -/
def finalizedAndPending : MemoryChain :=
  ⟨#[sealed 0 1 10], some (sealed 1 2 20), some 0⟩

/-- The rewards of both blocks, from memory and from a node that tells no hash of the second. -/
theorem served_queries_agree_on_pending :
    finalizedAndPending.Reachable ∧ finalizedAndPending.DistinctHashesWithPending ∧
      finalizedAndPending.PendingReceipted ∧
      Node.Serves finalizedAndPending.endpoint finalizedAndPending ∧
      ∃ history, finalizedAndPending.Rewarded ⟨some (sealed 1 2 20), 1, 2⟩ [50] history ∧
        Oracle.standard.ComesTo finalizedAndPending.view 2 .pending [50] (.ok history) ∧
        Oracle.standard.ComesTo (Node.view finalizedAndPending.endpoint) 2 .pending [50]
          (.ok history) := by
  have first : MemoryChain.Reachable ⟨#[sealed 0 1 10], none, none⟩ :=
    .push .empty (by decide) (b := sealed 0 1 10) rfl
  have finalized : MemoryChain.Reachable ⟨#[sealed 0 1 10], none, some 0⟩ :=
    @MemoryChain.Reachable.setFinalized _ _ 0 first rfl
  have reachable : finalizedAndPending.Reachable :=
    @MemoryChain.Reachable.setPending _ _ (some (sealed 1 2 20)) finalized rfl
  have distinct : finalizedAndPending.DistinctHashesWithPending := by decide
  have serves := finalizedAndPending.serves_endpoint
  have receipted : finalizedAndPending.PendingReceipted := by
    intro b hb
    cases hb
    rfl
  obtain ⟨outcome, hmemory, hnode⟩ := served_queries_agree reachable distinct receipted serves
    Oracle.standard 2 .pending [50]
  -- What both come to is the history of the two blocks.
  have metered : finalizedAndPending.Metered := by
    rintro b (hb | hb)
    · obtain rfl : b = sealed 0 1 10 := by simpa [finalizedAndPending] using hb
      decide
    · cases hb
      decide
  have planned : (Oracle.standard.plan 2 .pending [50]).outcome finalizedAndPending.view =
      .ok ⟨some (sealed 1 2 20), 1, 2⟩ := rfl
  have hc := reachable.coherent
  obtain ⟨fees, entries, hanswers⟩ := hc.exists_entries metered planned rfl
  obtain rfl := hmemory.program.symm.trans hanswers.answered
  refine ⟨reachable, distinct, receipted, serves, _, ?_, hmemory, hnode⟩
  exact entries.rewarded hc distinct.stored receipted (List.cons_ne_nil 50 []) rfl

end FeeMarket
