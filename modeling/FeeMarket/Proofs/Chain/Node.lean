import FeeMarket.Chain.Node

/-!
# The pending block of a node

**Gives, lacks** (`NodeReply.Gives`, `NodeReply.Lacks`). A reply gives data if it has a result that is
decoded and converted. Otherwise it lacks them: it fails, it comes too late, its result is null or
malformed, or a part of it does not convert. A reply does one or the other.

**Unpended** (`Node.Unpended`). The reply to the request for the pending block lacks a block, or that
to the request for its receipts lacks them. An empty block needs no receipts.

A chain behind a node has no pending block just if the node is unpended
(`Node.view_pending_eq_none_iff`). So nothing that goes wrong with these two requests is an error.
-/

namespace FeeMarket

namespace NodeReply

variable {α β : Type}

/-- The result is decoded to data that convert. -/
inductive Gives (decode : Json → Decoded α) (convert : α → Except NodeError β) :
    NodeReply → β → Prop
  | result {v a b} : Decode.nullable decode v = .ok (some a) → convert a = .ok b →
      Gives decode convert (.result v) b

/-- There are no data to be had of the reply. -/
inductive Lacks (decode : Json → Decoded α) (convert : α → Except NodeError β) : NodeReply → Prop
  | failed : Lacks decode convert .failed
  | timedOut : Lacks decode convert .timedOut
  | malformed {v error} : Decode.nullable decode v = .error error →
      Lacks decode convert (.result v)
  | null {v} : Decode.nullable decode v = .ok none → Lacks decode convert (.result v)
  | unconverted {v a error} : Decode.nullable decode v = .ok (some a) →
      convert a = .error error → Lacks decode convert (.result v)

variable {decode : Json → Decoded α} {convert : α → Except NodeError β}

theorem gives_or_lacks (decode : Json → Decoded α) (convert : α → Except NodeError β)
    (reply : NodeReply) : (∃ b, reply.Gives decode convert b) ∨ reply.Lacks decode convert := by
  cases reply with
  | failed => exact .inr .failed
  | timedOut => exact .inr .timedOut
  | result v =>
    cases hv : Decode.nullable decode v with
    | error e => exact .inr (.malformed hv)
    | ok data? =>
      cases data? with
      | none => exact .inr (.null hv)
      | some a =>
        cases ha : convert a with
        | error e => exact .inr (.unconverted hv ha)
        | ok b => exact .inl ⟨b, .result hv ha⟩

theorem Gives.unique {reply : NodeReply} {b b' : β} (h : reply.Gives decode convert b)
    (h' : reply.Gives decode convert b') : b = b' := by
  obtain ⟨hv, ha⟩ := h
  obtain ⟨hv', ha'⟩ := h'
  cases hv.symm.trans hv'
  exact Except.ok.inj (ha.symm.trans ha')

theorem Gives.not_lacks {reply : NodeReply} {b : β} (h : reply.Gives decode convert b) :
    ¬ reply.Lacks decode convert := by
  obtain ⟨hv, ha⟩ := h
  intro hlacks
  cases hlacks with
  | malformed hv' | null hv' => cases hv.symm.trans hv'
  | unconverted hv' ha' =>
    cases hv.symm.trans hv'
    cases ha.symm.trans ha'

end NodeReply

namespace Node

open NodeReply (gives_or_lacks)

variable {α β : Type} {decode : Json → Decoded α} {convert : α → Except NodeError β}
  {endpoint : Endpoint} {request : NodeRequest}

theorem fetch_of_result {v : Json} {data : Option α} (hreply : endpoint request = .result v)
    (hv : Decode.nullable decode v = .ok data) :
    Id.run (fetch (fun r => pure (endpoint r)) request decode convert) = data.mapM convert := by
  show ((endpoint request).read request decode >>= fun data => data.mapM convert) = _
  rw [hreply, NodeReply.read, hv]
  rfl

theorem fetch_of_gives {b : β} (h : (endpoint request).Gives decode convert b) :
    Id.run (fetch (fun r => pure (endpoint r)) request decode convert) = .ok (some b) := by
  cases hreply : endpoint request with
  | failed | timedOut =>
    rw [hreply] at h
    cases h
  | result v =>
    rw [hreply] at h
    obtain ⟨hv, ha⟩ := h
    rw [fetch_of_result hreply hv]
    show (convert _ >>= fun b => pure (some b)) = _
    rw [ha]
    rfl

theorem fetch_of_lacks (h : (endpoint request).Lacks decode convert) :
    Id.run (fetch (fun r => pure (endpoint r)) request decode convert) = .ok none ∨
      ∃ e, Id.run (fetch (fun r => pure (endpoint r)) request decode convert) = .error e := by
  show ((endpoint request).read request decode >>= fun data => data.mapM convert) = _ ∨
    ∃ e, ((endpoint request).read request decode >>= fun data => data.mapM convert) = _
  cases hreply : endpoint request with
  | failed | timedOut => exact .inr ⟨_, rfl⟩
  | result v =>
    rw [hreply] at h
    rw [NodeReply.read]
    cases h with
    | malformed hv =>
      rw [hv]
      exact .inr ⟨_, rfl⟩
    | null hv =>
      rw [hv]
      exact .inl rfl
    | @unconverted _ a e hv ha =>
      rw [hv]
      refine .inr ⟨e, ?_⟩
      show (convert a >>= fun b => pure (some b)) = _
      rw [ha]
      rfl

/-- The requests for the pending block and for its receipts come to nothing. -/
inductive Unpended (endpoint : Endpoint) : Prop
  | block : (endpoint (.block .pending true)).Lacks (NodeBlock.decode NodeTransaction.decode)
      NodeBlock.toBlock → Unpended endpoint
  | receipts {b} : (endpoint (.block .pending true)).Gives
      (NodeBlock.decode NodeTransaction.decode) NodeBlock.toBlock b →
      b.transactions.isEmpty = false →
      (endpoint .pendingReceipts).Lacks (Decode.list NodeReceipt.decode) NodeReceipt.toReceipts →
      Unpended endpoint

/-- What the chain has of a pending block, by what the two requests come to. -/
theorem view_pending (endpoint : Endpoint) :
    view endpoint .pending =
      match Id.run (block (fun r => pure (endpoint r)) .pending) with
      | .error _ => none
      | .ok none => none
      | .ok (some b) =>
        if b.transactions.isEmpty then some ⟨b, []⟩
        else
          match Id.run (receipts (fun r => pure (endpoint r)) .pendingReceipts) with
          | .error _ => none
          | .ok none => none
          | .ok (some rs) => some ⟨b, rs⟩ := by
  simp only [view, reply, pending, Id.run_bind]
  cases Id.run (block (fun r => pure (endpoint r)) .pending) with
  | error e => rfl
  | ok b? =>
    cases b? with
    | none => rfl
    | some b =>
      by_cases hempty : b.transactions.isEmpty = true
      · simp only [hempty, if_true]
        rfl
      · simp only [hempty, Bool.false_eq_true, if_false, Id.run_bind]
        cases Id.run (receipts (fun r => pure (endpoint r)) .pendingReceipts) with
        | error e => rfl
        | ok rs? => cases rs? <;> rfl

/-- **No pending block.** Just if the node is unpended. -/
theorem view_pending_eq_none_iff : view endpoint .pending = none ↔ Unpended endpoint := by
  rw [view_pending]
  rcases gives_or_lacks (NodeBlock.decode NodeTransaction.decode) NodeBlock.toBlock
    (endpoint (.block .pending true)) with ⟨b, hblock⟩ | hblock
  · -- Then it is the receipts that decide, if there is a transaction that needs one.
    have needed (h : Unpended endpoint) : b.transactions.isEmpty = false ∧
        (endpoint .pendingReceipts).Lacks (Decode.list NodeReceipt.decode)
          NodeReceipt.toReceipts := by
      cases h with
      | block hlacks => exact absurd hlacks hblock.not_lacks
      | receipts hblock' hempty hlacks =>
        rw [hblock.unique hblock']
        exact ⟨hempty, hlacks⟩
    rw [block, fetch_of_gives hblock]
    cases hempty : b.transactions.isEmpty with
    | true =>
      refine iff_of_false (by simp [hempty]) fun h => ?_
      cases hempty.symm.trans (needed h).1
    | false =>
      simp only [hempty, Bool.false_eq_true, if_false]
      rcases gives_or_lacks (Decode.list NodeReceipt.decode) NodeReceipt.toReceipts
        (endpoint .pendingReceipts) with ⟨rs, hreceipts⟩ | hreceipts
      · rw [receipts, fetch_of_gives hreceipts]
        exact iff_of_false (by simp) fun h => hreceipts.not_lacks (needed h).2
      · refine iff_of_true ?_ (.receipts hblock hempty hreceipts)
        rw [receipts]
        rcases fetch_of_lacks hreceipts with hnone | ⟨e, herror⟩
        · rw [hnone]
        · rw [herror]
  · refine iff_of_true ?_ (.block hblock)
    rw [block]
    rcases fetch_of_lacks hblock with hnone | ⟨e, herror⟩
    · rw [hnone]
    · rw [herror]

end Node

end FeeMarket
