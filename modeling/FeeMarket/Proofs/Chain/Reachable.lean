import FeeMarket.Chain.Memory
import FeeMarket.Proofs.FetchPool.Answers

/-!
# Chains in memory that can be reached

**Reachable** (`MemoryChain.Reachable`). What changes make of the chain without blocks. The blocks
lie in one list, and memory holds no list of more than `capacity` blocks.

**Consistent** (`MemoryChain.Consistent`). The block at a place has the number of the place, and one
receipt for each transaction; the finalized number is that of a block; and a pending block has at
most the number that comes next. Every change keeps a chain consistent, and a chain that memory
holds **coherent** (`MemoryChain.Coherent`).

Over a consistent chain lookups by number find just the blocks below its length, and no lookup
fails.
-/

namespace FeeMarket

namespace MemoryChain

/-- The longest chain: a list takes less than `2 ^ 63` bytes, and a block more than eight. -/
def capacity : Nat := 0xFFFFFFFFFFFFFFF

/-- The chains that changes lead to. -/
inductive Reachable : MemoryChain → Prop
  | empty : Reachable .empty
  | push {c c' b} : Reachable c → c.blocks.size < capacity → c.push b = .ok c' → Reachable c'
  | setPending {c c' b?} : Reachable c → c.setPending b? = .ok c' → Reachable c'
  | setFinalized {c c' number} : Reachable c → c.setFinalized number = .ok c' → Reachable c'
  | rewind {c} (head) : Reachable c → Reachable (c.rewind head)

/-- What every change keeps, however long the chain. -/
structure Consistent (c : MemoryChain) : Prop where
  numbered : ∀ {i : Nat} {b}, c.blocks[i]? = some b → b.number.toNat = i
  receipted : ∀ b ∈ c.blocks, b.block.transactions.length = b.receipts.length
  finalized : ∀ n, c.finalized = some n → n.toNat < c.blocks.size
  pending : ∀ b, c.pending = some b → b.number.toNat ≤ c.blocks.size

/-- What holds of every reachable chain. -/
structure Coherent (c : MemoryChain) : Prop extends Consistent c where
  fits : c.blocks.size ≤ capacity

variable {c c' : MemoryChain}

namespace Consistent

theorem empty : Consistent .empty where
  numbered := by simp [MemoryChain.empty]
  receipted := by simp [MemoryChain.empty]
  finalized := by simp [MemoryChain.empty]
  pending := by simp [MemoryChain.empty]

theorem push {b : FullBlock} (hc : c.Consistent) (h : c.push b = .ok c') : c'.Consistent := by
  obtain ⟨hnumber, hreceipts, rfl⟩ := push_eq_ok.1 h
  refine ⟨?_, ?_, ?_, ?_⟩
  · intro i x hx
    rw [Array.getElem?_push] at hx
    split at hx
    · rename_i hi
      cases hx
      rw [hi, hnumber]
    · exact hc.numbered hx
  · intro x hx
    rcases Array.mem_push.1 hx with hx | rfl
    · exact hc.receipted x hx
    · exact hreceipts
  · intro n hn
    have := hc.finalized n hn
    rw [Array.size_push]
    omega
  · intro x hx
    have := hc.pending x hx
    rw [Array.size_push]
    omega

theorem setPending {b? : Option FullBlock} (hc : c.Consistent)
    (h : c.setPending b? = .ok c') : c'.Consistent := by
  obtain ⟨hnumber, rfl⟩ := setPending_eq_ok.1 h
  exact ⟨hc.numbered, hc.receipted, hc.finalized, fun b hb => Nat.le_of_eq (hnumber b hb)⟩

theorem setFinalized {number : UInt64} (hc : c.Consistent)
    (h : c.setFinalized number = .ok c') : c'.Consistent := by
  obtain ⟨hnumber, rfl⟩ := setFinalized_eq_ok.1 h
  refine ⟨hc.numbered, hc.receipted, ?_, hc.pending⟩
  intro n hn
  cases hn
  exact hnumber

theorem rewind (hc : c.Consistent) (head : UInt64) : (c.rewind head).Consistent := by
  refine ⟨fun hb => hc.numbered (getElem?_of_rewind hb), ?_, ?_, by simp [MemoryChain.rewind]⟩
  · intro b hb
    obtain ⟨i, hi⟩ := Array.mem_iff_getElem?.1 hb
    exact hc.receipted b (Array.mem_of_getElem? (getElem?_of_rewind hi))
  · intro n hn
    obtain ⟨m, hm, rfl⟩ := Option.map_eq_some_iff.1 hn
    have := hc.finalized m hm
    rw [size_rewind, toNat_min]
    omega

end Consistent

theorem Reachable.coherent (h : c.Reachable) : c.Coherent := by
  induction h with
  | empty => exact ⟨.empty, Nat.zero_le _⟩
  | push _ room hp ih =>
    refine ⟨ih.toConsistent.push hp, ?_⟩
    obtain ⟨-, -, rfl⟩ := push_eq_ok.1 hp
    rw [Array.size_push]
    exact room
  | setPending _ hp ih =>
    refine ⟨ih.toConsistent.setPending hp, ?_⟩
    obtain ⟨-, rfl⟩ := setPending_eq_ok.1 hp
    exact ih.fits
  | setFinalized _ hf ih =>
    refine ⟨ih.toConsistent.setFinalized hf, ?_⟩
    obtain ⟨-, rfl⟩ := setFinalized_eq_ok.1 hf
    exact ih.fits
  | rewind head _ ih =>
    refine ⟨ih.toConsistent.rewind head, ?_⟩
    rw [size_rewind]
    exact Nat.le_trans (Nat.min_le_right _ _) ih.fits

/-! ## What the chain replies -/

theorem ofOption_sound {α : Type} (a : Option α) : ¬ (Lookup.ofOption a).Fails := by
  cases a <;> exact id

theorem view_sound (c : MemoryChain) (call : Call) :
    ¬ (Reply.status call (c.view call)).Fails := by
  cases call with
  | pending => exact id
  | header selector => exact fun h => ofOption_sound _ (Lookup.fails_status.1 h)
  | block selector => exact fun h => ofOption_sound _ (Lookup.fails_status.1 h)
  | receipts hash => exact fun h => ofOption_sound _ (Lookup.fails_status.1 h)
  | finalized => exact fun h => ofOption_sound _ (Lookup.fails_status.1 h)

theorem exists_of_receipts {hash : Hash} {receipts : List Receipt}
    (h : c.view (.receipts hash) = .found receipts) :
    ∃ b, (b ∈ c.blocks ∨ c.pending = some b) ∧ b.receipts = receipts := by
  have hfound : c.receipts? hash = some receipts := by
    cases hr : c.receipts? hash with
    | none => simp [view, hr, Lookup.ofOption] at h
    | some rs => simpa [view, hr, Lookup.ofOption] using h
  obtain ⟨b, hb, rfl⟩ := Option.map_eq_some_iff.1 hfound
  refine ⟨b, ?_, rfl⟩
  simpa [eq_comm] using List.mem_of_find?_eq_some hb

/-- The block that stands at a number while a block is pending: the pending block at its own number,
and the block of the chain elsewhere. -/
def standing (c : MemoryChain) (pending : Option FullBlock) (n : UInt64) : Option FullBlock :=
  (pending.filter fun b => b.number = n).or (c.get? n)

@[simp] theorem standing_none (c : MemoryChain) (n : UInt64) : c.standing none n = c.get? n := rfl

theorem standing_cases {pending : Option FullBlock} {n : UInt64} {b : FullBlock}
    (hb : c.standing pending n = some b) :
    (pending = some b ∧ b.number = n) ∨ c.get? n = some b := by
  rcases Option.or_eq_some_iff.1 hb with hb | ⟨-, hb⟩
  · obtain ⟨hpending, hnumber⟩ := Option.filter_eq_some_iff.1 hb
    exact .inl ⟨hpending, by simpa using hnumber⟩
  · exact .inr hb

/-- Looking up a number finds the header of the block that stands there. -/
theorem lookUp_eq (job : FetchJob) {n : UInt64} {b : FullBlock}
    (hb : c.standing job.pending n = some b) :
    ∃ f, job.lookUp c.view n = .found f ∧ f.header = b.block.header := by
  have hstanding : (job.substitute? n).or (c.get? n) = some b := hb
  unfold FetchJob.lookUp
  cases hsub : job.substitute? n with
  | some pending =>
    obtain rfl : pending = b := by simpa [hsub] using hstanding
    exact ⟨_, rfl, rfl⟩
  | none =>
    have hget : c.get? n = some b := by simpa [hsub] using hstanding
    have hheader : c.view (.header (.number n)) = .found b.block.header := by
      simp [view, find?, hget, Lookup.ofOption]
    have hblock : c.view (.block (.number n)) = .found b.block := by
      simp [view, find?, hget, Lookup.ofOption]
    simp only [hheader, hblock]
    split
    · exact ⟨_, rfl, rfl⟩
    · cases hr : c.receipts? b.block.hash with
      | none => exact ⟨_, by rw [view, hr]; rfl, rfl⟩
      | some rs => exact ⟨_, by rw [view, hr]; rfl, rfl⟩

namespace Consistent

theorem exists_block (hc : c.Consistent) {n : UInt64} (hn : n.toNat < c.blocks.size) :
    ∃ b, c.get? n = some b ∧ b.number = n := by
  refine ⟨c.blocks[n.toNat], Array.getElem?_eq_getElem hn, ?_⟩
  exact UInt64.toNat_inj.1 (hc.numbered (Array.getElem?_eq_getElem hn))

theorem size_of_head (hc : c.Consistent) {b : FullBlock} (hb : c.head? = some b) :
    b.number.toNat + 1 = c.blocks.size := by
  rw [head?, Array.back?_eq_getElem?] at hb
  have hnumber := hc.numbered hb
  obtain ⟨hlt, -⟩ := Array.getElem?_eq_some_iff.1 hb
  omega

/-- A chain with a block has a head, above which it has no block. -/
theorem exists_head (hc : c.Consistent) {n : UInt64} (hn : n.toNat < c.blocks.size) :
    ∃ head, c.view (.header .latest) = .found head ∧ n ≤ head.number := by
  cases hb : c.head? with
  | none =>
    rw [head?, Array.back?_eq_none_iff] at hb
    rw [hb] at hn
    cases hn
  | some b =>
    have hsize := hc.size_of_head hb
    have hnumber : b.block.header.number = b.number := rfl
    refine ⟨b.block.header, by simp [view, find?, hb, Lookup.ofOption], ?_⟩
    rw [hnumber, UInt64.le_iff_toNat_le]
    omega

end Consistent

end MemoryChain

end FeeMarket
