import Mathlib.Data.List.Induction
import FeeMarket.Chain.Change
import FeeMarket.Proofs.Chain.Reachable

/-!
# What changes keep

**Kept** (`Journal.Kept`). What holds of a chain after any changes, refused ones among them: its
blocks are numbered by their places and have their receipts, the finalized number is that of a stored
block and is never taken back, a pending block is not above the next number, lookups by number, of
the head and of the finalized block find what they should, and a change that is refused writes
nothing.

That a chain is consistent goes through every change (`Change.keeps`), and how a change bears on the
finalized number and on the chain being empty is read off the change alone (`isSome_finalized`,
`size_pos_of_rewind`). The rest is about consistent chains (`headNumber`, `header`, `latest`).
-/

namespace FeeMarket

open MemoryChain

variable {c c' : MemoryChain} {change : Change}

namespace Change

theorem keeps (hc : c.Consistent) (h : change.apply c = .ok c') : c'.Consistent := by
  cases change with
  | push b => exact hc.push h
  | setPending b? => exact hc.setPending h
  | setFinalized number => exact hc.setFinalized h
  | rewind head =>
    cases h
    exact hc.rewind head

theorem isSome_finalized (h : change.apply c = .ok c') :
    c'.finalized.isSome ↔ c.finalized.isSome ∨ ∃ number, change = .setFinalized number := by
  cases change with
  | push b =>
    obtain ⟨-, -, rfl⟩ := push_eq_ok.1 h
    simp
  | setPending b? =>
    obtain ⟨-, rfl⟩ := setPending_eq_ok.1 h
    simp
  | setFinalized number =>
    obtain ⟨-, rfl⟩ := setFinalized_eq_ok.1 h
    simp
  | rewind head =>
    cases h
    simp [MemoryChain.rewind]

theorem size_pos_of_rewind {head : UInt64} (h : (rewind head).apply c = .ok c')
    (nonempty : 0 < c.blocks.size) : 0 < c'.blocks.size := by
  cases h
  rw [size_rewind]
  omega

end Change

/-! ## The blocks that a consistent chain finds -/

namespace MemoryChain

theorem headNumber?_eq_none : c.headNumber? = none ↔ c.blocks.size = 0 := by
  simp [headNumber?, head?]

namespace Consistent

/-- The head has the last number. -/
theorem headNumber (hc : c.Consistent) {n : UInt64} (h : c.headNumber? = some n) :
    n.toNat + 1 = c.blocks.size := by
  obtain ⟨b, hb, rfl⟩ := Option.map_eq_some_iff.1 h
  exact hc.size_of_head hb

/-- The header with a number is found just if the number is below the length. -/
theorem header (hc : c.Consistent) (n : UInt64) :
    if n.toNat < c.blocks.size then
      ∃ h, c.view (.header (.number n)) = .found h ∧ h.number = n
    else c.view (.header (.number n)) = .absent := by
  split
  · rename_i hn
    obtain ⟨b, hb, hnumber⟩ := hc.exists_block hn
    refine ⟨b.block.header, ?_, hnumber⟩
    simp [view, find?, hb, Lookup.ofOption]
  · rename_i hn
    have hnone : c.get? n = none := Array.getElem?_eq_none (Nat.le_of_not_lt hn)
    simp [view, find?, hnone, Lookup.ofOption]

theorem find?_latest (hc : c.Consistent) {n : UInt64} (h : c.headNumber? = some n) :
    c.find? .latest = c.find? (.number n) := by
  have hsize := hc.headNumber h
  rw [find?, find?, head?, get?, Array.back?_eq_getElem?, ← hsize, Nat.add_sub_cancel]

theorem finalized_found (hc : c.Consistent) :
    (∃ b, c.view .finalized = .found b) ↔ c.finalized.isSome := by
  cases hn : c.finalized with
  | none => simp [view, find?, hn, Lookup.ofOption]
  | some n =>
    obtain ⟨b, hb, -⟩ := hc.exists_block (hc.finalized n hn)
    simp [view, find?, hn, hb, Lookup.ofOption]

end Consistent

end MemoryChain

/-! ## Journals -/

namespace Journal

/-- What holds of the chain of a journal. -/
structure Kept (j : Journal) : Prop where
  numbered : ∀ {i : Nat} {b : FullBlock}, j.chain.blocks[i]? = some b → b.number.toNat = i
  receipted : ∀ b ∈ j.chain.blocks, b.receipts.length = b.block.transactions.length
  finalized_stored : ∀ n, j.chain.finalized = some n → ∃ b ∈ j.chain.blocks, b.number = n
  finalized_stays : j.chain.finalized.isSome →
    ∀ changes, (j.extend changes).chain.finalized.isSome
  pending_le : ∀ b, j.chain.pending = some b → b.number.toNat ≤ j.chain.blocks.size
  head_none : j.chain.headNumber? = none ↔ j.chain.blocks.size = 0
  head_last : ∀ n, j.chain.headNumber? = some n → n.toNat = j.chain.blocks.size - 1
  header : ∀ n : UInt64,
    if n.toNat < j.chain.blocks.size then
      ∃ h, j.chain.view (.header (.number n)) = .found h ∧ h.number = n
    else j.chain.view (.header (.number n)) = .absent
  latest : ∀ n, j.chain.headNumber? = some n →
    j.chain.view (.header .latest) = j.chain.view (.header (.number n)) ∧
      j.chain.view (.block .latest) = j.chain.view (.block (.number n))
  finalized_found : (∃ b, j.chain.view .finalized = .found b) ↔
    ∃ number, ⟨.setFinalized number, none⟩ ∈ j.attempts
  rewind_nonempty : 0 < j.chain.blocks.size →
    ∀ head, 0 < (j.attempt (.rewind head)).chain.blocks.size
  refused : ∀ (change : Change) (e : ChainError) (c : MemoryChain),
    change.perform.run j.chain = .error e c → c = j.chain

theorem consistent_attempt {j : Journal} (hc : j.chain.Consistent) (change : Change) :
    (j.attempt change).chain.Consistent := by
  rcases j.attempt_cases change with ⟨c, happly, hj⟩ | ⟨e, -, hj⟩
  · rw [hj]
    exact Change.keeps hc happly
  · rw [hj]
    exact hc

theorem isSome_finalized_attempt {j : Journal} (h : j.chain.finalized.isSome) (change : Change) :
    (j.attempt change).chain.finalized.isSome := by
  rcases j.attempt_cases change with ⟨c, happly, hj⟩ | ⟨e, -, hj⟩
  · rw [hj]
    exact (Change.isSome_finalized happly).2 (.inl h)
  · rw [hj]
    exact h

theorem isSome_finalized_extend {j : Journal} (h : j.chain.finalized.isSome)
    (changes : List Change) : (j.extend changes).chain.finalized.isSome := by
  induction changes generalizing j with
  | nil => exact h
  | cons change rest ih => exact ih (isSome_finalized_attempt h change)

theorem consistent (changes : List Change) : (of changes).chain.Consistent := by
  -- A journal grows at its end, so the induction takes off the last change.
  induction changes using List.reverseRecOn with
  | nil => exact .empty
  | append_singleton changes change ih =>
    rw [of_concat]
    exact consistent_attempt ih change

/-- A block is finalized just if one was finalized on the way. -/
theorem isSome_finalized_iff (changes : List Change) :
    (of changes).chain.finalized.isSome ↔
      ∃ number, ⟨.setFinalized number, none⟩ ∈ (of changes).attempts := by
  induction changes using List.reverseRecOn with
  | nil => simp [MemoryChain.empty]
  | append_singleton changes change ih =>
    rw [of_concat]
    rcases (of changes).attempt_cases change with ⟨c, happly, hj⟩ | ⟨e, -, hj⟩
    · rw [hj, Change.isSome_finalized happly, ih]
      simp [exists_or, eq_comm]
    · rw [hj, ih]
      simp

/-- **Whatever changes are attempted, in whatever order, the chain keeps its invariant.** -/
theorem kept_of_changes (changes : List Change) : (of changes).Kept := by
  have hc := consistent changes
  refine
    { numbered := hc.numbered
      receipted := fun b hb => (hc.receipted b hb).symm
      finalized_stored := ?_
      finalized_stays := isSome_finalized_extend
      pending_le := hc.pending
      head_none := headNumber?_eq_none
      head_last := ?_
      header := hc.header
      latest := ?_
      finalized_found := hc.finalized_found.trans (isSome_finalized_iff changes)
      rewind_nonempty := ?_
      refused := ?_ }
  · intro n hn
    obtain ⟨b, hb, hnumber⟩ := hc.exists_block (hc.finalized n hn)
    exact ⟨b, Array.mem_of_getElem? hb, hnumber⟩
  · intro n hn
    have := hc.headNumber hn
    omega
  · intro n hn
    have hfind := hc.find?_latest hn
    constructor
    · simp only [view, hfind]
    · simp only [view, hfind]
  · intro nonempty head
    rcases (of changes).attempt_cases (.rewind head) with ⟨c, happly, hj⟩ | ⟨e, happly, -⟩
    · rw [hj]
      exact Change.size_pos_of_rewind happly nonempty
    · cases happly
  · intro change e c hrun
    rw [Change.run_perform] at hrun
    split at hrun
    · cases hrun
    · cases hrun
      rfl

end Journal

/-- Every reachable chain is the chain of a journal. -/
theorem MemoryChain.Reachable.exists_changes (h : c.Reachable) :
    ∃ changes, (Journal.of changes).chain = c := by
  have extended {c c' : MemoryChain} (change : Change) (h : change.apply c = .ok c')
      (hc : ∃ changes, (Journal.of changes).chain = c) :
      ∃ changes, (Journal.of changes).chain = c' := by
    obtain ⟨changes, rfl⟩ := hc
    refine ⟨changes ++ [change], ?_⟩
    rw [Journal.of_concat]
    rcases (Journal.of changes).attempt_cases change with ⟨c, happly, hj⟩ | ⟨e, happly, -⟩
    · rw [hj]
      cases h.symm.trans happly
      rfl
    · cases h.symm.trans happly
  induction h with
  | empty => exact ⟨[], rfl⟩
  | @push c c' b _ _ hp ih => exact extended (.push b) hp ih
  | @setPending c c' b? _ hp ih => exact extended (.setPending b?) hp ih
  | @setFinalized c c' number _ hf ih => exact extended (.setFinalized number) hf ih
  | rewind head _ ih => exact extended (.rewind head) rfl ih

end FeeMarket
