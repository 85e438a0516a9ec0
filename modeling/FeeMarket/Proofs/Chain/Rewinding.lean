import FeeMarket.Proofs.Chain.Changes

/-!
# Rewinding

**Two rewindings** are one, to the lower of the two heads, and drop as many blocks between them
(`Changing.rewind_bind_rewind`). They need no invariant: what is dropped from the blocks and from the
finalized number depends on the lower head alone. The head may be the largest number
(`MemoryChain.Coherent.take_clamped`).

**At or past the head** a rewinding takes the pending block away and leaves all else
(`MemoryChain.Consistent.rewind_eq_iff`).

**Undoing.** A chain that grew from a head and is rewound to it is as it was, but for the pending
block (`MemoryChain.Consistent.rewind_of_grown`). Every lookup is then restored
(`MemoryChain.Restores`), save that the receipts of the pending block are found no more, unless a
stored block has its hash.
-/

namespace FeeMarket

namespace MemoryChain

variable {c c' : MemoryChain} {a b head : UInt64}

/-! ## Two rewindings -/

theorem rewind_rewind (c : MemoryChain) (a b : UInt64) :
    (c.rewind a).rewind b = c.rewind (min a b) := by
  have hblocks : (c.blocks.take (a.toNat + 1)).take (b.toNat + 1) =
      c.blocks.take ((min a b).toNat + 1) := by
    simp only [Array.take, Array.extract_extract, toNat_min, Nat.zero_add]
    congr 1
    omega
  have hfinalized : (c.finalized.map fun n => min n a).map (fun n => min n b) =
      c.finalized.map fun n => min n (min a b) := by
    rw [Option.map_map]
    congr 1
    funext n
    apply UInt64.toNat_inj.1
    simp only [Function.comp_apply, toNat_min, Nat.min_assoc]
  rw [rewind, rewind, rewind, hblocks, hfinalized]

/-- What the second rewinding drops is what the first has left above the lower head. -/
theorem above_add_above (c : MemoryChain) (a b : UInt64) :
    c.above a + (c.rewind a).above b = c.above (min a b) := by
  rw [above, above, above, size_rewind, toNat_min]
  omega

theorem rewind_self (c : MemoryChain) (a : UInt64) : (c.rewind a).rewind a = c.rewind a := by
  have hmin : min a a = a := by
    apply UInt64.toNat_inj.1
    rw [toNat_min, Nat.min_self]
  rw [rewind_rewind, hmin]

theorem above_rewind_self (c : MemoryChain) (a : UInt64) : (c.rewind a).above a = 0 := by
  rw [above, size_rewind]
  omega

/-- How many blocks a rewinding keeps may be counted in words. The count then stops at the largest
word, or else at the length, which is the lower of the two. -/
theorem Coherent.take_clamped (hc : c.Coherent) (head : UInt64) :
    c.blocks.take (min (Word.addUpTo head 1).toNat c.blocks.size) = (c.rewind head).blocks := by
  have hfits := hc.fits
  have hhead := head.toNat_lt
  have hkept : min (Word.addUpTo head 1).toNat c.blocks.size =
      min (head.toNat + 1) c.blocks.size := by
    rw [Word.addUpTo, Word.toNat_saturate, UInt64.toNat_one]
    simp only [capacity, UInt64.size] at hfits ⊢
    omega
  rw [hkept, rewind, ← Array.toList_inj]
  simp [Array.take]

end MemoryChain

namespace Changing

@[simp] theorem run_rewind (head : UInt64) (c : MemoryChain) :
    (rewind head).run c = .ok (c.above head) (c.rewind head) := rfl

theorem rewind_bind_rewind (a b : UInt64) :
    (do
      let m ← rewind a
      let n ← rewind b
      return m + n) = rewind (min a b) := by
  funext c
  show EStateM.Result.ok (c.above a + (c.rewind a).above b) ((c.rewind a).rewind b) =
    .ok (c.above (min a b)) (c.rewind (min a b))
  rw [c.above_add_above, c.rewind_rewind]

end Changing

namespace MemoryChain

variable {c c' : MemoryChain} {head : UInt64}

/-- The chain without its pending block. -/
def unpended (c : MemoryChain) : MemoryChain := { c with pending := none }

namespace Consistent

theorem finalized_rewind (hc : c.Consistent) (hhead : c.blocks.size ≤ head.toNat + 1) :
    (c.finalized.map fun n => min n head) = c.finalized := by
  cases hn : c.finalized with
  | none => rfl
  | some n =>
    have hlt := hc.finalized n hn
    have hmin : min n head = n := by
      apply UInt64.toNat_inj.1
      rw [toNat_min, Nat.min_eq_left (by omega)]
    rw [Option.map_some, hmin]

/-! ## At or past the head -/

/-- The head is not above a number just if no block is. -/
theorem size_le_iff (hc : c.Consistent) (a : UInt64) :
    c.blocks.size ≤ a.toNat + 1 ↔ ∀ n, c.headNumber? = some n → n ≤ a := by
  cases hn : c.headNumber? with
  | none => simp [headNumber?_eq_none.1 hn]
  | some n =>
    have hlast := hc.headNumber hn
    simp only [Option.some.injEq, forall_eq', UInt64.le_iff_toNat_le]
    omega

/-- There and only there the pending block alone is taken away. -/
theorem rewind_eq_iff (hc : c.Consistent) (a : UInt64) :
    c.rewind a = c.unpended ↔ c.blocks.size ≤ a.toNat + 1 := by
  constructor
  · intro h
    have hsize := congrArg (fun c => c.blocks.size) h
    simp only [size_rewind, unpended] at hsize
    omega
  · intro hsize
    rw [MemoryChain.rewind, hc.finalized_rewind hsize, Array.take,
      Array.extract_eq_self_of_le hsize]
    rfl

/-! ## Growing and rewinding -/

theorem rewind_of_grown (hc : c.Consistent) (hhead : c.headNumber? = some head)
    (bs : Array FullBlock) :
    ({ c with blocks := c.blocks ++ bs } : MemoryChain).rewind head = c.unpended := by
  have hsize := hc.headNumber hhead
  rw [MemoryChain.rewind, hc.finalized_rewind (Nat.le_of_eq hsize.symm), Array.take, hsize,
    unpended]
  congr 1
  simp

theorem above_of_grown (hc : c.Consistent) (hhead : c.headNumber? = some head)
    (bs : Array FullBlock) :
    ({ c with blocks := c.blocks ++ bs } : MemoryChain).above head = bs.size := by
  have hsize := hc.headNumber hhead
  rw [above, Array.size_append]
  omega

end Consistent

/-- What blocks that are pushed one after the other make of a chain. -/
theorem grown_of_pushes {bs : List FullBlock}
    (h : (bs.forM Changing.push).run c = .ok () c') :
    c' = { c with blocks := c.blocks ++ bs.toArray } := by
  induction bs generalizing c with
  | nil =>
    cases h
    simp
  | cons b bs ih =>
    rw [List.forM_eq_forM, List.forM_cons, EStateM.run_bind] at h
    have hpush : (Changing.push b).run c = _ := Change.run_perform (.push b) c
    rw [hpush] at h
    cases happly : (Change.push b).apply c with
    | error e =>
      rw [happly] at h
      cases h
    | ok c₁ =>
      rw [happly] at h
      obtain ⟨-, -, rfl⟩ := push_eq_ok.1 happly
      rw [ih h]
      simp

/-! ## What is restored -/

/-- A pending block has this hash, and no stored block has. -/
def OnlyPending (c : MemoryChain) (hash : Hash) : Prop :=
  (∃ b, c.pending = some b ∧ b.block.hash = hash) ∧ ∀ b ∈ c.blocks, b.block.hash ≠ hash

/-- A chain replies as another one does, but has no pending block. -/
structure Restores (c before : MemoryChain) : Prop where
  header : ∀ s, s ≠ .pending → c.view (.header s) = before.view (.header s)
  block : ∀ s, s ≠ .pending → c.view (.block s) = before.view (.block s)
  finalized : c.view .finalized = before.view .finalized
  receipts : ∀ hash, ¬ before.OnlyPending hash →
    c.view (.receipts hash) = before.view (.receipts hash)
  discarded : ∀ hash, before.OnlyPending hash → c.view (.receipts hash) = .absent
  pending : c.view .pending = none

theorem find?_unpended (c : MemoryChain) {s : Selector} (hs : s ≠ .pending) :
    c.unpended.find? s = c.find? s := by
  cases s with
  | number n | latest | finalized => rfl
  | pending => exact absurd rfl hs

/-- The pending block comes last among those that are searched for a hash. -/
theorem receipts?_unpended {hash : Hash} (h : ¬ c.OnlyPending hash) :
    c.unpended.receipts? hash = c.receipts? hash := by
  rw [receipts?, receipts?, List.find?_append, List.find?_append]
  cases hfind : c.blocks.toList.find? fun b => b.block.hash = hash with
  | some b =>
    rw [unpended, hfind]
    rfl
  | none =>
    have hstored : ∀ b ∈ c.blocks, b.block.hash ≠ hash := by
      intro b hb
      simpa using List.find?_eq_none.1 hfind b (Array.mem_toList_iff.2 hb)
    have hpending : c.pending.toList.find? (fun b => b.block.hash = hash) = none := by
      rw [List.find?_eq_none]
      intro b hb hhash
      exact h ⟨⟨b, by simpa using hb, by simpa using hhash⟩, hstored⟩
    rw [hpending, unpended, hfind]
    rfl

theorem receipts?_of_onlyPending {hash : Hash} (h : c.OnlyPending hash) :
    c.unpended.receipts? hash = none := by
  have hfind : c.blocks.toList.find? (fun b => b.block.hash = hash) = none := by
    rw [List.find?_eq_none]
    intro b hb
    simpa using h.2 b (Array.mem_toList_iff.1 hb)
  rw [receipts?, List.find?_append, unpended, hfind]
  rfl

/-- Taking the pending block away restores all lookups but those of the pending block. -/
theorem restores_unpended (c : MemoryChain) : c.unpended.Restores c where
  header s hs := by rw [view, view, c.find?_unpended hs]
  block s hs := by rw [view, view, c.find?_unpended hs]
  finalized := rfl
  receipts hash h := by rw [view, view, receipts?_unpended h]
  discarded hash h := by rw [view, receipts?_of_onlyPending h]; rfl
  pending := rfl

end MemoryChain

open Journal MemoryChain

/-- **The laws of rewinding.** Whatever changes led to a chain: rewinding twice is rewinding to the
lower head; a second rewinding to one head does nothing; at or past the head, and only there, just the
pending block is taken away; and blocks that are pushed are undone by rewinding to the head before
them. -/
theorem rewinding_laws (changes : List Change) :
    (∀ a b, (do
        let m ← Changing.rewind a
        let n ← Changing.rewind b
        return m + n) = Changing.rewind (min a b)) ∧
      (∀ a c removed, (Changing.rewind a).run (of changes).chain = .ok removed c →
        (Changing.rewind a).run c = .ok 0 c) ∧
      (∀ a, (Changing.rewind a).run (of changes).chain = .ok 0 (of changes).chain.unpended ↔
        ∀ n, (of changes).chain.headNumber? = some n → n ≤ a) ∧
      ∀ head (bs : List FullBlock) c, (of changes).chain.headNumber? = some head →
        (bs.forM Changing.push).run (of changes).chain = .ok () c →
        ∃ c', (Changing.rewind head).run c = .ok bs.length c' ∧ c'.Restores (of changes).chain := by
  have hc := consistent changes
  refine ⟨Changing.rewind_bind_rewind, ?_, ?_, ?_⟩
  · intro a c removed hrun
    rw [Changing.run_rewind] at hrun
    cases hrun
    rw [Changing.run_rewind, rewind_self, above_rewind_self]
  · intro a
    rw [Changing.run_rewind, EStateM.Result.ok.injEq, hc.rewind_eq_iff, ← hc.size_le_iff, above]
    omega
  · intro head bs c hhead hpushes
    obtain rfl := grown_of_pushes hpushes
    refine ⟨_, ?_, restores_unpended _⟩
    rw [Changing.run_rewind, hc.rewind_of_grown hhead, hc.above_of_grown hhead, List.size_toArray]

/-- A block without transactions, whose hash is one more than its number. -/
def numbered (number : UInt64) : FullBlock :=
  ⟨⟨⟨number, .ofNat (number.toNat + 1), 30000000, 0, some initialBaseFee⟩, []⟩, []⟩

/-- Two blocks, the second of them finalized, and a pending one. -/
def twoAndPending : List Change :=
  [.push (numbered 0), .push (numbered 1), .setFinalized 1, .setPending (some (numbered 2))]

/-- The pending block and another one are pushed and taken back. By its hash the pending block is then
no longer found. -/
theorem rewinding_laws_over_two :
    ∃ c c', ([numbered 2, numbered 3].forM Changing.push).run (of twoAndPending).chain = .ok () c ∧
      (Changing.rewind 1).run c = .ok 2 c' ∧ c'.Restores (of twoAndPending).chain ∧
      c.view (.receipts (.ofNat 3)) = .found [] ∧ c'.view (.receipts (.ofNat 3)) = .absent := by
  have pushed : ∃ c, ([numbered 2, numbered 3].forM Changing.push).run (of twoAndPending).chain =
      .ok () c := ⟨_, rfl⟩
  obtain ⟨c, hc⟩ := pushed
  obtain ⟨c', hrewind, restores⟩ := (rewinding_laws twoAndPending).2.2.2 1 _ c rfl hc
  refine ⟨c, c', hc, hrewind, restores, ?_, restores.discarded _ ⟨⟨numbered 2, rfl, rfl⟩, ?_⟩⟩
  · cases hc
    decide
  · decide

end FeeMarket
