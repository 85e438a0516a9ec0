import FeeMarket.Proofs.Chain.History
import FeeMarket.Proofs.Reward
import Mathlib.Data.List.Nodup

/-!
# Histories over a chain in memory are complete

A block stands at each number of a window, so no entry is missing.

**Complete** (`MemoryChain.Complete`). The history of a window: as many entries as the window has
blocks, of consecutive numbers up to the last one, each with the base fee that its block declares.

**Rewarded** (`MemoryChain.Rewarded`). Each entry has the rewards of its block, computed from the
gas used, the transactions and the receipts of that same block.

Receipts are found by the hash of a block. If no two blocks have the same hash, those that are found
are the block's own (`lookUp_eq_findings`), and a chain holds one receipt for each transaction. The
pending block brings its receipts along, but how many of them there are is not checked.

Every window has a complete history, whatever the changes that led to the chain
(`queries_complete`). A pending block may be behind the head by then; it takes the place of the
block that was pushed with its number if the window ends with it.
-/

namespace FeeMarket

namespace MemoryChain

variable {c : MemoryChain} {o : Oracle} {count : UInt64} {last : Selector}
  {percentiles : List Float} {window : Window}

/-! ## The receipts of a block -/

/-- No two blocks of the chain have the same hash. -/
def DistinctHashes (c : MemoryChain) : Prop := (c.blocks.toList.map fun b => b.block.hash).Nodup

instance (c : MemoryChain) : Decidable c.DistinctHashes :=
  inferInstanceAs (Decidable (List.Nodup _))

/-- By its hash a block of the chain finds its own receipts, also if the pending block has the same
hash. -/
theorem DistinctHashes.receipts?_eq (distinct : c.DistinctHashes) {b : FullBlock}
    (hb : b ∈ c.blocks) : c.receipts? b.block.hash = some b.receipts := by
  have hmem : b ∈ c.blocks.toList := Array.mem_toList_iff.2 hb
  have hfind : (c.blocks.toList.find? fun a => decide (a.block.hash = b.block.hash)) = some b := by
    cases h : c.blocks.toList.find? fun a => decide (a.block.hash = b.block.hash) with
    | none =>
      have hne := List.find?_eq_none.1 h b hmem
      simp at hne
    | some a =>
      have hhash : a.block.hash = b.block.hash := by simpa using List.find?_some h
      rw [List.inj_on_of_nodup_map distinct (List.mem_of_find?_eq_some h) hmem hhash]
  rw [receipts?, List.find?_append, hfind]
  rfl

theorem DistinctHashes.lookUp_eq_findings (distinct : c.DistinctHashes) {job : FetchJob}
    (asked : job.percentiles ≠ []) {n : UInt64} {b : FullBlock}
    (hb : c.standing job.pending n = some b) : job.lookUp c.view n = .found b.findings := by
  have hstanding : (job.substitute? n).or (c.get? n) = some b := hb
  have hasked : ¬ job.percentiles.isEmpty = true := by simpa using asked
  unfold FetchJob.lookUp
  cases hsub : job.substitute? n with
  | some pending =>
    obtain rfl : pending = b := by simpa [hsub] using hstanding
    rfl
  | none =>
    have hget : c.get? n = some b := by simpa [hsub] using hstanding
    have hblock : c.view (.block (.number n)) = .found b.block := by
      simp [view, find?, hget, Lookup.ofOption]
    have hreceipts : c.view (.receipts b.block.hash) = .found b.receipts := by
      rw [view, distinct.receipts?_eq (Array.mem_of_getElem? hget)]
      rfl
    simp only [if_neg hasked, hblock, hreceipts]
    rfl

/-! ## What stands at a number -/

theorem Consistent.number_standing (hc : c.Consistent) {pending : Option FullBlock} {n : UInt64}
    {b : FullBlock} (hb : c.standing pending n = some b) : b.number = n := by
  rcases standing_cases hb with ⟨-, hnumber⟩ | hget
  · exact hnumber
  · exact UInt64.toNat_inj.1 (hc.numbered hget)

/-- What stands at a number has one receipt for each transaction, if a pending block has. -/
theorem Consistent.receipted_standing (hc : c.Consistent) {pending : Option FullBlock}
    (aligned : ∀ b, pending = some b → b.receipts.length = b.block.transactions.length)
    {n : UInt64} {b : FullBlock} (hb : c.standing pending n = some b) :
    b.receipts.length = b.block.transactions.length := by
  rcases standing_cases hb with ⟨hpending, -⟩ | hget
  · exact aligned b hpending
  · exact (hc.receipted b (Array.mem_of_getElem? hget)).symm

/-! ## Complete histories -/

/-- There is an entry for each block of the window, with the base fee that the block declares. -/
structure Complete (c : MemoryChain) (window : Window) (history : FeeHistory) : Prop where
  length : history.length = window.count.toNat
  oldest : history.oldestBlock.toNat + window.count.toNat = window.last.toNat + 1
  entry : ∀ i < window.count.toNat,
    let n := history.oldestBlock + UInt64.ofNat i
    ∃ b, c.standing window.pending n = some b ∧ b.number = n ∧
      history.baseFeePerGas[i]? = some b.block.header.baseFeeOrZero

/-- Each block of the window has its row of rewards, which is not empty. -/
def Rewarded (c : MemoryChain) (window : Window) (percentiles : List Float)
    (history : FeeHistory) : Prop :=
  ∃ rows, history.reward = some rows ∧ rows.length = window.count.toNat ∧
    ∀ i < window.count.toNat, ∃ b row,
      c.standing window.pending (history.oldestBlock + UInt64.ofNat i) = some b ∧
      rows[i]? = some row ∧ row ≠ [] ∧
      rewardPercentiles b.block.gasUsed b.block.transactions b.receipts percentiles = .ok row

theorem Coherent.toNat_number (hc : c.Coherent)
    (planned : (o.plan count last percentiles).outcome c.view = .ok window)
    (nonempty : window.isEmpty = false) {i : Nat} (hi : i < window.count.toNat) :
    ((o.job window percentiles).oldest + UInt64.ofNat i).toNat = window.first + i := by
  have hends := Oracle.first_add_count planned
  have hlast := window.last.toNat_lt
  have holdest := hc.toNat_oldest planned nonempty
  rw [toNat_add_ofNat (by simp only [UInt64.size]; omega), holdest]

/-- The fees of a window, each of which is that of what was found at its number. -/
structure Entries (c : MemoryChain) (o : Oracle) (window : Window) (percentiles : List Float)
    (fees : List ProcessedFees) : Prop where
  length : fees.length = window.count.toNat
  entry : ∀ i < window.count.toNat,
    let n := (o.job window percentiles).oldest + UInt64.ofNat i
    ∃ b f x, c.standing window.pending n = some b ∧
      (o.job window percentiles).lookUp c.view n = .found f ∧
      fees[i]? = some x ∧ (o.job window percentiles).process f = .ok x

theorem Coherent.exists_entries (hc : c.Coherent) (hm : c.Metered)
    (planned : (o.plan count last percentiles).outcome c.view = .ok window)
    (nonempty : window.isEmpty = false) :
    ∃ fees, c.Entries o window percentiles fees ∧
      o.Answers c.view count last percentiles
        (.ofFees (o.job window percentiles).oldest fees (!percentiles.isEmpty)) := by
  obtain ⟨fees, hanswers, hlength, hprocessed⟩ := hc.exists_processed hm planned nonempty
  refine ⟨fees, ⟨hlength, ?_⟩, hanswers⟩
  intro i hi n
  have hends := Oracle.first_add_count planned
  have hnumber : n.toNat = window.first + i := hc.toNat_number planned nonempty hi
  have hle : n ≤ window.last := UInt64.le_iff_toNat_le.2 (by omega)
  obtain ⟨b, hb⟩ := hc.exists_standing planned nonempty hle
  obtain ⟨f, x, hf, hx, hprocess⟩ := hprocessed hb (by omega) hle
  rw [hnumber, Nat.add_sub_cancel_left] at hx
  exact ⟨b, f, x, hb, hf, hx, hprocess⟩

/-- What a row of rewards is computed from, once all of the block was found. -/
theorem exists_row {config : ChainConfig} {b : FullBlock} {x : ProcessedFees}
    (asked : percentiles ≠ []) (aligned : b.receipts.length = b.block.transactions.length)
    (h : processBlock config b.block.header (some b.block) (some b.receipts) percentiles = .ok x) :
    ∃ row, x.reward = some row ∧ row ≠ [] ∧
      rewardPercentiles b.block.gasUsed b.block.transactions b.receipts percentiles = .ok row := by
  obtain ⟨fee, row?, -, hrewards, rfl⟩ := exists_of_processBlock h
  rw [RewardBasis.of_aligned asked aligned, RewardBasis.rewards] at hrewards
  obtain ⟨row, hrow, hrewards⟩ := bind_eq_ok.1 hrewards
  obtain ⟨hlength, -⟩ := rewardPercentiles_row hrow
  refine ⟨row, (Except.ok.inj hrewards).symm, ?_, hrow⟩
  rintro rfl
  exact asked (List.length_eq_zero_iff.1 hlength.symm)

namespace Entries

variable {fees : List ProcessedFees}

theorem exists_newest (h : c.Entries o window percentiles fees)
    (nonempty : window.isEmpty = false) : ∃ x, fees.getLast? = some x := by
  have hpos := Window.count_pos nonempty
  have hne : fees ≠ [] := List.length_pos_iff.1 (h.length ▸ hpos)
  exact ⟨_, List.getLast?_eq_some_getLast hne⟩

theorem complete (h : c.Entries o window percentiles fees) (hc : c.Coherent)
    (planned : (o.plan count last percentiles).outcome c.view = .ok window)
    (nonempty : window.isEmpty = false) :
    c.Complete window
      (.ofFees (o.job window percentiles).oldest fees (!percentiles.isEmpty)) := by
  obtain ⟨newest, hnewest⟩ := h.exists_newest nonempty
  have heq := FeeHistory.ofFees_eq (o.job window percentiles).oldest (!percentiles.isEmpty) hnewest
  have holdest : (FeeHistory.ofFees (o.job window percentiles).oldest fees
      (!percentiles.isEmpty)).oldestBlock = (o.job window percentiles).oldest :=
    congrArg FeeHistory.oldestBlock heq
  constructor
  case length => rw [heq, FeeHistory.length, List.length_map, h.length]
  case oldest =>
    rw [holdest, hc.toNat_oldest planned nonempty]
    exact Oracle.first_add_count planned
  case entry =>
    intro i hi
    rw [holdest]
    obtain ⟨b, f, x, hb, hf, hx, hprocess⟩ := h.entry i hi
    obtain ⟨f', hf', hheader⟩ := lookUp_eq (o.job window percentiles) hb
    obtain rfl : f = f' := Lookup.found.inj (hf.symm.trans hf')
    refine ⟨b, hb, hc.number_standing hb, ?_⟩
    rw [FeeHistory.getElem?_baseFeePerGas _ hx, (processBlock_eq_ok hprocess).1, hheader]

theorem rewarded (h : c.Entries o window percentiles fees) (hc : c.Coherent)
    (distinct : c.DistinctHashes)
    (aligned : ∀ b, window.pending = some b → b.receipts.length = b.block.transactions.length)
    (asked : percentiles ≠ []) (nonempty : window.isEmpty = false) :
    c.Rewarded window percentiles
      (.ofFees (o.job window percentiles).oldest fees (!percentiles.isEmpty)) := by
  obtain ⟨newest, hnewest⟩ := h.exists_newest nonempty
  have hasked : (!percentiles.isEmpty) = true := by simpa using asked
  rw [FeeHistory.ofFees_eq _ _ hnewest, hasked]
  refine ⟨_, rfl, (List.length_map _).trans h.length, ?_⟩
  intro i hi
  obtain ⟨b, f, x, hb, hf, hx, hprocess⟩ := h.entry i hi
  have hfindings : (o.job window percentiles).lookUp c.view _ = .found b.findings :=
    distinct.lookUp_eq_findings asked hb
  obtain rfl : f = b.findings := Lookup.found.inj (hf.symm.trans hfindings)
  obtain ⟨row, hrow, hne, hcomputed⟩ :=
    exists_row asked (hc.receipted_standing aligned hb) hprocess
  refine ⟨b, row, hb, ?_, hne, hcomputed⟩
  rw [List.getElem?_map, hx, Option.map_some, hrow, Option.getD_some]

end Entries

end MemoryChain

open MemoryChain

/-- **Every window has a complete history.** The query answers it, and it has the rewards of each
block if hashes tell blocks apart and the pending block has one receipt for each transaction. -/
theorem queries_complete {o : Oracle} {c : MemoryChain} {count : UInt64} {last : Selector}
    {percentiles : List Float} {window : Window} (reachable : c.Reachable) (metered : c.Metered)
    (planned : (o.plan count last percentiles).outcome c.view = .ok window)
    (nonempty : window.isEmpty = false) :
    ∃ history, o.Answers c.view count last percentiles history ∧ c.Complete window history ∧
      (c.DistinctHashes →
        (∀ b, window.pending = some b → b.receipts.length = b.block.transactions.length) →
        percentiles ≠ [] → c.Rewarded window percentiles history) := by
  have hc := reachable.coherent
  obtain ⟨fees, entries, hanswers⟩ := hc.exists_entries metered planned nonempty
  refine ⟨_, hanswers, entries.complete hc planned nonempty, ?_⟩
  exact fun distinct aligned asked => entries.rewarded hc distinct aligned asked nonempty

/-- A block with a hash and a base fee, and a transaction that uses all the gas that it declares. -/
def sealed (number : UInt64) (hash : Nat) (baseFee : UInt64) : FullBlock :=
  ⟨⟨⟨number, .ofNat hash, 30000000, 21000, some (.ofWord baseFee)⟩, [⟨0, 21000⟩]⟩, [⟨0, 21000⟩]⟩

/-- A chain that was rewound once, whose pending block has since been overtaken by a block that was
pushed with its number. -/
def overtakenOnce : MemoryChain :=
  ⟨#[sealed 0 1 10, sealed 1 2 20], some (sealed 1 3 30), none⟩

/-- The overtaken block ends the window, and its rewards are those of its own receipts. -/
theorem queries_complete_over_overtaken :
    overtakenOnce.Reachable ∧ overtakenOnce.Metered ∧ overtakenOnce.DistinctHashes ∧
      (Oracle.standard.plan 2 .pending [50]).outcome overtakenOnce.view =
        .ok ⟨some (sealed 1 3 30), 1, 2⟩ ∧
      ∃ history, Oracle.standard.Answers overtakenOnce.view 2 .pending [50] history ∧
        overtakenOnce.Complete ⟨some (sealed 1 3 30), 1, 2⟩ history ∧
        overtakenOnce.Rewarded ⟨some (sealed 1 3 30), 1, 2⟩ [50] history := by
  have first : Reachable ⟨#[sealed 0 1 10], none, none⟩ :=
    .push .empty (by decide) (b := sealed 0 1 10) rfl
  have second : Reachable ⟨#[sealed 0 1 10, sealed 1 4 40], none, none⟩ :=
    .push first (by decide) (b := sealed 1 4 40) rfl
  have rewound : Reachable ⟨#[sealed 0 1 10], none, none⟩ := .rewind 0 second
  have pending : Reachable ⟨#[sealed 0 1 10], some (sealed 1 3 30), none⟩ :=
    @Reachable.setPending _ _ (some (sealed 1 3 30)) rewound rfl
  have reachable : overtakenOnce.Reachable :=
    .push pending (by decide) (b := sealed 1 2 20) rfl
  have metered : overtakenOnce.Metered := by
    rintro b (hb | hb)
    · have hcases : b = sealed 0 1 10 ∨ b = sealed 1 2 20 := by simpa [overtakenOnce] using hb
      rcases hcases with rfl | rfl
      · decide
      · decide
    · cases hb
      decide
  have distinct : overtakenOnce.DistinctHashes := by decide
  have planned : (Oracle.standard.plan 2 .pending [50]).outcome overtakenOnce.view =
      .ok ⟨some (sealed 1 3 30), 1, 2⟩ := rfl
  obtain ⟨history, hanswers, hcomplete, hrewarded⟩ := queries_complete reachable metered planned rfl
  refine ⟨reachable, metered, distinct, planned, history, hanswers, hcomplete, ?_⟩
  apply hrewarded distinct
  · intro b hb
    cases hb
    rfl
  · exact List.cons_ne_nil 50 []

end FeeMarket
