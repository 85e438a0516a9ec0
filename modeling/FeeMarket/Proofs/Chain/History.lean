import FeeMarket.Proofs.Chain.Reachable
import FeeMarket.Proofs.FixedChain

/-!
# Fee histories over a chain in memory

A window without a pending block lies below the length of the chain (`last_lt_of_plan`), and one
with a pending block goes at most one number further (`last_le_of_plan`). So a block stands at each
number of a window, and the history has an entry for each (`exists_fees`). Whichever way the block
was looked up, all of the entry but the rewards depends on the header alone.
-/

namespace FeeMarket

/-- The number of the first block of the window. -/
def Window.first (w : Window) : Nat := w.last.toNat + 1 - w.count.toNat

theorem Oracle.first_add_count {o : Oracle} {view : View} {count : UInt64} {last : Selector}
    {percentiles : List Float} {window : Window}
    (planned : (o.plan count last percentiles).outcome view = .ok window) :
    window.first + window.count.toNat = window.last.toNat + 1 :=
  Nat.sub_add_cancel (count_le_of_plan planned)

namespace MemoryChain

variable {c : MemoryChain} {o : Oracle} {count : UInt64} {last : Selector}
  {percentiles : List Float} {window : Window}

/-- The gas that the receipts of one block used is a word, also of the pending block. -/
def Metered (c : MemoryChain) : Prop :=
  ∀ b, (b ∈ c.blocks ∨ c.pending = some b) → gasOf b.receipts < UInt64.size

theorem Metered.view (hm : c.Metered) : c.view.Metered := by
  intro hash receipts h
  obtain ⟨b, hb, rfl⟩ := exists_of_receipts h
  exact hm b hb

theorem Coherent.last_lt_of_head (hc : c.Coherent) {head : Header}
    (h : c.view (.header .latest) = .found head) : head.number.toNat < c.blocks.size := by
  cases hb : c.head? with
  | none => simp [MemoryChain.view, find?, hb, Lookup.ofOption] at h
  | some b =>
    have hsize := hc.size_of_head hb
    obtain rfl : b.block.header = head := by
      simpa [MemoryChain.view, find?, hb, Lookup.ofOption] using h
    have hnumber : b.block.header.number = b.number := rfl
    rw [hnumber]
    omega

theorem Coherent.last_lt_of_finalized (hc : c.Coherent) {block : Block}
    (h : c.view .finalized = .found block) : block.number.toNat < c.blocks.size := by
  cases hb : c.find? .finalized with
  | none => simp [MemoryChain.view, hb, Lookup.ofOption] at h
  | some b =>
    obtain rfl : b.block = block := by simpa [MemoryChain.view, hb, Lookup.ofOption] using h
    obtain ⟨n, hn, hget⟩ := Option.bind_eq_some_iff.1 hb
    have hlt := hc.finalized n hn
    have hnumber : b.number.toNat = n.toNat := hc.numbered hget
    have heq : b.block.number = b.number := rfl
    rw [heq, hnumber]
    exact hlt

theorem Coherent.last_lt_of_plan (hc : c.Coherent)
    (planned : (o.plan count last percentiles).outcome c.view = .ok window)
    (nonempty : window.isEmpty = false) (hp : window.pending = none) :
    window.last.toNat < c.blocks.size := by
  cases Oracle.resolves_of_plan planned nonempty with
  | @number head requested hhead hle =>
    have hlt := hc.last_lt_of_head hhead
    have hle' := UInt64.le_iff_toNat_le.1 hle
    rw [(Window.ending_of_nonempty nonempty).1]
    omega
  | latest hhead | headForPending hhead =>
    rw [(Window.ending_of_nonempty nonempty).1]
    exact hc.last_lt_of_head hhead
  | pending hhead hb =>
    rw [(Window.ending_of_nonempty nonempty).2] at hp
    cases hp
  | finalized hhead hblock =>
    rw [(Window.ending_of_nonempty nonempty).1]
    exact hc.last_lt_of_finalized hblock

/-- Blocks that end with one of the chain are planned as they are asked for, up to the longest
window that is served. -/
theorem Coherent.plan_number (hc : c.Coherent) {n : UInt64} (hn : n.toNat < c.blocks.size)
    (counted : count ≠ 0) (served : o.longestWindow percentiles ≠ 0)
    (checked : Percentile.check o.limits.maxPercentiles.toNat percentiles = .ok ()) :
    ∃ window, (o.plan count (.number n) percentiles).outcome c.view = .ok window ∧
      window.isEmpty = false ∧ window.last = n ∧ window.pending = none := by
  obtain ⟨head, hhead, hle⟩ := hc.exists_head hn
  have hlongest : min count (o.longestWindow percentiles) ≠ 0 := by
    intro hzero
    have hmin := toNat_min count (o.longestWindow percentiles)
    rw [hzero] at hmin
    have := toNat_pos counted
    have := toNat_pos served
    simp only [UInt64.toNat_zero] at hmin
    omega
  have nonempty := Window.isEmpty_ending none n hlongest
  obtain ⟨hlast, hpending⟩ := Window.ending_of_nonempty nonempty
  refine ⟨_, ?_, nonempty, hlast, hpending⟩
  rw [Oracle.outcome_plan, if_neg counted, checked]
  simp only
  rw [Window.outcome_resolve, hhead]
  simp only [if_neg (UInt64.not_lt.2 hle)]

/-- A window ends with a block of the chain, or with the pending block, which is not above the next
number. -/
theorem Coherent.last_le_of_plan (hc : c.Coherent)
    (planned : (o.plan count last percentiles).outcome c.view = .ok window)
    (nonempty : window.isEmpty = false) : window.last.toNat ≤ c.blocks.size := by
  cases hp : window.pending with
  | none => exact Nat.le_of_lt (hc.last_lt_of_plan planned nonempty hp)
  | some pending =>
    obtain ⟨hpending, hlast⟩ := Oracle.pending_of_plan planned hp
    rw [hlast]
    exact hc.pending pending hpending

theorem Coherent.exists_standing (hc : c.Coherent)
    (planned : (o.plan count last percentiles).outcome c.view = .ok window)
    (nonempty : window.isEmpty = false) {n : UInt64} (hn : n ≤ window.last) :
    ∃ b, c.standing window.pending n = some b := by
  have hle := UInt64.le_iff_toNat_le.1 hn
  cases hp : window.pending with
  | none =>
    have hlast := hc.last_lt_of_plan planned nonempty hp
    obtain ⟨b, hb, -⟩ := hc.exists_block (n := n) (by omega)
    exact ⟨b, by simpa using hb⟩
  | some pending =>
    obtain ⟨-, hlast⟩ := Oracle.pending_of_plan planned hp
    have hsize := hc.last_le_of_plan planned nonempty
    by_cases heq : pending.number = n
    · exact ⟨pending, by simp [standing, heq]⟩
    · have hne : n.toNat ≠ window.last.toNat := by
        intro h
        exact heq (hlast ▸ (UInt64.toNat_inj.1 h).symm)
      obtain ⟨b, hb, -⟩ := hc.exists_block (n := n) (by omega)
      have hfilter : (some pending).filter (fun b => decide (b.number = n)) = none := by
        simp [heq]
      exact ⟨b, by rw [standing, hfilter, Option.none_or, hb]⟩

/-- Above a window there is room for the workers, and its blocks fit into a queue. -/
theorem Coherent.room (hc : c.Coherent)
    (planned : (o.plan count last percentiles).outcome c.view = .ok window)
    (nonempty : window.isEmpty = false) :
    window.last.toNat + o.workers window < UInt64.size ∧
      window.count.toNat ≤ maxQueueLength := by
  have hlast := hc.last_le_of_plan planned nonempty
  have hfits := hc.fits
  have hcount := Oracle.count_le_of_plan planned
  have hworkers : o.workers window ≤ window.count.toNat := Nat.min_le_right _ _
  rw [capacity] at hfits
  simp only [UInt64.size, maxQueueLength]
  omega

theorem Coherent.toNat_oldest (hc : c.Coherent)
    (planned : (o.plan count last percentiles).outcome c.view = .ok window)
    (nonempty : window.isEmpty = false) :
    (o.job window percentiles).oldest.toNat = window.first := by
  obtain ⟨room, -⟩ := hc.room planned nonempty
  obtain ⟨hcount, hnext, -⟩ := Oracle.startable planned nonempty room
  exact (Window.oldest_eq_ok hcount hnext).2

/-- **Every block of the window is looked up and processed.** -/
theorem Coherent.exists_processed (hc : c.Coherent) (hm : c.Metered)
    (planned : (o.plan count last percentiles).outcome c.view = .ok window)
    (nonempty : window.isEmpty = false) :
    ∃ fees : List ProcessedFees,
      o.Answers c.view count last percentiles
        (.ofFees (o.job window percentiles).oldest fees (!percentiles.isEmpty)) ∧
      fees.length = window.count.toNat ∧
      ∀ {n : UInt64} {b}, c.standing window.pending n = some b → window.first ≤ n.toNat →
        n ≤ window.last → ∃ f x, (o.job window percentiles).lookUp c.view n = .found f ∧
          fees[n.toNat - window.first]? = some x ∧
          (o.job window percentiles).process f = .ok x := by
  obtain ⟨room, fits⟩ := hc.room planned nonempty
  obtain ⟨-, -, -, -, hsize⟩ := Oracle.startable planned nonempty room
  have holdest := hc.toNat_oldest planned nonempty
  have hpending (b : FullBlock) (hp : window.pending = some b) : gasOf b.receipts < UInt64.size :=
    hm b (.inr (Oracle.pending_of_plan planned hp).1)
  obtain ⟨history, href, hanswers⟩ := Oracle.answers_reference planned nonempty room fits
    c.view_sound hm.view hpending
  have hfound : ∀ n ∈ (o.job window percentiles).numbers,
      ∃ f, (o.job window percentiles).lookUp c.view n = .found f := by
    intro n hn
    obtain ⟨b, hb⟩ := hc.exists_standing planned nonempty (FetchJob.mem_numbers.1 hn).2
    obtain ⟨f, hf, -⟩ := lookUp_eq (o.job window percentiles) hb
    exact ⟨f, hf⟩
  obtain ⟨fees, rfl, hlength, hentries⟩ := FetchJob.reference_entries hfound href
  refine ⟨fees, hanswers, hlength.trans hsize, ?_⟩
  intro n b hb hfirst hn
  obtain ⟨f, hf, -⟩ := lookUp_eq (o.job window percentiles) hb
  have hnumber : (o.job window percentiles).numbers[n.toNat - window.first]? = some n := by
    rw [FetchJob.numbers, ← holdest, hsize]
    have hn' := UInt64.le_iff_toNat_le.1 hn
    exact getElem?_countFrom (by omega) (by rw [Window.first] at holdest; omega)
  obtain ⟨x, hx, hprocess⟩ := hentries hnumber hf
  exact ⟨f, x, hf, hx, hprocess⟩

/-- The fees of a window: an entry for each block that stands in it, which is that of its header but
for the rewards. -/
structure Covers (c : MemoryChain) (config : ChainConfig) (window : Window)
    (fees : List ProcessedFees) : Prop where
  length : fees.length = window.count.toNat
  entry : ∀ {n : UInt64} {b}, c.standing window.pending n = some b → window.first ≤ n.toNat →
    n ≤ window.last → ∃ x, fees[n.toNat - window.first]? = some x ∧
      headerFees config b.block.header = .ok x.market

/-- **Every block of the window has its entry.** -/
theorem Coherent.exists_fees (hc : c.Coherent) (hm : c.Metered)
    (planned : (o.plan count last percentiles).outcome c.view = .ok window)
    (nonempty : window.isEmpty = false) :
    ∃ fees, c.Covers o.chain window fees ∧
      o.Answers c.view count last percentiles
        (.ofFees (o.job window percentiles).oldest fees (!percentiles.isEmpty)) := by
  obtain ⟨fees, hanswers, hlength, hprocessed⟩ := hc.exists_processed hm planned nonempty
  refine ⟨fees, ⟨hlength, ?_⟩, hanswers⟩
  intro n b hb hfirst hn
  obtain ⟨f, x, hf, hx, hprocess⟩ := hprocessed hb hfirst hn
  obtain ⟨f', hf', hheader⟩ := lookUp_eq (o.job window percentiles) hb
  obtain rfl : f = f' := Lookup.found.inj (hf.symm.trans hf')
  rw [← hheader]
  exact ⟨x, hx, headerFees_eq_market hprocess⟩

theorem Coherent.exists_covers (hc : c.Coherent) (hm : c.Metered)
    (planned : (o.plan count last percentiles).outcome c.view = .ok window) :
    ∃ fees, c.Covers o.chain window fees ∧
      o.Answers c.view count last percentiles
        (.ofFees (o.job window percentiles).oldest fees (!percentiles.isEmpty)) := by
  cases hempty : window.isEmpty with
  | false => exact hc.exists_fees hm planned hempty
  | true =>
    have hzero : window.count = 0 := by simpa [Window.isEmpty] using hempty
    refine ⟨[], ⟨by rw [hzero]; rfl, ?_⟩, Oracle.answers_empty planned hempty⟩
    intro n b _ hfirst hn
    have hn' := UInt64.le_iff_toNat_le.1 hn
    rw [Window.first, hzero, UInt64.toNat_zero] at hfirst
    omega

/-- The entries of a window without a pending block declare the base fees of the blocks and project
the next ones. -/
theorem Coherent.exists_history (hc : c.Coherent) (hm : c.Metered)
    (planned : (o.plan count last percentiles).outcome c.view = .ok window)
    (nonempty : window.isEmpty = false) (hp : window.pending = none) :
    ∃ fees : List ProcessedFees,
      o.Answers c.view count last percentiles
        (.ofFees (o.job window percentiles).oldest fees (!percentiles.isEmpty)) ∧
      fees.length = window.count.toNat ∧
      ∀ {m : UInt64} {b}, c.get? m = some b → window.first ≤ m.toNat → m ≤ window.last →
        ∃ x, fees[m.toNat - window.first]? = some x ∧
          x.baseFee = b.block.header.baseFeeOrZero ∧
          projectedBaseFee o.chain b.block.header = .ok x.nextBaseFee := by
  obtain ⟨fees, hcovers, hanswers⟩ := hc.exists_fees hm planned nonempty
  refine ⟨fees, hanswers, hcovers.length, ?_⟩
  intro m b hb hfirst hle
  obtain ⟨x, hx, hheader⟩ := hcovers.entry (by simpa [hp] using hb) hfirst hle
  obtain ⟨hbase, hnext⟩ := processBlock_eq_ok hheader
  exact ⟨x, hx, hbase, hnext⟩

end MemoryChain

end FeeMarket
