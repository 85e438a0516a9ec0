import FeeMarket.BlockFees
import FeeMarket.Proofs.Sequence

/-!
# Rows of rewards

The rewards of a block are put into ascending order, and the cursor that walks over them never goes
back. So a row has one reward for each percentile, and they do not decrease
(`rewardPercentiles_row`).

**Unreceipted** (`Block.Unreceipted`). A block with transactions for which there is not one receipt
each. Only for such a block there is no row (`RewardBasis.rewards_row`).
-/

namespace FeeMarket

namespace Wei

theorem le_trans {a b c : Wei} (hab : a ≤ b) (hbc : b ≤ c) : a ≤ c := Nat.le_trans hab hbc

theorem le_total (a b : Wei) : a ≤ b ∨ b ≤ a := Nat.le_total a.toNat b.toNat

theorem le_antisymm {a b : Wei} (hab : a ≤ b) (hba : b ≤ a) : a = b :=
  Wei.ext (Nat.le_antisymm hab hba)

end Wei

namespace WeightedReward

theorem ascending_pairwise (transactions : List Transaction) (receipts : List Receipt) :
    (ascending transactions receipts).Pairwise fun a b => a.reward ≤ b.reward := by
  have hsorted := @List.pairwise_mergeSort _ (fun a b => decide (a.reward ≤ b.reward))
    (by
      intro a b c hab hbc
      simp only [decide_eq_true_eq] at hab hbc ⊢
      exact Wei.le_trans hab hbc)
    (by
      intro a b
      simp only [Bool.or_eq_true, decide_eq_true_eq]
      exact Wei.le_total _ _)
    (List.zipWith of transactions receipts)
  simpa only [ascending, decide_eq_true_eq] using hsorted

end WeightedReward

namespace RewardCursor

/-- The rewards from the cursor on are in ascending order. -/
def Sorted (c : RewardCursor) : Prop :=
  (c.here :: c.ahead).Pairwise fun a b => a.reward ≤ b.reward

variable {c d : RewardCursor} {row : List Wei}

theorem seekFrom_sorted {threshold : UInt64} {here : WeightedReward} {gasUsed : UInt64}
    {ahead : List WeightedReward}
    (hs : (here :: ahead).Pairwise fun a b => a.reward ≤ b.reward)
    (h : seekFrom threshold here gasUsed ahead = .ok d) :
    d.Sorted ∧ here.reward ≤ d.here.reward := by
  induction ahead generalizing here gasUsed with
  | nil =>
    cases h
    exact ⟨hs, Nat.le_refl _⟩
  | cons next ahead ih =>
    rw [seekFrom] at h
    split at h
    · obtain ⟨hle, hs'⟩ := List.pairwise_cons.1 hs
      obtain ⟨sum, -, h⟩ := bind_eq_ok.1 h
      obtain ⟨hd, hnext⟩ := ih hs' h
      exact ⟨hd, Wei.le_trans (hle next List.mem_cons_self) hnext⟩
    · cases h
      exact ⟨hs, Nat.le_refl _⟩

theorem seek_sorted {threshold : UInt64} (hs : c.Sorted) (h : c.seek threshold = .ok d) :
    d.Sorted ∧ c.here.reward ≤ d.here.reward :=
  seekFrom_sorted hs h

/-- The cursor collects one reward for each threshold, none of them less than the one before. -/
theorem rewards_row {thresholds : List UInt64} (hs : c.Sorted)
    (h : c.rewards thresholds = .ok row) :
    row.length = thresholds.length ∧ row.Pairwise (· ≤ ·) ∧ ∀ r ∈ row, c.here.reward ≤ r := by
  induction thresholds generalizing c row with
  | nil =>
    cases h
    exact ⟨rfl, List.Pairwise.nil, by simp⟩
  | cons threshold rest ih =>
    rw [rewards] at h
    obtain ⟨d, hseek, h⟩ := bind_eq_ok.1 h
    obtain ⟨later, hlater, h⟩ := bind_eq_ok.1 h
    cases h
    obtain ⟨hd, hle⟩ := seek_sorted hs hseek
    obtain ⟨hlength, hascends, hfirst⟩ := ih hd hlater
    refine ⟨congrArg Nat.succ hlength, List.pairwise_cons.2 ⟨hfirst, hascends⟩, ?_⟩
    intro r hr
    rcases List.mem_cons.1 hr with rfl | hr
    · exact hle
    · exact Wei.le_trans hle (hfirst r hr)

/-- Where the cursor stops and what is then ahead of it is an end of where it was. -/
theorem seekFrom_suffix {threshold : UInt64} {here : WeightedReward} {gasUsed : UInt64}
    {ahead : List WeightedReward} (h : seekFrom threshold here gasUsed ahead = .ok d) :
    d.here :: d.ahead <:+ here :: ahead := by
  induction ahead generalizing here gasUsed with
  | nil =>
    cases h
    exact List.suffix_refl _
  | cons next ahead ih =>
    rw [seekFrom] at h
    split at h
    · obtain ⟨sum, -, h⟩ := bind_eq_ok.1 h
      exact (ih h).trans (List.suffix_cons here _)
    · cases h
      exact List.suffix_refl _

/-- What the cursor collects are rewards that it passes. -/
theorem mem_of_rewards {thresholds : List UInt64} (h : c.rewards thresholds = .ok row) {r : Wei}
    (hr : r ∈ row) : ∃ w ∈ c.here :: c.ahead, r = w.reward := by
  induction thresholds generalizing c row with
  | nil =>
    cases h
    cases hr
  | cons threshold rest ih =>
    rw [rewards] at h
    obtain ⟨d, hseek, h⟩ := bind_eq_ok.1 h
    obtain ⟨later, hlater, h⟩ := bind_eq_ok.1 h
    cases h
    have hsuffix := seekFrom_suffix hseek
    rcases List.mem_cons.1 hr with rfl | hr
    · exact ⟨d.here, hsuffix.mem List.mem_cons_self, rfl⟩
    · obtain ⟨w, hw, rfl⟩ := ih hlater hr
      exact ⟨w, hsuffix.mem hw, rfl⟩

end RewardCursor

namespace WeightedReward

theorem exists_of_mem_ascending {transactions : List Transaction} {receipts : List Receipt}
    {w : WeightedReward} (h : w ∈ ascending transactions receipts) :
    ∃ t ∈ transactions, w.reward = .ofWord t.gas := by
  have hzip : w ∈ List.zipWith of transactions receipts := List.mem_mergeSort.1 h
  rw [← List.map_uncurry_zip_eq_zipWith] at hzip
  obtain ⟨⟨t, receipt⟩, hpair, rfl⟩ := List.mem_map.1 hzip
  exact ⟨t, (List.of_mem_zip hpair).1, rfl⟩

end WeightedReward

/-- **A row of rewards.** -/
theorem rewardPercentiles_row {blockGasUsed : UInt64} {transactions : List Transaction}
    {receipts : List Receipt} {percentiles : List Float} {row : List Wei}
    (h : rewardPercentiles blockGasUsed transactions receipts percentiles = .ok row) :
    row.length = percentiles.length ∧ row.Pairwise (· ≤ ·) := by
  unfold rewardPercentiles at h
  split at h
  · cases h
    refine ⟨List.length_map _, List.pairwise_map.2 ?_⟩
    rw [List.pairwise_iff_getElem]
    intro i j _ _ _
    exact Nat.le_refl _
  · cases hascending : WeightedReward.ascending transactions receipts with
    | nil => simp [hascending] at h
    | cons first ahead =>
      simp only [hascending] at h
      have hsorted : RewardCursor.Sorted ⟨first, first.gasUsed, ahead⟩ := by
        rw [RewardCursor.Sorted, ← hascending]
        exact WeightedReward.ascending_pairwise transactions receipts
      obtain ⟨hlength, hrow, -⟩ := RewardCursor.rewards_row hsorted h
      exact ⟨hlength.trans (List.length_map _), hrow⟩

/-- A reward is what a transaction of the block declares, or zero for lack of one. -/
theorem rewardPercentiles_declared {blockGasUsed : UInt64} {transactions : List Transaction}
    {receipts : List Receipt} {percentiles : List Float} {row : List Wei}
    (h : rewardPercentiles blockGasUsed transactions receipts percentiles = .ok row) {r : Wei}
    (hr : r ∈ row) : (transactions = [] ∧ r = 0) ∨ ∃ t ∈ transactions, r = .ofWord t.gas := by
  unfold rewardPercentiles at h
  split at h
  · rename_i hempty
    cases h
    obtain ⟨p, -, rfl⟩ := List.mem_map.1 hr
    exact .inl ⟨by simpa using hempty, rfl⟩
  · cases hascending : WeightedReward.ascending transactions receipts with
    | nil => simp [hascending] at h
    | cons first ahead =>
      simp only [hascending] at h
      obtain ⟨w, hw, rfl⟩ := RewardCursor.mem_of_rewards h hr
      exact .inr (WeightedReward.exists_of_mem_ascending (hascending ▸ hw))

/-- There are transactions, and not one receipt for each of them. -/
def Block.Unreceipted (block : Block) (receipts : Option (List Receipt)) : Prop :=
  block.transactions ≠ [] ∧ ∀ rs, receipts = some rs → rs.length ≠ block.transactions.length

namespace RewardBasis

variable {block : Block} {receipts : Option (List Receipt)} {percentiles : List Float}

/-- If percentiles are asked for, there is a basis unless the receipts are missing. -/
theorem of_some (asked : percentiles ≠ []) :
    (∃ transactions count, of (some block) receipts percentiles =
        .receiptsMissing transactions count ∧ block.Unreceipted receipts) ∨
      ∃ rs, of (some block) receipts percentiles = .present block rs ∧
        ¬ block.Unreceipted receipts := by
  have hasked : ¬ percentiles.isEmpty = true := by simpa using asked
  unfold of Block.Unreceipted
  simp only [if_neg hasked]
  by_cases hempty : block.transactions = []
  · refine .inr ?_
    cases receipts with
    | none => exact ⟨[], by simp [hempty], by simp [hempty]⟩
    | some rs =>
      by_cases hlength : rs.length = block.transactions.length
      · exact ⟨rs, by simp [hlength], by simp [hempty]⟩
      · exact ⟨[], by simp [hempty], by simp [hempty]⟩
  · cases receipts with
    | none => exact .inl ⟨block.transactions.length, none, by simp [hempty], by simp [hempty]⟩
    | some rs =>
      by_cases hlength : rs.length = block.transactions.length
      · exact .inr ⟨rs, by simp [hlength], by simp [hlength]⟩
      · exact .inl ⟨block.transactions.length, some rs.length, by simp [hlength, hempty],
          by simp [hlength, hempty]⟩

theorem exists_of_rewards {basis : RewardBasis} {percentiles : List Float}
    {row : List Wei} (h : basis.rewards percentiles = .ok (some row)) :
    ∃ block receipts, basis = .present block receipts ∧
      rewardPercentiles block.gasUsed block.transactions receipts percentiles = .ok row := by
  cases basis with
  | notRequested | blockMissing | receiptsMissing => cases h
  | present block receipts =>
    rw [rewards] at h
    obtain ⟨row', hrow, h⟩ := bind_eq_ok.1 h
    cases h
    exact ⟨block, receipts, rfl, hrow⟩

/-- One receipt for each transaction is a basis. -/
theorem of_aligned {rs : List Receipt} (asked : percentiles ≠ [])
    (hlength : rs.length = block.transactions.length) :
    of (some block) (some rs) percentiles = .present block rs := by
  simp [of, asked, hlength]

/-- **The rewards of a block.** There is a row unless the receipts are missing. -/
theorem rewards_row {row? : Option (List Wei)} (asked : percentiles ≠ [])
    (h : (of (some block) receipts percentiles).rewards percentiles = .ok row?) :
    (row? = none ∧ block.Unreceipted receipts) ∨
      ∃ row, row? = some row ∧ row.length = percentiles.length ∧ row.Pairwise (· ≤ ·) ∧
        ¬ block.Unreceipted receipts := by
  rcases of_some asked with
    ⟨transactions, count, hof, hmissing⟩ | ⟨rs, hof, hpresent⟩
  · rw [hof] at h
    obtain rfl : none = row? := Except.ok.inj h
    exact .inl ⟨rfl, hmissing⟩
  · rw [hof, rewards] at h
    obtain ⟨row, hrow, h⟩ := bind_eq_ok.1 h
    obtain ⟨hlength, hascends⟩ := rewardPercentiles_row hrow
    exact .inr ⟨row, (Except.ok.inj h).symm, hlength, hascends, hpresent⟩

end RewardBasis

end FeeMarket
