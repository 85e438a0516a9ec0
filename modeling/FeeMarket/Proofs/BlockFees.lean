import FeeMarket.BlockFees
import FeeMarket.Proofs.BaseFee
import FeeMarket.Proofs.Sequence
import Mathlib.Algebra.GroupWithZero.Nat

/-!
# The fees of a block exist

With valid parameters, and receipts whose gas adds up to a word, processing a block meets no
fault (`processBlock_total`). The base fee rule gives an answer, and the cursor that collects the
rewards never adds up more than the gas of all receipts (`RewardCursor.total`).

What comes of it declares the base fee of the header and projects the next one
(`processBlock_eq_ok`). The block and its receipts bear on the rewards alone: all other fees are
those of the header (`headerFees_eq_market`).
-/

namespace FeeMarket

/-- The gas that all receipts used. -/
def gasOf (receipts : List Receipt) : Nat := (receipts.map fun r => r.gasUsed.toNat).sum

namespace WeightedReward

/-- The gas that all these transactions used. -/
def gas (rewards : List WeightedReward) : Nat := (rewards.map fun r => r.gasUsed.toNat).sum

theorem gas_cons (r : WeightedReward) (rest : List WeightedReward) :
    gas (r :: rest) = r.gasUsed.toNat + gas rest := rfl

theorem gas_zipWith_le (transactions : List Transaction) (receipts : List Receipt) :
    gas (List.zipWith of transactions receipts) ≤ gasOf receipts := by
  induction transactions generalizing receipts with
  | nil => exact Nat.zero_le _
  | cons t transactions ih =>
    cases receipts with
    | nil => exact Nat.le_refl _
    | cons r receipts => exact Nat.add_le_add_left (ih receipts) r.gasUsed.toNat

/-- Putting rewards into order does not change how much gas they weigh. -/
theorem gas_ascending_le (transactions : List Transaction) (receipts : List Receipt) :
    gas (ascending transactions receipts) ≤ gasOf receipts := by
  have hperm := (List.mergeSort_perm (List.zipWith of transactions receipts)
    fun a b => decide (a.reward ≤ b.reward)).map fun r => r.gasUsed.toNat
  exact Nat.le_trans (Nat.le_of_eq hperm.sum_nat) (gas_zipWith_le transactions receipts)

theorem ascending_ne_nil {transactions : List Transaction} {receipts : List Receipt}
    (hlen : receipts.length = transactions.length) (hne : transactions ≠ []) :
    ascending transactions receipts ≠ [] := by
  intro hnil
  have hlength := congrArg List.length hnil
  rw [ascending, List.length_mergeSort, List.length_zipWith, hlen, Nat.min_self] at hlength
  exact hne (List.length_eq_zero_iff.1 hlength)

end WeightedReward

namespace RewardCursor

open WeightedReward (gas gas_cons)

/-- The gas used up to the cursor, and that of all that is ahead. -/
def total (c : RewardCursor) : Nat := c.gasUsed.toNat + gas c.ahead

theorem seekFrom_total (threshold : UInt64) (here : WeightedReward) {gasUsed : UInt64}
    {ahead : List WeightedReward} (h : gasUsed.toNat + gas ahead < UInt64.size) :
    ∃ c, seekFrom threshold here gasUsed ahead = .ok c ∧
      c.total = gasUsed.toNat + gas ahead := by
  induction ahead generalizing here gasUsed with
  | nil => exact ⟨_, rfl, rfl⟩
  | cons next ahead ih =>
    rw [seekFrom]
    split
    · rw [gas_cons] at h ⊢
      have hsum : gasUsed.toNat + next.gasUsed.toNat < UInt64.size := by omega
      have hword : (gasUsed + next.gasUsed).toNat = gasUsed.toNat + next.gasUsed.toNat := by
        rw [UInt64.toNat_add]
        exact Nat.mod_eq_of_lt hsum
      have hrest : (gasUsed + next.gasUsed).toNat + gas ahead < UInt64.size := by omega
      obtain ⟨c, hc, htotal⟩ := ih next hrest
      have hadd : Word.add gasUsed next.gasUsed = .ok (gasUsed + next.gasUsed) := if_pos hsum
      exact ⟨c, by rw [hadd]; exact hc, by omega⟩
    · exact ⟨_, rfl, rfl⟩

/-- The cursor walks to every threshold if all gas together is a word. -/
theorem rewards_total (thresholds : List UInt64) {c : RewardCursor}
    (h : c.total < UInt64.size) : ∃ row, c.rewards thresholds = .ok row := by
  induction thresholds generalizing c with
  | nil => exact ⟨_, rfl⟩
  | cons threshold rest ih =>
    obtain ⟨d, hd, htotal⟩ := seekFrom_total threshold c.here h
    obtain ⟨row, hrow⟩ := ih (c := d) (htotal ▸ h)
    refine ⟨d.here.reward :: row, ?_⟩
    have hseek : c.seek threshold = .ok d := hd
    rw [rewards, hseek]
    show (do let later ← d.rewards rest; return d.here.reward :: later) = _
    rw [hrow]
    rfl

end RewardCursor

theorem rewardPercentiles_total (blockGasUsed : UInt64) (percentiles : List Float)
    {transactions : List Transaction} {receipts : List Receipt}
    (hlen : receipts.length = transactions.length) (hgas : gasOf receipts < UInt64.size) :
    ∃ row, rewardPercentiles blockGasUsed transactions receipts percentiles = .ok row := by
  unfold rewardPercentiles
  split
  · exact ⟨_, rfl⟩
  · rename_i hne
    have hgas' := Nat.lt_of_le_of_lt (WeightedReward.gas_ascending_le transactions receipts) hgas
    have hnil := WeightedReward.ascending_ne_nil hlen (by simpa using hne)
    cases hasc : WeightedReward.ascending transactions receipts with
    | nil => exact absurd hasc hnil
    | cons first ahead =>
      rw [hasc, WeightedReward.gas_cons] at hgas'
      exact RewardCursor.rewards_total _ hgas'

/-- The receipts of a basis line up with the transactions, and are those that were given. -/
theorem RewardBasis.of_eq_present {block : Option Block} {receipts : Option (List Receipt)}
    {percentiles : List Float} {b : Block} {rs : List Receipt}
    (h : RewardBasis.of block receipts percentiles = .present b rs) :
    rs.length = b.transactions.length ∧ (rs = [] ∨ receipts = some rs) := by
  unfold RewardBasis.of at h
  split at h
  · cases h
  · cases block with
    | none => cases h
    | some b' =>
      cases receipts with
      | none =>
        simp only at h
        split at h
        · rename_i hempty
          cases h
          exact ⟨(List.length_eq_zero_iff.2 (List.isEmpty_iff.1 hempty)).symm, .inl rfl⟩
        · cases h
      | some rs' =>
        simp only at h
        split at h
        · rename_i hlen
          cases h
          exact ⟨hlen, .inr rfl⟩
        · split at h
          · rename_i hempty
            cases h
            exact ⟨(List.length_eq_zero_iff.2 (List.isEmpty_iff.1 hempty)).symm, .inl rfl⟩
          · cases h

theorem RewardBasis.rewards_total (block : Option Block) {receipts : Option (List Receipt)}
    (percentiles : List Float) (hgas : ∀ rs, receipts = some rs → gasOf rs < UInt64.size) :
    ∃ row, (RewardBasis.of block receipts percentiles).rewards percentiles = .ok row := by
  cases hb : RewardBasis.of block receipts percentiles with
  | present b rs =>
    obtain ⟨hlen, hrs⟩ := RewardBasis.of_eq_present hb
    have hrs' : gasOf rs < UInt64.size := by
      rcases hrs with rfl | hrs
      · exact (by decide : 0 < UInt64.size)
      · exact hgas rs hrs
    obtain ⟨row, hrow⟩ := rewardPercentiles_total b.gasUsed percentiles hlen hrs'
    refine ⟨some row, ?_⟩
    rw [RewardBasis.rewards, hrow]
    rfl
  | notRequested | blockMissing | receiptsMissing transactions receipts => exact ⟨none, rfl⟩

variable {config : ChainConfig}

theorem projectedBaseFee_total (valid : config.Valid) (header : Header) :
    ∃ fee, projectedBaseFee config header = .ok fee := by
  unfold projectedBaseFee
  split
  · exact nextBaseFee_total valid header
  · exact ⟨0, rfl⟩

/-- **Processing meets no fault.** -/
theorem processBlock_total (valid : config.Valid) (header : Header) (block : Option Block)
    {receipts : Option (List Receipt)} (percentiles : List Float)
    (hgas : ∀ rs, receipts = some rs → gasOf rs < UInt64.size) :
    ∃ fees, processBlock config header block receipts percentiles = .ok fees := by
  obtain ⟨fee, hfee⟩ := projectedBaseFee_total valid header
  obtain ⟨row, hrow⟩ := RewardBasis.rewards_total block percentiles hgas
  refine ⟨⟨row, header.baseFeeOrZero, fee, header.gasUsedRatio, 0, 0, 0⟩, ?_⟩
  rw [processBlock, processBasis, hfee, hrow]
  rfl

theorem exists_of_processBlock {header : Header} {block : Option Block}
    {receipts : Option (List Receipt)} {percentiles : List Float} {fees : ProcessedFees}
    (h : processBlock config header block receipts percentiles = .ok fees) :
    ∃ fee row, projectedBaseFee config header = .ok fee ∧
      (RewardBasis.of block receipts percentiles).rewards percentiles = .ok row ∧
      fees = ⟨row, header.baseFeeOrZero, fee, header.gasUsedRatio, 0, 0, 0⟩ := by
  rw [processBlock, processBasis] at h
  obtain ⟨fee, hfee, h⟩ := bind_eq_ok.1 h
  obtain ⟨row, hrow, h⟩ := bind_eq_ok.1 h
  exact ⟨fee, row, hfee, hrow, (Except.ok.inj h).symm⟩

theorem processBlock_eq_ok {header : Header} {block : Option Block}
    {receipts : Option (List Receipt)} {percentiles : List Float} {fees : ProcessedFees}
    (h : processBlock config header block receipts percentiles = .ok fees) :
    fees.baseFee = header.baseFeeOrZero ∧
      projectedBaseFee config header = .ok fees.nextBaseFee := by
  obtain ⟨fee, row, hfee, -, rfl⟩ := exists_of_processBlock h
  exact ⟨rfl, hfee⟩

theorem blobFees_of_processBlock {header : Header} {block : Option Block}
    {receipts : Option (List Receipt)} {percentiles : List Float} {fees : ProcessedFees}
    (h : processBlock config header block receipts percentiles = .ok fees) :
    fees.blobBaseFee = 0 ∧ fees.nextBlobBaseFee = 0 ∧ fees.blobGasUsedRatio = 0 := by
  obtain ⟨fee, row, -, -, rfl⟩ := exists_of_processBlock h
  exact ⟨rfl, rfl, rfl⟩

/-! ## Fees that depend on the header alone -/

/-- The fees without the rewards. -/
def ProcessedFees.market (fees : ProcessedFees) : ProcessedFees := { fees with reward := none }

/-- The fees of a block of which only the header was looked up. -/
def headerFees (config : ChainConfig) (header : Header) : Checked ProcessedFees :=
  processBlock config header none none []

/-- Without the rewards, the fees of a full block are those of its header. -/
theorem headerFees_eq_market {header : Header} {block : Option Block}
    {receipts : Option (List Receipt)} {percentiles : List Float} {fees : ProcessedFees}
    (h : processBlock config header block receipts percentiles = .ok fees) :
    headerFees config header = .ok fees.market := by
  obtain ⟨fee, row, hfee, -, rfl⟩ := exists_of_processBlock h
  rw [headerFees, processBlock, processBasis, hfee]
  rfl

end FeeMarket
