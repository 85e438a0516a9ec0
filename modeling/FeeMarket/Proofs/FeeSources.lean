import FeeMarket.Proofs.BlockFees
import FeeMarket.Proofs.Reward

/-!
# What the fees of a block come from

**Rewards** (`ProcessedFees.RewardedFrom`). There are rewards just if percentiles are asked for, the
block is at hand, and none of its transactions lacks its receipt. There is then one for each
percentile: what a transaction of the block declares as gas, or zero if there is no transaction.

**Market** (`ProcessedFees.MarketOf`). All other fees come from the parameters and the header. The
base fee of the next block is projected by the rule if the next block has a fee market, and is zero
otherwise; and the next block of the last number has a fee market if there is one at all.

So two calls for one header agree on all fees but the rewards, whatever block, receipts and
percentiles they are given (`fees_sourced`). What a query makes of headers alone is therefore what it
makes of full blocks.
-/

namespace FeeMarket

variable {config : ChainConfig} {header : Header} {block : Option Block}
  {receipts : Option (List Receipt)} {percentiles : List Float} {fees : ProcessedFees}

/-! ## Rewards -/

/-- There is one receipt for each transaction, or no transaction. -/
def Block.Receipted (block : Block) (receipts : Option (List Receipt)) : Prop :=
  block.transactions = [] ∨ ∃ rs, receipts = some rs ∧ rs.length = block.transactions.length

theorem Block.not_unreceipted_iff {block : Block} :
    ¬ block.Unreceipted receipts ↔ block.Receipted receipts := by
  unfold Unreceipted Receipted
  by_cases hempty : block.transactions = []
  · simp [hempty]
  · simp [hempty]

/-- What there is of rewards, by what they are computed from. -/
structure ProcessedFees.RewardedFrom (block : Option Block) (receipts : Option (List Receipt))
    (percentiles : List Float) (fees : ProcessedFees) : Prop where
  isSome_iff : fees.reward.isSome ↔
    percentiles ≠ [] ∧ ∃ b, block = some b ∧ b.Receipted receipts
  length : ∀ {row}, fees.reward = some row → row.length = percentiles.length
  /-- A reward is what a transaction declares, or zero for lack of one. -/
  declared : ∀ {row b}, fees.reward = some row → block = some b → ∀ r ∈ row,
    if b.transactions = [] then r = 0 else ∃ t ∈ b.transactions, r = .ofWord t.gas

namespace RewardBasis

theorem isSome_rewards_iff {row? : Option (List Wei)}
    (h : (of block receipts percentiles).rewards percentiles = .ok row?) :
    row?.isSome ↔ percentiles ≠ [] ∧ ∃ b, block = some b ∧ b.Receipted receipts := by
  by_cases asked : percentiles = []
  · subst asked
    cases h
    simp
  cases block with
  | none =>
    have hof : of none receipts percentiles = .blockMissing := by simp [of, asked]
    rw [hof] at h
    cases h
    simp
  | some b =>
    rcases rewards_row asked h with ⟨rfl, hmissing⟩ | ⟨row, rfl, -, -, hpresent⟩
    · have hlacks : ¬ b.Receipted receipts := fun hb => Block.not_unreceipted_iff.2 hb hmissing
      simp [hlacks]
    · simp [asked, Block.not_unreceipted_iff.1 hpresent]

theorem exists_of_rewards_of {row : List Wei}
    (h : (of block receipts percentiles).rewards percentiles = .ok (some row)) :
    ∃ b rs, block = some b ∧
      rewardPercentiles b.gasUsed b.transactions rs percentiles = .ok row := by
  obtain ⟨b, rs, hof, hrow⟩ := exists_of_rewards h
  refine ⟨b, rs, ?_, hrow⟩
  by_cases asked : percentiles = []
  · simp [of, asked] at hof
  cases block with
  | none => simp [of, asked] at hof
  | some b' =>
    rcases of_some asked with ⟨transactions, count, hmissing, -⟩ | ⟨rs', hpresent, -⟩
    · cases hof.symm.trans hmissing
    · cases hof.symm.trans hpresent
      rfl

end RewardBasis

theorem rewardedFrom_of_processBlock
    (h : processBlock config header block receipts percentiles = .ok fees) :
    fees.RewardedFrom block receipts percentiles := by
  obtain ⟨fee, row?, -, hrewards, rfl⟩ := exists_of_processBlock h
  refine ⟨RewardBasis.isSome_rewards_iff hrewards, ?_, ?_⟩
  · rintro row rfl
    obtain ⟨b, rs, -, hrow⟩ := RewardBasis.exists_of_rewards_of hrewards
    exact (rewardPercentiles_row hrow).1
  · rintro row b rfl rfl r hr
    obtain ⟨_, rs, ⟨⟩, hrow⟩ := RewardBasis.exists_of_rewards_of hrewards
    split
    · rename_i hempty
      rcases rewardPercentiles_declared hrow hr with ⟨-, hzero⟩ | ⟨t, ht, -⟩
      · exact hzero
      · rw [hempty] at ht
        cases ht
    · rename_i hne
      rcases rewardPercentiles_declared hrow hr with ⟨hempty, -⟩ | hdeclared
      · exact absurd hempty hne
      · exact hdeclared

/-! ## All other fees -/

theorem ChainConfig.active_next_iff (config : ChainConfig) (number : UInt64) :
    config.active (Word.addUpTo number 1) = true ↔
      ∃ fork, config.forkBlock = some fork ∧ fork.toNat ≤ number.toNat + 1 := by
  unfold active
  cases config.forkBlock with
  | none => simp
  | some fork =>
    have hword := fork.toNat_lt
    simp only [decide_eq_true_eq, UInt64.le_iff_toNat_le, Word.addUpTo, Word.toNat_saturate,
      UInt64.toNat_one, UInt64.size, Option.some.injEq, exists_eq_left']
    omega

/-- The fees other than the rewards, by the parameters and the header. -/
structure ProcessedFees.MarketOf (config : ChainConfig) (header : Header) (fees : ProcessedFees) :
    Prop where
  baseFee : fees.baseFee = header.baseFeeOrZero
  /-- The fee market has started when the next block comes. -/
  projected : ∀ fork, config.forkBlock = some fork → fork.toNat ≤ header.number.toNat + 1 →
    FeeMarket.nextBaseFee config header = .ok fees.nextBaseFee
  unprojected : (∀ fork, config.forkBlock = some fork → header.number.toNat + 1 < fork.toNat) →
    fees.nextBaseFee = 0
  gasUsedRatio : fees.gasUsedRatio = header.gasUsedRatio
  blobFees : fees.blobBaseFee = 0 ∧ fees.nextBlobBaseFee = 0 ∧ fees.blobGasUsedRatio = 0

theorem marketOf_of_processBlock
    (h : processBlock config header block receipts percentiles = .ok fees) :
    fees.MarketOf config header := by
  obtain ⟨fee, row?, hfee, -, rfl⟩ := exists_of_processBlock h
  refine ⟨rfl, ?_, ?_, rfl, rfl, rfl, rfl⟩
  · intro fork hfork hle
    have active := (config.active_next_iff header.number).2 ⟨fork, hfork, hle⟩
    rwa [projectedBaseFee, if_pos active] at hfee
  · intro before
    have inactive : ¬ config.active (Word.addUpTo header.number 1) = true := by
      rw [config.active_next_iff]
      rintro ⟨fork, hfork, hle⟩
      exact Nat.not_le_of_lt (before fork hfork) hle
    rw [projectedBaseFee, if_neg inactive] at hfee
    exact (Except.ok.inj hfee).symm

/-- **Sources of fees.** The fees of a block exist; its rewards come from the block, its receipts and
the percentiles; and what else there is comes from the header, so that no other call for the header
has it otherwise. -/
theorem fees_sourced (valid : config.Valid) (header : Header) (block : Option Block)
    (percentiles : List Float) (metered : ∀ rs, receipts = some rs → gasOf rs < UInt64.size) :
    ∃ fees, processBlock config header block receipts percentiles = .ok fees ∧
      fees.RewardedFrom block receipts percentiles ∧ fees.MarketOf config header ∧
      ∀ block' receipts' percentiles' fees',
        processBlock config header block' receipts' percentiles' = .ok fees' →
        fees'.market = fees.market := by
  obtain ⟨fees, hfees⟩ := processBlock_total valid header block percentiles metered
  refine ⟨fees, hfees, rewardedFrom_of_processBlock hfees, marketOf_of_processBlock hfees, ?_⟩
  intro block' receipts' percentiles' fees' hfees'
  have hmarket := headerFees_eq_market hfees
  have hmarket' := headerFees_eq_market hfees'
  exact Except.ok.inj (hmarket'.symm.trans hmarket)

/-- The header of the last block before a fork. -/
def lastUnforked : Header := ⟨6, 0, 30000000, 21000, none⟩

/-- A block without transactions has rewards of zero, whatever receipts come with it, and the fork
that follows it projects the initial base fee. -/
theorem fees_sourced_before_fork :
    ∃ fees, processBlock { forkBlock := some 7 } lastUnforked (some ⟨lastUnforked, []⟩)
        (some [⟨0, 21000⟩]) [10, 90] = .ok fees ∧
      fees.RewardedFrom (some ⟨lastUnforked, []⟩) (some [⟨0, 21000⟩]) [10, 90] ∧
      fees.reward = some [0, 0] ∧ fees.nextBaseFee = initialBaseFee ∧
      ∀ fees', headerFees { forkBlock := some 7 } lastUnforked = .ok fees' →
        fees'.market = fees.market := by
  have valid : ChainConfig.Valid { forkBlock := some 7 } := ⟨by decide, by decide⟩
  have metered : ∀ rs, some [(⟨0, 21000⟩ : Receipt)] = some rs → gasOf rs < UInt64.size := by
    rintro rs ⟨⟩
    decide
  obtain ⟨fees, hfees, rewarded, market, agree⟩ :=
    fees_sourced valid lastUnforked (some ⟨lastUnforked, []⟩) [10, 90] metered
  obtain ⟨row, hrow⟩ := Option.isSome_iff_exists.1
    (rewarded.isSome_iff.2 ⟨by decide, _, rfl, .inl rfl⟩)
  have hlength : row.length = 2 := rewarded.length hrow
  have hzero : ∀ r ∈ row, r = 0 := rewarded.declared hrow rfl
  obtain rfl : row = [0, 0] := List.eq_replicate_iff.2 ⟨hlength, hzero⟩
  refine ⟨fees, hfees, rewarded, hrow, ?_, agree none none []⟩
  exact (Except.ok.inj (market.projected 7 rfl (by decide))).symm

end FeeMarket
