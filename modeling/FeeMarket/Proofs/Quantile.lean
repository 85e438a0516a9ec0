import FeeMarket.Proofs.BlockFees
import FeeMarket.Proofs.Reward

/-!
# Rewards are weighted quantiles

**Quantile** (`WeightedReward.Quantile`). The least reward in a block such that the transactions that
offer no more than it used as much gas as a threshold; the largest reward, if there is no such one.
It is said without an order of the transactions, so it is the same for every order of them.

**Standing** (`RewardCursor.StandsAfter`). A cursor over ascending rewards that was sent to some
thresholds stands at the first place where the gas used reaches the highest of them, or at the last
place. `StandsAfter.quantile` is the step from places to rewards: of equal rewards the cursor stands
at some one, and the gas of all of them counts.

Theorem (`rewards_are_quantiles`). In a row of rewards each is the quantile at the highest threshold so
far.
-/

namespace FeeMarket

namespace WeightedReward

variable {rewards rewards' : List WeightedReward} {threshold : Nat} {v v' : Wei}

/-! ## Gas -/

theorem gas_append (rewards rewards' : List WeightedReward) :
    gas (rewards ++ rewards') = gas rewards + gas rewards' := by
  rw [gas, List.map_append, List.sum_append]
  rfl

theorem gas_perm (h : rewards.Perm rewards') : gas rewards = gas rewards' :=
  (h.map fun r : WeightedReward => r.gasUsed.toNat).sum_nat

theorem gas_filter_le (p : WeightedReward → Bool) (rewards : List WeightedReward) :
    gas (rewards.filter p) ≤ gas rewards := by
  induction rewards with
  | nil => exact Nat.le_refl 0
  | cons r rest ih =>
    rw [List.filter_cons]
    split
    · exact Nat.add_le_add_left ih r.gasUsed.toNat
    · exact Nat.le_trans ih (Nat.le_add_left _ _)

/-- The gas that the transactions used that offer at most `v`. -/
def gasUpTo (rewards : List WeightedReward) (v : Wei) : Nat :=
  gas (rewards.filter fun r => decide (r.reward ≤ v))

theorem gasUpTo_perm (h : rewards.Perm rewards') (v : Wei) :
    gasUpTo rewards v = gasUpTo rewards' v := gas_perm (h.filter _)

/-! ## Quantiles -/

/-- The least reward up to which as much gas as a threshold was used, or the largest reward for lack
of one. -/
inductive Quantile (rewards : List WeightedReward) (threshold : Nat) : Wei → Prop
  | least {r} (occurs : r ∈ rewards) (reaches : threshold ≤ gasUpTo rewards r.reward)
      (least : ∀ s ∈ rewards, threshold ≤ gasUpTo rewards s.reward → r.reward ≤ s.reward) :
      Quantile rewards threshold r.reward
  | largest {r} (occurs : r ∈ rewards)
      (short : ∀ s ∈ rewards, gasUpTo rewards s.reward < threshold)
      (largest : ∀ s ∈ rewards, s.reward ≤ r.reward) :
      Quantile rewards threshold r.reward

namespace Quantile

theorem unique (h : Quantile rewards threshold v) (h' : Quantile rewards threshold v') :
    v = v' := by
  cases h with
  | least occurs reaches least =>
    cases h' with
    | least occurs' reaches' least' =>
      exact Wei.le_antisymm (least _ occurs' reaches') (least' _ occurs reaches)
    | largest _ short' _ => exact absurd (short' _ occurs) (Nat.not_lt.2 reaches)
  | largest occurs short largest =>
    cases h' with
    | least occurs' reaches' _ => exact absurd (short _ occurs') (Nat.not_lt.2 reaches')
    | largest occurs' _ largest' => exact Wei.le_antisymm (largest' _ occurs) (largest _ occurs')

theorem perm (hp : rewards.Perm rewards') (h : Quantile rewards threshold v) :
    Quantile rewards' threshold v := by
  have hgas := gasUpTo_perm hp
  cases h with
  | least occurs reaches least =>
    refine .least (hp.subset occurs) (hgas _ ▸ reaches) ?_
    intro s hs hreaches
    exact least s (hp.symm.subset hs) (by rwa [hgas])
  | largest occurs short largest =>
    refine .largest (hp.subset occurs) ?_ fun s hs => largest s (hp.symm.subset hs)
    intro s hs
    rw [← hgas]
    exact short s (hp.symm.subset hs)

end Quantile

end WeightedReward

/-! ## Where a cursor stands -/

namespace RewardCursor

open WeightedReward (gas gas_append gasUpTo gas_filter_le Quantile)

variable {rewards passed : List WeightedReward} {reach : Nat} {c d : RewardCursor}

/-- The cursor has passed some rewards on its way to the place where the gas used reaches `reach`. -/
structure StandsAfter (passed rewards : List WeightedReward) (reach : Nat) (c : RewardCursor) :
    Prop where
  split : rewards = passed ++ c.here :: c.ahead
  gasUsed : c.gasUsed.toNat = gas (passed ++ [c.here])
  /-- No place is passed where the gas used reaches as far. -/
  needed : passed = [] ∨ gas passed < reach
  reached : reach ≤ c.gasUsed.toNat ∨ c.ahead = []

theorem stands_start (first : WeightedReward) (ahead : List WeightedReward) :
    StandsAfter [] (first :: ahead) 0 ⟨first, first.gasUsed, ahead⟩ where
  split := rfl
  gasUsed := rfl
  needed := .inl rfl
  reached := .inl (Nat.zero_le _)

/-- A walk to a threshold ends where the gas used reaches as far as it did before, and the threshold.
While it goes on, the places that it passes are short of the threshold. -/
theorem seekFrom_stands {threshold : UInt64} {here : WeightedReward} {gasUsed : UInt64}
    {ahead : List WeightedReward} (split : rewards = passed ++ here :: ahead)
    (gasUsed_eq : gasUsed.toNat = gas (passed ++ [here]))
    (needed : passed = [] ∨ gas passed < max reach threshold.toNat)
    (reached : reach ≤ gasUsed.toNat ∨ ahead = [])
    (h : seekFrom threshold here gasUsed ahead = .ok d) :
    ∃ passed, StandsAfter passed rewards (max reach threshold.toNat) d := by
  induction ahead generalizing passed here gasUsed with
  | nil =>
    cases h
    exact ⟨passed, split, gasUsed_eq, needed, .inr rfl⟩
  | cons next ahead ih =>
    have hreach : reach ≤ gasUsed.toNat := reached.resolve_right (List.cons_ne_nil _ _)
    rw [seekFrom] at h
    split at h
    · rename_i hshort
      have hshort := UInt64.lt_iff_toNat_lt.1 hshort
      obtain ⟨sum, hsum, h⟩ := bind_eq_ok.1 h
      have hsum := Word.add_eq_ok.1 hsum
      have split' : rewards = (passed ++ [here]) ++ next :: ahead := by
        rw [split, List.append_assoc]
        rfl
      refine ih split' ?_ (.inr ?_) (.inl ?_) h
      · rw [gas_append, ← gasUsed_eq, ← hsum]
        rfl
      · rw [← gasUsed_eq]
        exact Nat.lt_of_lt_of_le hshort (Nat.le_max_right _ _)
      · omega
    · rename_i hfar
      have hfar := UInt64.le_iff_toNat_le.1 (UInt64.not_lt.1 hfar)
      cases h
      exact ⟨passed, split, gasUsed_eq, needed, .inl (Nat.max_le.2 ⟨hreach, hfar⟩)⟩

theorem StandsAfter.seek {threshold : UInt64} (hs : StandsAfter passed rewards reach c)
    (h : c.seek threshold = .ok d) :
    ∃ passed, StandsAfter passed rewards (max reach threshold.toNat) d :=
  seekFrom_stands hs.split hs.gasUsed
    (hs.needed.imp_right fun hlt => Nat.lt_of_lt_of_le hlt (Nat.le_max_left _ _)) hs.reached h

/-- **A cursor stands at the quantile.** -/
theorem StandsAfter.quantile (sorted : rewards.Pairwise fun a b => a.reward ≤ b.reward)
    (hs : StandsAfter passed rewards reach c) : Quantile rewards reach c.here.reward := by
  have hsplit : rewards = passed ++ [c.here] ++ c.ahead := by
    rw [hs.split, List.append_assoc]
    rfl
  have occurs : c.here ∈ rewards := by
    rw [hs.split]
    exact List.mem_append_right _ List.mem_cons_self
  obtain ⟨-, hahead, hpassed⟩ := List.pairwise_append.1 (hs.split ▸ sorted)
  have behind : ∀ s ∈ passed ++ [c.here], s.reward ≤ c.here.reward := by
    intro s hmem
    rcases List.mem_append.1 hmem with hmem | hmem
    · exact hpassed s hmem c.here List.mem_cons_self
    · rw [List.mem_singleton.1 hmem]
      exact Nat.le_refl _
  have onward : ∀ s ∈ c.here :: c.ahead, c.here.reward ≤ s.reward := by
    intro s hmem
    rcases List.mem_cons.1 hmem with rfl | hmem
    · exact Nat.le_refl _
    · exact (List.pairwise_cons.1 hahead).1 s hmem
  rcases Nat.lt_or_ge c.gasUsed.toNat reach with hshort | hfar
  · have hnil := hs.reached.resolve_left (Nat.not_le.2 hshort)
    have hall : rewards = passed ++ [c.here] := by rw [hsplit, hnil, List.append_nil]
    refine .largest occurs ?_ (hall ▸ behind)
    intro s _
    calc gasUpTo rewards s.reward ≤ gas rewards := gas_filter_le _ _
      _ = c.gasUsed.toNat := by rw [hall, ← hs.gasUsed]
      _ < reach := hshort
  · refine .least occurs ?_ ?_
    · calc reach ≤ gas (passed ++ [c.here]) := hs.gasUsed ▸ hfar
        _ = gas ((passed ++ [c.here]).filter fun r => decide (r.reward ≤ c.here.reward)) := by
          rw [List.filter_eq_self.2 fun s hmem => decide_eq_true (behind s hmem)]
        _ ≤ gasUpTo rewards c.here.reward := by
          rw [gasUpTo, hsplit, List.filter_append _ c.ahead, gas_append]
          exact Nat.le_add_right _ _
    · intro s hmem hreaches
      refine Decidable.byContradiction fun hless => ?_
      -- A smaller reward was passed, and so was all the gas up to it.
      have hlater : (c.here :: c.ahead).filter (fun r => decide (r.reward ≤ s.reward)) = [] := by
        refine List.filter_eq_nil_iff.2 fun t ht hle => hless ?_
        exact Wei.le_trans (onward t ht) (of_decide_eq_true hle)
      have hupTo : gasUpTo rewards s.reward ≤ gas passed := by
        rw [gasUpTo, hs.split, List.filter_append, hlater, List.append_nil]
        exact gas_filter_le _ _
      rcases hs.needed with rfl | hneeded
      · rw [hs.split] at hmem
        exact hless (onward s hmem)
      · omega

/-! ## Rows -/

/-- The highest of some thresholds. -/
def highest (thresholds : List UInt64) : Nat := (thresholds.map UInt64.toNat).foldr max 0

theorem highest_cons (threshold : UInt64) (rest : List UInt64) :
    highest (threshold :: rest) = max threshold.toNat (highest rest) := rfl

/-- The highest of ascending thresholds is the last one. -/
theorem highest_take {thresholds : List UInt64} (h : thresholds.Pairwise (· ≤ ·)) {i : Nat}
    {threshold : UInt64} (hi : thresholds[i]? = some threshold) :
    highest (thresholds.take (i + 1)) = threshold.toNat := by
  induction thresholds generalizing i with
  | nil => cases hi
  | cons first rest ih =>
    obtain ⟨hfirst, hrest⟩ := List.pairwise_cons.1 h
    rw [List.take_succ_cons, highest_cons]
    cases i with
    | zero =>
      cases hi
      exact Nat.max_eq_left (Nat.zero_le _)
    | succ i =>
      rw [ih hrest hi]
      exact Nat.max_eq_right
        (UInt64.le_iff_toNat_le.1 (hfirst threshold (List.mem_of_getElem? hi)))

theorem rewards_quantile (sorted : rewards.Pairwise fun a b => a.reward ≤ b.reward)
    {thresholds : List UInt64} {row : List Wei} (hs : StandsAfter passed rewards reach c)
    (h : c.rewards thresholds = .ok row) {i : Nat} {v : Wei} (hv : row[i]? = some v) :
    Quantile rewards (max reach (highest (thresholds.take (i + 1)))) v := by
  induction thresholds generalizing passed reach c row i with
  | nil =>
    cases h
    cases hv
  | cons threshold rest ih =>
    rw [RewardCursor.rewards] at h
    obtain ⟨d, hseek, h⟩ := bind_eq_ok.1 h
    obtain ⟨later, hlater, h⟩ := bind_eq_ok.1 h
    cases h
    obtain ⟨passed', hd⟩ := hs.seek hseek
    cases i with
    | zero =>
      cases hv
      have hhighest : highest ((threshold :: rest).take 1) = threshold.toNat :=
        Nat.max_zero threshold.toNat
      rw [hhighest]
      exact hd.quantile sorted
    | succ i =>
      rw [List.take_succ_cons, highest_cons, ← Nat.max_assoc]
      exact ih hd hlater hv

end RewardCursor

open RewardCursor (highest)

open WeightedReward (Quantile)

variable {blockGasUsed : UInt64} {transactions transactions' : List Transaction}
  {receipts receipts' : List Receipt} {percentiles : List Float} {row : List Wei}

theorem rewardPercentiles_quantile (hne : transactions ≠ [])
    (h : rewardPercentiles blockGasUsed transactions receipts percentiles = .ok row) {i : Nat}
    {v : Wei} (hv : row[i]? = some v) :
    Quantile (List.zipWith WeightedReward.of transactions receipts)
      (highest ((percentiles.take (i + 1)).map (gasThreshold blockGasUsed))) v := by
  rw [rewardPercentiles, if_neg (by simpa using hne)] at h
  cases hascending : WeightedReward.ascending transactions receipts with
  | nil => simp [hascending] at h
  | cons first ahead =>
    simp only [hascending] at h
    have sorted := WeightedReward.ascending_pairwise transactions receipts
    rw [hascending] at sorted
    have hquantile :=
      RewardCursor.rewards_quantile sorted (RewardCursor.stands_start first ahead) h hv
    rw [Nat.zero_max, ← List.map_take, ← hascending] at hquantile
    exact hquantile.perm (List.mergeSort_perm _ _)

theorem row_eq_of_perm {row' : List Wei} (hne : transactions ≠ []) (hne' : transactions' ≠ [])
    (hp : (transactions.zip receipts).Perm (transactions'.zip receipts'))
    (h : rewardPercentiles blockGasUsed transactions receipts percentiles = .ok row)
    (h' : rewardPercentiles blockGasUsed transactions' receipts' percentiles = .ok row') :
    row = row' := by
  have hoffers := hp.map (Function.uncurry WeightedReward.of)
  rw [List.map_uncurry_zip_eq_zipWith, List.map_uncurry_zip_eq_zipWith] at hoffers
  have hlength := (rewardPercentiles_row h).1
  have hlength' := (rewardPercentiles_row h').1
  apply List.ext_getElem (hlength.trans hlength'.symm)
  intro i hi hi'
  have hv := rewardPercentiles_quantile hne h (List.getElem?_eq_getElem hi)
  have hv' := rewardPercentiles_quantile hne' h' (List.getElem?_eq_getElem hi')
  exact (hv.perm hoffers).unique hv'

/-- Where thresholds ascend, those before a percentile do not matter for its reward. -/
theorem reward_eq_alone {p : Float} {i : Nat} {v w : Wei} (hne : transactions ≠ [])
    (ascend : (percentiles.map (gasThreshold blockGasUsed)).Pairwise (· ≤ ·))
    (h : rewardPercentiles blockGasUsed transactions receipts percentiles = .ok row)
    (hp : percentiles[i]? = some p) (hv : row[i]? = some v)
    (alone : rewardPercentiles blockGasUsed transactions receipts [p] = .ok [w]) : v = w := by
  have hthreshold : (percentiles.map (gasThreshold blockGasUsed))[i]? =
      some (gasThreshold blockGasUsed p) := by
    rw [List.getElem?_map, hp, Option.map_some]
  have hquantile := rewardPercentiles_quantile hne h hv
  rw [List.map_take, RewardCursor.highest_take ascend hthreshold] at hquantile
  have hhighest : highest (([p].take 1).map (gasThreshold blockGasUsed)) =
      (gasThreshold blockGasUsed p).toNat := Nat.max_zero _
  have hquantile' := rewardPercentiles_quantile hne alone (i := 0) rfl
  rw [hhighest] at hquantile'
  exact hquantile.unique hquantile'

theorem gasOf_perm (h : receipts.Perm receipts') : gasOf receipts = gasOf receipts' :=
  (h.map fun r : Receipt => r.gasUsed.toNat).sum_nat

/-- What a row of rewards is. -/
structure QuantileRow (blockGasUsed : UInt64) (transactions : List Transaction)
    (receipts : List Receipt) (percentiles : List Float) (row : List Wei) : Prop where
  length : row.length = percentiles.length
  quantile : ∀ {i : Nat} {v}, row[i]? = some v →
    Quantile (List.zipWith WeightedReward.of transactions receipts)
      (highest ((percentiles.take (i + 1)).map (gasThreshold blockGasUsed))) v
  /-- If the thresholds ascend, each percentile has the reward that it has alone. -/
  alone : (percentiles.map (gasThreshold blockGasUsed)).Pairwise (· ≤ ·) →
    ∀ {i : Nat} {p v}, percentiles[i]? = some p → row[i]? = some v →
      rewardPercentiles blockGasUsed transactions receipts [p] = .ok [v]
  ascends : row.Pairwise (· ≤ ·)
  /-- Transactions that change places, each with its receipt, have the same row. -/
  permuted : ∀ {transactions' receipts'}, receipts'.length = transactions'.length →
    (transactions.zip receipts).Perm (transactions'.zip receipts') →
      rewardPercentiles blockGasUsed transactions' receipts' percentiles = .ok row

theorem quantileRow_of_rewardPercentiles (hne : transactions ≠ [])
    (hlength : receipts.length = transactions.length) (hgas : gasOf receipts < UInt64.size)
    (h : rewardPercentiles blockGasUsed transactions receipts percentiles = .ok row) :
    QuantileRow blockGasUsed transactions receipts percentiles row where
  length := (rewardPercentiles_row h).1
  quantile := rewardPercentiles_quantile hne h
  alone := by
    intro ascend i p v hp hv
    obtain ⟨single, hsingle⟩ := rewardPercentiles_total blockGasUsed [p] hlength hgas
    obtain ⟨w, rfl⟩ := List.length_eq_one_iff.1 (rewardPercentiles_row hsingle).1
    rw [hsingle, reward_eq_alone hne ascend h hp hv hsingle]
  ascends := (rewardPercentiles_row h).2
  permuted := by
    intro transactions' receipts' hlength' hp
    have hreceipts : receipts.Perm receipts' := by
      have hsecond := hp.map Prod.snd
      rwa [List.map_snd_zip (Nat.le_of_eq hlength), List.map_snd_zip (Nat.le_of_eq hlength')]
        at hsecond
    have hne' : transactions' ≠ [] := by
      rw [← List.length_pos_iff, ← hlength', ← hreceipts.length_eq, hlength, List.length_pos_iff]
      exact hne
    obtain ⟨row', h'⟩ := rewardPercentiles_total blockGasUsed percentiles hlength'
      (gasOf_perm hreceipts ▸ hgas)
    rw [h', row_eq_of_perm hne hne' hp h h']

/-- **Rewards are quantiles.** Every block with one receipt for each of its transactions has a row of
them, if all gas together is a word. A block without transactions has zeros. -/
theorem rewards_are_quantiles (blockGasUsed : UInt64) (percentiles : List Float) :
    (∀ {transactions receipts}, transactions ≠ [] → receipts.length = transactions.length →
      gasOf receipts < UInt64.size →
        ∃ row, rewardPercentiles blockGasUsed transactions receipts percentiles = .ok row ∧
          QuantileRow blockGasUsed transactions receipts percentiles row) ∧
    ∀ receipts, rewardPercentiles blockGasUsed [] receipts percentiles =
      .ok (List.replicate percentiles.length 0) := by
  refine ⟨?_, fun receipts => congrArg Except.ok List.map_const'⟩
  intro transactions receipts hne hlength hgas
  obtain ⟨row, h⟩ := rewardPercentiles_total blockGasUsed percentiles hlength hgas
  exact ⟨row, h, quantileRow_of_rewardPercentiles hne hlength hgas h⟩

/-- Four transactions in ascending order. Two of them declare the same gas, and one of these used
none. -/
def tiedTransactions : List Transaction :=
  [⟨.ofNat 1, 20⟩, ⟨.ofNat 2, 20⟩, ⟨.ofNat 3, 50⟩, ⟨.ofNat 4, 70⟩]

/-- The receipts of the tied transactions. -/
def tiedReceipts : List Receipt :=
  [⟨.ofNat 1, 0⟩, ⟨.ofNat 2, 10⟩, ⟨.ofNat 3, 5⟩, ⟨.ofNat 4, 5⟩]

/-- The percentiles are not in order, so the second is at the threshold of the first. -/
theorem tied_rewards_are_quantiles :
    tiedTransactions ≠ [] ∧ tiedReceipts.length = tiedTransactions.length ∧
      gasOf tiedReceipts < UInt64.size ∧
      QuantileRow 20 tiedTransactions tiedReceipts [60, 10, 100]
        [.ofWord 50, .ofWord 50, .ofWord 70] ∧
      rewardPercentiles 20 tiedTransactions.reverse tiedReceipts.reverse [60, 10, 100] =
        .ok [.ofWord 50, .ofWord 50, .ofWord 70] := by
  have hne : tiedTransactions ≠ [] := by decide
  have hascending : WeightedReward.ascending tiedTransactions tiedReceipts =
      [⟨.ofWord 20, 0⟩, ⟨.ofWord 20, 10⟩, ⟨.ofWord 50, 5⟩, ⟨.ofWord 70, 5⟩] :=
    List.mergeSort_of_pairwise (by decide)
  have computed : (rewardPercentiles 20 tiedTransactions tiedReceipts [60, 10, 100]).toOption =
      some [.ofWord 50, .ofWord 50, .ofWord 70] := by
    rw [rewardPercentiles, hascending]
    decide +kernel
  have hlength : tiedReceipts.length = tiedTransactions.length := rfl
  obtain ⟨row, h, quantiles⟩ :=
    (rewards_are_quantiles 20 [60, 10, 100]).1 hne hlength (by decide)
  rw [h] at computed
  obtain rfl : row = [.ofWord 50, .ofWord 50, .ofWord 70] := Option.some.inj computed
  exact ⟨hne, hlength, by decide, quantiles, quantiles.permuted rfl (by decide +kernel)⟩

end FeeMarket
