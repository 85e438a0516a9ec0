import FeeMarket.Estimate
import FeeMarket.Proofs.FeeHistory
import FeeMarket.Proofs.Reward

/-!
# Guarded arithmetic

The fee market takes differences of words, looks into lists by place and divides by counts, and does
not always say why it may. Here every such operation is checked: a difference below zero, a place
that a list does not have and a count of zero are faults. What comes before the operation always
rules them out, so the checked computations come to the same.

**Base fee** (`nextBaseFee_eq`). The gas used and the target are compared before one is taken from
the other.

**Rewards** (`rewardPercentiles_eq`). The walk over the rewards by place is the walk of the cursor:
the place is where the rest of the list begins with the cursor (`seek_eq`).

**Slots** (`slots_eq`). Every number that is received is at least the oldest one. The number of the
first block that is missing is a word if there is room above the range (`firstMissing_eq`).

**Estimate** (`ofHistory_eq`). There is a first row before there is a mean.
-/

namespace FeeMarket

namespace Guarded

/-- The entry at a place of a list. -/
def entry {α : Type} (l : List α) (place : Nat) : Checked α :=
  match l[place]? with
  | some a => .ok a
  | none => .error .indexOutOfBounds

/-- The quotient of an amount by a count. -/
def quotient (a : Wei) (n : Nat) : Checked Wei :=
  if n = 0 then .error .divisionByZero else .ok (a.div n)

/-! ## The base fee -/

/-- The base fee of the block that follows `parent`, with checked differences. -/
def nextBaseFee (config : ChainConfig) (parent : Header) : Checked Wei :=
  if config.active parent.number then do
    let baseFee := parent.baseFeeOrZero
    let target ← Word.div parent.gasLimit config.elasticity
    if parent.gasUsed = target then return baseFee
    else if target = 0 then return baseFee + 1
    else if target < parent.gasUsed then
      let distance ← Word.sub parent.gasUsed target
      let delta ← baseFeeDelta config baseFee distance target
      return baseFee + max delta 1
    else
      let distance ← Word.sub target parent.gasUsed
      let delta ← baseFeeDelta config baseFee distance target
      return baseFee - delta
  else .ok initialBaseFee

theorem nextBaseFee_eq (config : ChainConfig) (parent : Header) :
    nextBaseFee config parent = FeeMarket.nextBaseFee config parent := by
  unfold nextBaseFee FeeMarket.nextBaseFee
  cases config.active parent.number with
  | false => rfl
  | true =>
    simp only [if_true]
    cases Word.div parent.gasLimit config.elasticity with
    | error fault => rfl
    | ok target =>
      by_cases hmore : target < parent.gasUsed
      · have hsub : Word.sub parent.gasUsed target = .ok (parent.gasUsed - target) :=
          if_pos (UInt64.le_of_lt hmore)
        simp only [bind, Except.bind, if_pos hmore, hsub]
      · have hsub : Word.sub target parent.gasUsed = .ok (target - parent.gasUsed) :=
          if_pos (UInt64.not_lt.1 hmore)
        simp only [bind, Except.bind, if_neg hmore, hsub]

/-! ## Rewards -/

/-- Advances from a place until the gas used reaches a threshold or the last place is reached. -/
def seek (sorted : List WeightedReward) (threshold : UInt64) (place : Nat) (gasUsed : UInt64) :
    Checked (Nat × UInt64) :=
  if gasUsed < threshold then
    if sorted.length = 0 then .error .overflow
    else if place < sorted.length - 1 then do
      let next ← entry sorted (place + 1)
      let gasUsed ← Word.add gasUsed next.gasUsed
      seek sorted threshold (place + 1) gasUsed
    else .ok (place, gasUsed)
  else .ok (place, gasUsed)
termination_by sorted.length - place

/-- The rewards at each threshold, one after the other. -/
def rewards (sorted : List WeightedReward) (place : Nat) (gasUsed : UInt64) :
    List UInt64 → Checked (List Wei)
  | [] => .ok []
  | threshold :: rest => do
    let (place, gasUsed) ← seek sorted threshold place gasUsed
    let here ← entry sorted place
    let later ← rewards sorted place gasUsed rest
    return here.reward :: later

/-- The reward at each percentile, looked up by place. -/
def rewardPercentiles (blockGasUsed : UInt64) (transactions : List Transaction)
    (receipts : List Receipt) (percentiles : List Float) : Checked (List Wei) :=
  if transactions.isEmpty then .ok (percentiles.map fun _ => 0)
  else do
    let sorted := WeightedReward.ascending transactions receipts
    let first ← entry sorted 0
    rewards sorted 0 first.gasUsed (percentiles.map (gasThreshold blockGasUsed))

theorem entry_of_drop {α : Type} {l : List α} {place : Nat} {a : α} {rest : List α}
    (h : l.drop place = a :: rest) : entry l place = .ok a := by
  have hget : l[place]? = some a := by
    rw [← List.head?_drop, h, List.head?_cons]
  rw [entry, hget]

/-- The place of the cursor is where the rest of the list begins with it. -/
theorem seek_eq {sorted : List WeightedReward} {place : Nat} {threshold gasUsed : UInt64}
    {here : WeightedReward} {ahead : List WeightedReward} (h : sorted.drop place = here :: ahead) :
    seek sorted threshold place gasUsed =
      (RewardCursor.seekFrom threshold here gasUsed ahead).map fun c =>
        (sorted.length - (c.here :: c.ahead).length, c.gasUsed) := by
  induction ahead generalizing place here gasUsed with
  | nil =>
    have hlength := congrArg List.length h
    rw [List.length_drop, List.length_singleton] at hlength
    rw [seek]
    split
    · rw [if_neg (by omega), if_neg (by omega)]
      simp only [RewardCursor.seekFrom, Except.map, List.length_singleton]
      rw [show place = sorted.length - 1 by omega]
    · simp only [RewardCursor.seekFrom, Except.map, List.length_singleton]
      rw [show place = sorted.length - 1 by omega]
  | cons next ahead ih =>
    have hlength := congrArg List.length h
    rw [List.length_drop, List.length_cons, List.length_cons] at hlength
    have hnext : sorted.drop (place + 1) = next :: ahead := by
      rw [← List.drop_drop, h, List.drop_one, List.tail_cons]
    rw [seek, RewardCursor.seekFrom]
    split
    · rw [if_neg (by omega), if_pos (by omega), entry_of_drop hnext]
      show (do
        let gasUsed ← Word.add gasUsed next.gasUsed
        seek sorted threshold (place + 1) gasUsed) = _
      cases Word.add gasUsed next.gasUsed with
      | error fault => rfl
      | ok sum => exact ih hnext
    · simp only [Except.map, List.length_cons]
      rw [show place = sorted.length - (ahead.length + 1 + 1) by omega]

theorem rewards_eq {sorted : List WeightedReward} {place : Nat} {c : RewardCursor}
    (thresholds : List UInt64) (h : sorted.drop place = c.here :: c.ahead) :
    rewards sorted place c.gasUsed thresholds = c.rewards thresholds := by
  induction thresholds generalizing place c with
  | nil => rfl
  | cons threshold rest ih =>
    rw [rewards, RewardCursor.rewards, RewardCursor.seek, seek_eq h]
    cases hseek : RewardCursor.seekFrom threshold c.here c.gasUsed c.ahead with
    | error fault => rfl
    | ok d =>
      have hsuffix : d.here :: d.ahead <:+ sorted := by
        have hrest : c.here :: c.ahead <:+ sorted := h ▸ List.drop_suffix place sorted
        exact (RewardCursor.seekFrom_suffix hseek).trans hrest
      have hdrop := (List.suffix_iff_eq_drop.1 hsuffix).symm
      show (do
        let here ← entry sorted (sorted.length - (d.here :: d.ahead).length)
        let later ← rewards sorted (sorted.length - (d.here :: d.ahead).length) d.gasUsed rest
        return here.reward :: later) = (do
        let later ← d.rewards rest
        return d.here.reward :: later)
      rw [entry_of_drop hdrop, ih hdrop]
      rfl

theorem rewardPercentiles_eq (blockGasUsed : UInt64) (transactions : List Transaction)
    (receipts : List Receipt) (percentiles : List Float) :
    rewardPercentiles blockGasUsed transactions receipts percentiles =
      FeeMarket.rewardPercentiles blockGasUsed transactions receipts percentiles := by
  unfold rewardPercentiles FeeMarket.rewardPercentiles
  split
  · rfl
  · cases hsorted : WeightedReward.ascending transactions receipts with
    | nil => rfl
    | cons first ahead =>
      exact rewards_eq (c := ⟨first, first.gasUsed, ahead⟩) _ rfl

/-! ## Blocks -/

/-- The base fee projected for the block after `h`. -/
def projectedBaseFee (config : ChainConfig) (h : Header) : Checked Wei :=
  if config.active (Word.addUpTo h.number 1) then nextBaseFee config h else .ok 0

/-- The rewards that a basis gives. -/
def basisRewards (basis : RewardBasis) (percentiles : List Float) : Checked (Option (List Wei)) :=
  match basis with
  | .present block receipts => do
    let row ← rewardPercentiles block.gasUsed block.transactions receipts percentiles
    return some row
  | _ => .ok none

/-- The fees of a block. -/
def processBlock (config : ChainConfig) (header : Header) (block : Option Block)
    (receipts : Option (List Receipt)) (percentiles : List Float) : Checked ProcessedFees := do
  let projected ← projectedBaseFee config header
  let reward ← basisRewards (.of block receipts percentiles) percentiles
  return ⟨reward, header.baseFeeOrZero, projected, header.gasUsedRatio, 0, 0, 0⟩

theorem basisRewards_eq (basis : RewardBasis) (percentiles : List Float) :
    basisRewards basis percentiles = basis.rewards percentiles := by
  cases basis with
  | notRequested | blockMissing | receiptsMissing => rfl
  | present block receipts =>
    rw [basisRewards, rewardPercentiles_eq]
    rfl

theorem processBlock_eq (config : ChainConfig) (header : Header) (block : Option Block)
    (receipts : Option (List Receipt)) (percentiles : List Float) :
    processBlock config header block receipts percentiles =
      FeeMarket.processBlock config header block receipts percentiles := by
  rw [processBlock, projectedBaseFee, nextBaseFee_eq, basisRewards_eq]
  rfl

/-! ## Slots -/

/-- Puts the fees of a deposit into the slot of its number. -/
def place (oldest : UInt64) (slots : List (Option ProcessedFees)) (d : Deposit) :
    Checked (List (Option ProcessedFees)) := do
  let index ← Word.sub d.number oldest
  return slots.set index.toNat d.fees?

/-- The slots of a range after some deposits. -/
def slots (oldest : UInt64) (count : Nat) (deposits : List Deposit) :
    Checked (List (Option ProcessedFees)) :=
  deposits.foldlM (place oldest) (List.replicate count none)

theorem slots_eq {oldest : UInt64} (count : Nat) {deposits : List Deposit}
    (h : ∀ d ∈ deposits, oldest ≤ d.number) :
    slots oldest count deposits = .ok (FeeHistory.slots oldest count deposits) := by
  unfold slots FeeHistory.slots
  generalize List.replicate count (none : Option ProcessedFees) = s
  induction deposits generalizing s with
  | nil => rfl
  | cons d deposits ih =>
    have hsub : Word.sub d.number oldest = .ok (d.number - oldest) :=
      if_pos (h d List.mem_cons_self)
    rw [List.foldlM_cons, place, hsub]
    exact ih (fun x hx => h x (List.mem_cons_of_mem d hx)) _

/-- The number of the first block that is missing. -/
def firstMissing (oldest : UInt64) (slots : List (Option ProcessedFees)) : Checked UInt64 :=
  Word.add oldest (UInt64.ofNat (FeeHistory.leading slots).length)

theorem firstMissing_eq {oldest : UInt64} {slots : List (Option ProcessedFees)}
    (room : oldest.toNat + slots.length < UInt64.size) :
    firstMissing oldest slots =
      .ok (oldest + UInt64.ofNat (FeeHistory.leading slots).length) := by
  have hlength := FeeHistory.length_leading_le slots
  refine Word.add_eq_ok.2 ?_
  rw [toNat_add_ofNat (by omega), UInt64.toNat_ofNat_of_lt' (by omega)]

/-! ## Estimates -/

/-- A computation that gives a value, an error or a fault. -/
abbrev Estimating := ExceptT EstimateError Checked

/-- An error or a value, and no fault. -/
def given {α : Type} (x : Except EstimateError α) : Estimating α := ExceptT.mk (.ok x)

/-- The mean of a column of the rows. -/
def columnMean (rows : List (List Wei)) (column : Nat) : Estimating Wei := do
  let sum ← given (FeesEstimate.columnSum column 0 rows)
  quotient sum rows.length

/-- The fees suggested after a history. -/
def ofHistory (h : FeeHistory) : Estimating FeesEstimate := do
  let baseFee ← given (EstimateError.missingBaseFees.unless h.baseFeePerGas.getLast?)
  let blobFee ← given (EstimateError.missingBlobFees.unless h.baseFeePerBlobGas.getLast?)
  let reward ← given (EstimateError.missingRewards.unless h.reward)
  let rows := reward.filter fun row => !row.isEmpty
  let first ← given (EstimateError.missingRewards.unless rows.head?)
  let fees ← (List.range first.length).mapM (columnMean rows)
  return ⟨baseFee, fees, blobFee⟩

theorem given_bind {α β : Type} (x : Except EstimateError α) {f : α → Estimating β}
    {g : α → Except EstimateError β} (h : ∀ a, x = .ok a → f a = given (g a)) :
    given x >>= f = given (x >>= g) := by
  cases x with
  | error e => rfl
  | ok a => exact h a rfl

theorem mapM_given {α β : Type} {f : α → Estimating β} {g : α → Except EstimateError β}
    (h : ∀ a, f a = given (g a)) (l : List α) : l.mapM f = given (l.mapM g) := by
  induction l with
  | nil => rfl
  | cons a l ih =>
    rw [List.mapM_cons, List.mapM_cons, h a, ih]
    exact given_bind _ fun b _ => given_bind _ fun bs _ => rfl

theorem columnMean_eq {rows : List (List Wei)} (h : rows ≠ []) (column : Nat) :
    columnMean rows column = given (FeesEstimate.columnMean rows column) := by
  refine given_bind _ fun sum _ => ?_
  rw [quotient, if_neg fun hzero => h (List.length_eq_zero_iff.1 hzero)]
  rfl

theorem ofHistory_eq (h : FeeHistory) : ofHistory h = given (FeesEstimate.ofHistory h) := by
  refine given_bind _ fun baseFee _ => given_bind _ fun blobFee _ => given_bind _ fun reward _ =>
    given_bind _ fun first hfirst => ?_
  have hrows : reward.filter (fun row => !row.isEmpty) ≠ [] := by
    intro hnil
    rw [hnil] at hfirst
    cases hfirst
  rw [mapM_given (columnMean_eq hrows)]
  exact given_bind _ fun fees _ => rfl

end Guarded

end FeeMarket
