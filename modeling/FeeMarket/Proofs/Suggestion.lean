import FeeMarket.Proofs.Deposits
import FeeMarket.Proofs.Estimate
import FeeMarket.Proofs.Transcript

/-!
# Suggested fees

The rows of rewards of an answer are uniform (`uniform_of_fees`): each was computed for the same
percentiles by one walk over ascending rewards, which are what the transactions declare as gas, and
blocks without receipts have empty rows, which do not count.

**Suggested** (`Oracle.Suggested`). What is suggested after such an answer. There is a fee for each
percentile, which is the exact mean of its column; the base fee is the one that the header of the
newest block of the answer projects; and a higher percentile never pays less.

Every answer of a query has suggested fees just if one of its rows is not empty (`fees_suggested`).
-/

namespace FeeMarket

/-- The rewards of a block, if it has any, are one for each percentile, ascending, and words. -/
theorem reward_of_processBlock {config : ChainConfig} {header : Header} {block : Option Block}
    {receipts : Option (List Receipt)} {percentiles : List Float} {x : ProcessedFees}
    {row : List Wei} (h : processBlock config header block receipts percentiles = .ok x)
    (hrow : x.reward = some row) : row.length = percentiles.length ∧ row.Pairwise (· ≤ ·) ∧
      ∀ r ∈ row, ∃ gas, r = .ofWord gas := by
  obtain ⟨fee, row?, -, hrewards, rfl⟩ := exists_of_processBlock h
  obtain rfl : row? = some row := hrow
  obtain ⟨b, rs, -, hpercentiles⟩ := RewardBasis.exists_of_rewards hrewards
  obtain ⟨hlength, hascends⟩ := rewardPercentiles_row hpercentiles
  refine ⟨hlength, hascends, fun r hr => ?_⟩
  rcases rewardPercentiles_declared hpercentiles hr with ⟨-, rfl⟩ | ⟨t, -, rfl⟩
  · exact ⟨0, rfl⟩
  · exact ⟨t.gas, rfl⟩

namespace FeeHistory

variable {fees : List ProcessedFees} {oldest : UInt64} {withRewards : Bool}

theorem exists_of_mem_counted {row : List Wei}
    (h : row ∈ (ofFees oldest fees withRewards).counted) : ∃ x ∈ fees, x.reward = some row := by
  unfold ofFees at h
  cases hlast : fees.getLast? with
  | none =>
    rw [hlast] at h
    cases h
  | some last =>
    rw [hlast] at h
    cases withRewards with
    | false => cases h
    | true =>
      obtain ⟨hmem, hne⟩ := List.mem_filter.1 h
      obtain ⟨x, hx, rfl⟩ := List.mem_map.1 hmem
      refine ⟨x, hx, ?_⟩
      cases hreward : x.reward with
      | none =>
        rw [hreward] at hne
        cases hne
      | some row => rfl

theorem length_counted_le : (ofFees oldest fees withRewards).counted.length ≤ fees.length := by
  unfold ofFees counted
  cases fees.getLast? with
  | none => exact Nat.zero_le _
  | some last =>
    cases withRewards with
    | false => exact Nat.zero_le _
    | true => exact Nat.le_trans (List.length_filter_le _ _) (Nat.le_of_eq (List.length_map _))

end FeeHistory

open FeesEstimate in
theorem uniform_of_fees {config : ChainConfig} {percentiles : List Float} {oldest : UInt64}
    {fees : List ProcessedFees} {withRewards : Bool} (few : fees.length < UInt64.size)
    (processed : ∀ x ∈ fees, ∃ header block receipts,
      processBlock config header block receipts percentiles = .ok x) :
    Uniform percentiles.length (FeeHistory.ofFees oldest fees withRewards).counted := by
  have rows : ∀ row ∈ (FeeHistory.ofFees oldest fees withRewards).counted,
      row.length = percentiles.length ∧ row.Pairwise (· ≤ ·) ∧
        ∀ r ∈ row, ∃ gas, r = .ofWord gas := by
    intro row hrow
    obtain ⟨x, hx, hreward⟩ := FeeHistory.exists_of_mem_counted hrow
    obtain ⟨header, block, receipts, hprocess⟩ := processed x hx
    exact reward_of_processBlock hprocess hreward
  exact {
    length := fun row hrow => (rows row hrow).1
    ascends := fun row hrow => (rows row hrow).2.1
    declared := fun row hrow => (rows row hrow).2.2
    few := Nat.lt_of_le_of_lt FeeHistory.length_counted_le few }

namespace Oracle

/-- What is suggested after an answer to a query. -/
structure Suggested (o : Oracle) (percentiles : List Float) (received : List Deposit)
    (history : FeeHistory) (e : FeesEstimate) : Prop where
  uniform : FeesEstimate.Uniform percentiles.length history.counted
  means : FeesEstimate.Means percentiles.length history.counted e.percentileFees
  /-- The newest block of the answer was received, and its header projects the base fee. -/
  baseFee : ∃ d ∈ received, d.number = history.oldestBlock + UInt64.ofNat (history.length - 1) ∧
    ∃ sample header, d.outcome = .ok sample ∧ sample.header = some header ∧
      projectedBaseFee o.chain header = .ok e.baseFeePerGas
  /-- Higher percentiles do not pay less. -/
  gasFees : ∀ {i j}, i ≤ j → j < percentiles.length → ∀ cap, ∃ low high,
    e.gasFees i cap = .ok low ∧ e.gasFees j cap = .ok high ∧
      low.maxPriorityFee ≤ high.maxPriorityFee ∧ low.maxFee ≤ high.maxFee ∧
      low.maxPriorityFee ≤ low.maxFee

/-- Whether there is an estimate after an answer, and what it is. -/
structure Estimated (o : Oracle) (percentiles : List Float) (received : List Deposit)
    (history : FeeHistory) : Prop where
  exists_iff : (∃ e, FeesEstimate.ofHistory history = .ok e) ↔
    ∃ rows row, history.reward = some rows ∧ row ∈ rows ∧ row ≠ []
  suggested : ∀ {e}, FeesEstimate.ofHistory history = .ok e →
    o.Suggested percentiles received history e

variable {o : Oracle} {count : UInt64} {last : Selector} {percentiles : List Float} {view : View}
  {t : Transcript} {history : FeeHistory}

theorem Unfolds.exists_fees (unfolds : o.Unfolds count last percentiles view t)
    (answered : t.outcome = .ok history) :
    ∃ oldest fees, history = .ofFees oldest fees (!percentiles.isEmpty) ∧
      fees.length < UInt64.size ∧ ∀ {i : Nat} {x}, fees[i]? = some x →
        ∃ d ∈ t.received, d.number = oldest + UInt64.ofNat i ∧ ∃ f : Findings,
          d.outcome = .ok ⟨some f.header, f.block, f.receipts, some x⟩ ∧
            processBlock o.chain f.header f.block f.receipts percentiles = .ok x := by
  cases unfolds with
  | stopped | unstarted => cases answered
  | nothing =>
    cases answered
    exact ⟨0, [], rfl, by decide, by simp⟩
  | @covered window job pool h p _ _ started reached =>
    obtain ⟨oldest, n, rfl, rfl⟩ := exists_of_start started
    obtain ⟨fees, rfl, hlength, hreceived⟩ := reached.exists_fees answered
    refine ⟨oldest, fees, rfl, Nat.lt_of_le_of_lt hlength window.count.toNat_lt, ?_⟩
    intro i x hx
    obtain ⟨d, hd, hnumber, f, hcarries⟩ := hreceived hx
    exact ⟨d, hd, hnumber, f, hcarries.outcome, hcarries.process⟩

theorem Unfolds.estimated (unfolds : o.Unfolds count last percentiles view t)
    (answered : t.outcome = .ok history) : o.Estimated percentiles t.received history := by
  obtain ⟨oldest, fees, rfl, few, hreceived⟩ := unfolds.exists_fees answered
  have processed : ∀ x ∈ fees, ∃ header block receipts,
      processBlock o.chain header block receipts percentiles = .ok x := by
    intro x hx
    obtain ⟨i, hi⟩ := List.mem_iff_getElem?.1 hx
    obtain ⟨d, -, -, f, -, hprocess⟩ := hreceived hi
    exact ⟨f.header, f.block, f.receipts, hprocess⟩
  have uniform : FeesEstimate.Uniform percentiles.length
      (FeeHistory.ofFees oldest fees (!percentiles.isEmpty)).counted :=
    uniform_of_fees few processed
  by_cases hcounted : (FeeHistory.ofFees oldest fees (!percentiles.isEmpty)).counted = []
  · have none_estimated := FeesEstimate.ofHistory_ne_ok hcounted
    refine ⟨⟨?_, fun hrow => absurd hcounted (FeeHistory.counted_ne_nil.2 hrow)⟩, ?_⟩
    · rintro ⟨e, he⟩
      exact absurd he (none_estimated e)
    · intro e he
      exact absurd he (none_estimated e)
  · obtain ⟨newest, hnewest⟩ : ∃ newest, fees.getLast? = some newest := by
      obtain ⟨row, hrow⟩ := List.exists_mem_of_ne_nil _ hcounted
      obtain ⟨x, hx, -⟩ := FeeHistory.exists_of_mem_counted hrow
      exact ⟨_, List.getLast?_eq_some_getLast (List.ne_nil_of_mem hx)⟩
    have estimated := uniform.ofHistory_eq (FeeHistory.getLast?_baseFeePerGas _ hnewest)
      (FeeHistory.getLast?_baseFeePerBlobGas _ hnewest) hcounted
    refine ⟨⟨fun _ => FeeHistory.counted_ne_nil.1 hcounted, fun _ => ⟨_, estimated⟩⟩, ?_⟩
    intro e he
    obtain rfl := Except.ok.inj (estimated.symm.trans he)
    have means := uniform.exact_means hcounted
    refine ⟨uniform, means, ?_, fun hij hj cap => means.gasFees hij hj cap⟩
    rw [FeeHistory.ofFees_eq _ _ hnewest, FeeHistory.length, List.length_map]
    rw [List.getLast?_eq_getElem?] at hnewest
    obtain ⟨d, hd, hnumber, f, houtcome, hprocess⟩ := hreceived hnewest
    exact ⟨d, hd, hnumber, _, f.header, houtcome, rfl, (processBlock_eq_ok hprocess).2⟩

end Oracle

open Oracle

/-- **Suggested fees.** Every answer of a query is estimated, the workers and the consumer taking
turns in any order over a chain that may change; and so is the answer of the program. -/
theorem fees_suggested (o : Oracle) (count : UInt64) (last : Selector) (percentiles : List Float) :
    (∀ {view t history}, o.Unfolds count last percentiles view t → t.outcome = .ok history →
      o.Estimated percentiles t.received history) ∧
    ∀ {view history}, (o.feeHistory count last percentiles).outcome view = .ok history →
      ∃ received, o.Unfolds count last percentiles view
          ⟨(o.feeHistory count last percentiles).calls view, received, .ok history⟩ ∧
        o.Estimated percentiles received history := by
  refine ⟨fun unfolds answered => unfolds.estimated answered, ?_⟩
  intro view history answered
  obtain ⟨received, unfolds⟩ := unfolds_feeHistory o count last percentiles view
  rw [answered] at unfolds
  exact ⟨received, unfolds, unfolds.estimated rfl⟩

/-- A chain of two blocks with one transaction each. -/
def paid : View
  | .header .latest => .found ⟨1, .ofNat 1, 30000000, 21000, some initialBaseFee⟩
  | .block (.number n) =>
    .found ⟨⟨n, .ofNat n.toNat, 30000000, 21000, some initialBaseFee⟩,
      [⟨0, if n = 0 then 21000 else 30001⟩]⟩
  | .receipts _ => .found [⟨0, 21000⟩]
  | c => Reply.nothing c

/-- The mean of 21000 and 30001, rounded down. -/
theorem fees_suggested_by_two :
    ∃ history e received,
      (standard.feeHistory 2 .latest [50]).outcome paid = .ok history ∧
        FeesEstimate.ofHistory history = .ok e ∧ e.percentileFees = [⟨25500, by decide⟩] ∧
        standard.Suggested [50] received history e := by
  have computed : (do
      let history ← ((standard.feeHistory 2 .latest [50]).outcome paid).toOption
      let e ← (FeesEstimate.ofHistory history).toOption
      return e.percentileFees) = some [⟨25500, by decide⟩] := by decide +kernel
  cases answered : (standard.feeHistory 2 .latest [50]).outcome paid with
  | error stop =>
    rw [answered] at computed
    cases computed
  | ok history =>
    rw [answered] at computed
    cases estimate : FeesEstimate.ofHistory history with
    | error error =>
      rw [Except.toOption, Option.bind_eq_bind, Option.bind_some, estimate] at computed
      cases computed
    | ok e =>
      rw [Except.toOption, Option.bind_eq_bind, Option.bind_some, estimate] at computed
      obtain ⟨received, -, estimated⟩ := (fees_suggested standard 2 .latest [50]).2 answered
      exact ⟨history, e, received, rfl, estimate, Option.some.inj computed,
        estimated.suggested estimate⟩

end FeeMarket
