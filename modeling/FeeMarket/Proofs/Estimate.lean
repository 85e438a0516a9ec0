import FeeMarket.Estimate
import FeeMarket.Proofs.Reward
import Mathlib.Algebra.Group.Action.Defs
import Mathlib.Algebra.Order.BigOperators.Group.List
import Mathlib.Algebra.Order.Ring.Nat

/-!
# Means of reward rows

**Counted rows** (`FeeHistory.counted`). The rows of a history that are not empty. **Column**
(`FeesEstimate.column`). The rewards of the rows at one percentile. **Mean** (`Wei.mean`). What an
estimate has for a column: its sum, stopped at the largest amount, by its length.

An estimate depends on the last base fees and on the counted rows, and on nothing else
(`ofHistory_eq_of_counted`). If the rows are long enough, it has the means of their columns; if one of
them is too short, or if there are none, there is no estimate.

**Uniform rows** (`FeesEstimate.Uniform`). Rows of one length, each in ascending order, of rewards
that are words, and fewer than there are words. Their sums are amounts, so the means are exact. They
lie between two rewards of their columns, and ascend (`Uniform.exact_means`). So do the gas fees at
the percentiles, whatever the cap (`gasFees_mono`).
-/

namespace FeeMarket

/-- The rows of rewards that are not empty. -/
def FeeHistory.counted (h : FeeHistory) : List (List Wei) :=
  (h.reward.getD []).filter fun row => !row.isEmpty

theorem FeeHistory.counted_ne_nil {h : FeeHistory} :
    h.counted ≠ [] ↔ ∃ rows row, h.reward = some rows ∧ row ∈ rows ∧ row ≠ [] := by
  unfold counted
  cases h.reward with
  | none => simp
  | some rows => simp

namespace Wei

/-- The sum of some amounts. -/
def sum (l : List Wei) : Nat := (l.map toNat).sum

@[simp] theorem sum_nil : sum [] = 0 := rfl

@[simp] theorem sum_cons (a : Wei) (l : List Wei) : sum (a :: l) = a.toNat + sum l := rfl

/-- The mean of some amounts, rounded down. Their sum stops at the largest amount. -/
def mean (l : List Wei) : Wei := (saturate (sum l)).div l.length

variable {l : List Wei} {n : Nat}

theorem toNat_mean (h : sum l ≤ top) : (mean l).toNat = sum l / l.length := by
  rw [mean, toNat_div, toNat_saturate, Nat.min_eq_left h]

theorem length_mul_le_sum (h : ∀ a ∈ l, n ≤ a.toNat) : l.length * n ≤ sum l := by
  have hsum := List.card_nsmul_le_sum (l.map toNat) n (by simpa using h)
  rwa [List.length_map, smul_eq_mul] at hsum

theorem sum_le_length_mul (h : ∀ a ∈ l, a.toNat ≤ n) : sum l ≤ l.length * n := by
  have hsum := List.sum_le_card_nsmul (l.map toNat) n (by simpa using h)
  rwa [List.length_map, smul_eq_mul] at hsum

theorem exists_le_mean (hsum : sum l ≤ top) (hne : l ≠ []) : ∃ a ∈ l, a ≤ mean l := by
  by_contra hnone
  have hall : ∀ a ∈ l, sum l / l.length + 1 ≤ a.toNat := by
    intro a ha
    rw [← toNat_mean hsum]
    exact Nat.lt_of_not_le fun hle => hnone ⟨a, ha, hle⟩
  have hle := length_mul_le_sum hall
  have hlt := Nat.lt_mul_div_succ (sum l) (List.length_pos_iff.2 hne)
  omega

theorem exists_mean_le (hsum : sum l ≤ top) (hne : l ≠ []) : ∃ a ∈ l, mean l ≤ a := by
  by_contra hnone
  have hbelow : ∀ a ∈ l, a.toNat < sum l / l.length := by
    intro a ha
    rw [← toNat_mean hsum]
    exact Nat.lt_of_not_le fun hle => hnone ⟨a, ha, hle⟩
  have hpos : 0 < sum l / l.length := by
    obtain ⟨a, ha⟩ := List.exists_mem_of_ne_nil l hne
    exact Nat.lt_of_le_of_lt (Nat.zero_le _) (hbelow a ha)
  have hle := sum_le_length_mul fun a ha => Nat.le_sub_one_of_lt (hbelow a ha)
  have hlt : l.length * (sum l / l.length - 1) < l.length * (sum l / l.length) :=
    Nat.mul_lt_mul_of_pos_left (by omega) (List.length_pos_iff.2 hne)
  have hfloor := Nat.mul_div_le (sum l) l.length
  omega

end Wei

namespace FeesEstimate

/-- The rewards of the rows at one percentile. -/
def column (rows : List (List Wei)) (j : Nat) : List Wei := rows.filterMap fun row => row[j]?

variable {width : Nat} {rows : List (List Wei)} {i j : Nat}

theorem column_cons {row : List Wei} (hj : j < row.length) :
    column (row :: rows) j = row[j] :: column rows j := by
  rw [column, List.filterMap_cons, List.getElem?_eq_getElem hj]
  rfl

theorem length_column (h : ∀ row ∈ rows, j < row.length) :
    (column rows j).length = rows.length := by
  induction rows with
  | nil => rfl
  | cons row rows ih =>
    rw [column_cons (h row List.mem_cons_self), List.length_cons, List.length_cons,
      ih fun r hr => h r (List.mem_cons_of_mem row hr)]

theorem columnSum_eq (acc : Wei) (h : ∀ row ∈ rows, j < row.length) :
    columnSum j acc rows = .ok (.saturate (acc.toNat + Wei.sum (column rows j))) := by
  induction rows generalizing acc with
  | nil => exact congrArg Except.ok acc.saturate_toNat.symm
  | cons row rows ih =>
    have hj := h row List.mem_cons_self
    have hadd : acc + row[j] = .saturate (acc.toNat + row[j].toNat) := rfl
    rw [columnSum, List.getElem?_eq_getElem hj]
    show columnSum j (acc + row[j]) rows = _
    rw [ih _ fun r hr => h r (List.mem_cons_of_mem row hr), column_cons hj, Wei.sum_cons, hadd,
      Wei.saturate_add, Nat.add_assoc]

theorem columnMean_eq (h : ∀ row ∈ rows, j < row.length) :
    columnMean rows j = .ok (Wei.mean (column rows j)) := by
  rw [columnMean, columnSum_eq 0 h, Wei.toNat_zero, Nat.zero_add, Wei.mean, length_column h]
  rfl

/-- A row that does not reach a percentile stops the sum there. -/
theorem columnSum_of_short (acc : Wei) (short : ∃ row ∈ rows, row.length ≤ j) :
    columnSum j acc rows = .error .missingPercentileFee := by
  induction rows generalizing acc with
  | nil => simp at short
  | cons row rows ih =>
    rw [columnSum]
    by_cases hj : j < row.length
    · have later : ∃ row ∈ rows, row.length ≤ j := by
        obtain ⟨r, hr, hle⟩ := short
        rcases List.mem_cons.1 hr with rfl | hr
        · omega
        · exact ⟨r, hr, hle⟩
      rw [List.getElem?_eq_getElem hj]
      exact ih _ later
    · rw [List.getElem?_eq_none (Nat.le_of_not_lt hj)]
      rfl

theorem columnMean_of_short (short : ∃ row ∈ rows, row.length ≤ j) :
    columnMean rows j = .error .missingPercentileFee := by
  rw [columnMean, columnSum_of_short 0 short]
  rfl

theorem error_of_columnMean {error : EstimateError} (h : columnMean rows j = .error error) :
    error = .missingPercentileFee := by
  by_cases short : ∃ row ∈ rows, row.length ≤ j
  · cases h.symm.trans (columnMean_of_short short)
    rfl
  · have reached : ∀ row ∈ rows, j < row.length := by
      intro row hrow
      by_contra hle
      exact short ⟨row, hrow, Nat.le_of_not_lt hle⟩
    cases h.symm.trans (columnMean_eq reached)

theorem sum_column_mono (h : ∀ row ∈ rows, j < row.length)
    (hascends : ∀ row ∈ rows, row.Pairwise (· ≤ ·)) (hij : i ≤ j) :
    Wei.sum (column rows i) ≤ Wei.sum (column rows j) := by
  induction rows with
  | nil => exact Nat.le_refl _
  | cons row rows ih =>
    have hj := h row List.mem_cons_self
    have hi : i < row.length := Nat.lt_of_le_of_lt hij hj
    have hle : row[i] ≤ row[j] := by
      rcases Nat.eq_or_lt_of_le hij with rfl | hlt
      · exact Nat.le_refl _
      · exact List.pairwise_iff_getElem.1 (hascends row List.mem_cons_self) i j hi hj hlt
    rw [column_cons hi, column_cons hj, Wei.sum_cons, Wei.sum_cons]
    exact Nat.add_le_add hle (ih (fun r hr => h r (List.mem_cons_of_mem row hr))
      fun r hr => hascends r (List.mem_cons_of_mem row hr))

/-! ## Estimates -/

/-- The means of the first columns. -/
def means (width : Nat) (rows : List (List Wei)) : List Wei :=
  (List.range width).map fun j => Wei.mean (column rows j)

theorem eq_mean_of_means {fee : Wei} (h : (means width rows)[j]? = some fee) :
    j < width ∧ fee = Wei.mean (column rows j) := by
  rw [means, List.getElem?_map] at h
  obtain ⟨k, hk, rfl⟩ := Option.map_eq_some_iff.1 h
  obtain ⟨hlt, rfl⟩ := List.getElem?_eq_some_iff.1 hk
  rw [List.getElem_range]
  exact ⟨by simpa using hlt, rfl⟩

theorem mapM_columnMean (h : ∀ row ∈ rows, width ≤ row.length) :
    (List.range width).mapM (columnMean rows) = .ok (means width rows) := by
  rw [mapM_eq_ok_iff, means, List.forall₂_map_right_iff, List.forall₂_same]
  intro j hj
  apply columnMean_eq
  intro row hrow
  exact Nat.lt_of_lt_of_le (List.mem_range.1 hj) (h row hrow)

theorem mapM_columnMean_of_short (short : ∃ row ∈ rows, row.length < width) :
    (List.range width).mapM (columnMean rows) = .error .missingPercentileFee := by
  obtain ⟨row, hrow, hlt⟩ := short
  cases h : (List.range width).mapM (columnMean rows) with
  | ok fees =>
    obtain ⟨fee, hfee⟩ := exists_mapM_iff.1 ⟨fees, h⟩ row.length (List.mem_range.2 hlt)
    cases hfee.symm.trans (columnMean_of_short ⟨row, hrow, Nat.le_refl _⟩)
  | error error =>
    obtain ⟨j, -, hj⟩ := exists_of_mapM_eq_error h
    rw [error_of_columnMean hj]

/-- **The estimate of a history** depends on its last base fees and on its rows that count. -/
theorem ofHistory_eq_of_counted (h : FeeHistory) :
    ofHistory h =
      match h.baseFeePerGas.getLast?, h.baseFeePerBlobGas.getLast?, h.counted with
      | none, _, _ => .error .missingBaseFees
      | some _, none, _ => .error .missingBlobFees
      | some _, some _, [] => .error .missingRewards
      | some base, some blob, first :: rest =>
        if ∃ row ∈ first :: rest, row.length < first.length then .error .missingPercentileFee
        else .ok ⟨base, means first.length (first :: rest), blob⟩ := by
  unfold ofHistory FeeHistory.counted
  cases h.baseFeePerGas.getLast? with
  | none => rfl
  | some base =>
    cases h.baseFeePerBlobGas.getLast? with
    | none => rfl
    | some blob =>
      cases h.reward with
      | none => rfl
      | some rows =>
        simp only [EstimateError.unless, bind, Except.bind, Option.getD_some]
        cases rows.filter fun row => !row.isEmpty with
        | nil => rfl
        | cons first rest =>
          simp only [List.head?_cons]
          by_cases short : ∃ row ∈ first :: rest, row.length < first.length
          · rw [if_pos short, mapM_columnMean_of_short short]
          · have long : ∀ row ∈ first :: rest, first.length ≤ row.length := by
              intro row hrow
              by_contra hlt
              exact short ⟨row, hrow, Nat.lt_of_not_le hlt⟩
            rw [if_neg short, mapM_columnMean long]
            rfl

variable {h : FeeHistory}

theorem ofHistory_eq {base blob : Wei} {first : List Wei} {rest : List (List Wei)}
    (hbase : h.baseFeePerGas.getLast? = some base)
    (hblob : h.baseFeePerBlobGas.getLast? = some blob) (hrows : h.counted = first :: rest)
    (hlong : ∀ row ∈ h.counted, first.length ≤ row.length) :
    ofHistory h = .ok ⟨base, means first.length h.counted, blob⟩ := by
  rw [hrows] at hlong ⊢
  have reached : ¬ ∃ row ∈ first :: rest, row.length < first.length := by
    rintro ⟨row, hrow, hlt⟩
    exact Nat.not_le_of_lt hlt (hlong row hrow)
  rw [ofHistory_eq_of_counted, hbase, hblob, hrows]
  exact if_neg reached

theorem ofHistory_ne_ok (hrows : h.counted = []) (e : FeesEstimate) : ofHistory h ≠ .ok e := by
  rw [ofHistory_eq_of_counted, hrows]
  cases h.baseFeePerGas.getLast? with
  | none => nofun
  | some base => cases h.baseFeePerBlobGas.getLast? <;> nofun

/-! ## Uniform rows -/

/-- Rows of one length, with ascending rewards that are words. -/
structure Uniform (width : Nat) (rows : List (List Wei)) : Prop where
  length : ∀ row ∈ rows, row.length = width
  ascends : ∀ row ∈ rows, row.Pairwise (· ≤ ·)
  declared : ∀ row ∈ rows, ∀ r ∈ row, ∃ gas, r = .ofWord gas
  few : rows.length < UInt64.size

/-- The fees are the exact means of the columns of the rows. -/
structure Means (width : Nat) (rows : List (List Wei)) (fees : List Wei) : Prop where
  length : fees.length = width
  /-- The mean over all rows, rounded down. -/
  mean : ∀ {j fee}, fees[j]? = some fee → (column rows j).length = rows.length ∧
    fee.toNat = Wei.sum (column rows j) / rows.length
  /-- Adding up a column does not stop at the largest amount. -/
  exact : ∀ {j}, j < width → ∃ sum, columnSum j 0 rows = .ok sum ∧
    sum.toNat = Wei.sum (column rows j) ∧ sum.toNat < Wei.top
  within : ∀ {j fee}, fees[j]? = some fee →
    ∃ low ∈ column rows j, ∃ high ∈ column rows j, low ≤ fee ∧ fee ≤ high
  ascends : fees.Pairwise (· ≤ ·)

namespace Uniform

variable (hu : Uniform width rows)

include hu

theorem lt_length (hj : j < width) : ∀ row ∈ rows, j < row.length := by
  intro row hrow
  rw [hu.length row hrow]
  exact hj

theorem sum_column_lt (hj : j < width) : Wei.sum (column rows j) < Wei.top := by
  have hwords : ∀ a ∈ column rows j, a.toNat ≤ UInt64.size := by
    intro a ha
    obtain ⟨row, hrow, hget⟩ := List.mem_filterMap.1 ha
    obtain ⟨gas, rfl⟩ := hu.declared row hrow a (List.mem_of_getElem? hget)
    exact Nat.le_of_lt gas.toNat_lt
  have hsum := Wei.sum_le_length_mul hwords
  rw [length_column (hu.lt_length hj)] at hsum
  have hfew := Nat.mul_le_mul_right UInt64.size (Nat.le_of_lt hu.few)
  have htop : UInt64.size * UInt64.size < Wei.top := by decide
  omega

theorem toNat_mean (hj : j < width) :
    (Wei.mean (column rows j)).toNat = Wei.sum (column rows j) / rows.length := by
  rw [Wei.toNat_mean (Nat.le_of_lt (hu.sum_column_lt hj)), length_column (hu.lt_length hj)]

/-- **Exact means.** -/
theorem exact_means (hne : rows ≠ []) : Means width rows (means width rows) := by
  constructor
  case length => rw [means, List.length_map, List.length_range]
  case mean =>
    intro j fee hj
    obtain ⟨hwidth, rfl⟩ := eq_mean_of_means hj
    exact ⟨length_column (hu.lt_length hwidth), hu.toNat_mean hwidth⟩
  case exact =>
    intro j hj
    have hlt := hu.sum_column_lt hj
    refine ⟨_, columnSum_eq 0 (hu.lt_length hj), ?_⟩
    rw [Wei.toNat_zero, Nat.zero_add, Wei.toNat_saturate, Nat.min_eq_left (Nat.le_of_lt hlt)]
    exact ⟨rfl, hlt⟩
  case within =>
    intro j fee hj
    obtain ⟨hwidth, rfl⟩ := eq_mean_of_means hj
    have hle := Nat.le_of_lt (hu.sum_column_lt hwidth)
    have hcolumn : column rows j ≠ [] := by
      intro hnil
      have hlength := length_column (hu.lt_length hwidth)
      rw [hnil, List.length_nil] at hlength
      exact hne (List.length_eq_zero_iff.1 hlength.symm)
    obtain ⟨low, hlow, hlow_le⟩ := Wei.exists_le_mean hle hcolumn
    obtain ⟨high, hhigh, hle_high⟩ := Wei.exists_mean_le hle hcolumn
    exact ⟨low, hlow, high, hhigh, hlow_le, hle_high⟩
  case ascends =>
    rw [List.pairwise_iff_getElem]
    intro i j hi hj hij
    obtain ⟨hiwidth, hieq⟩ := eq_mean_of_means (List.getElem?_eq_getElem hi)
    obtain ⟨hjwidth, hjeq⟩ := eq_mean_of_means (List.getElem?_eq_getElem hj)
    rw [Wei.le_iff, hieq, hjeq, hu.toNat_mean hiwidth, hu.toNat_mean hjwidth]
    exact Nat.div_le_div_right
      (sum_column_mono (hu.lt_length hjwidth) hu.ascends (Nat.le_of_lt hij))

end Uniform

theorem Uniform.ofHistory_eq {h : FeeHistory} {base blob : Wei} (hu : Uniform width h.counted)
    (hbase : h.baseFeePerGas.getLast? = some base)
    (hblob : h.baseFeePerBlobGas.getLast? = some blob) (hne : h.counted ≠ []) :
    ofHistory h = .ok ⟨base, means width h.counted, blob⟩ := by
  obtain ⟨first, rest, hrows⟩ := List.exists_cons_of_ne_nil hne
  have hfirst : first.length = width := hu.length first (hrows ▸ List.mem_cons_self)
  rw [FeesEstimate.ofHistory_eq hbase hblob hrows, hfirst]
  intro row hrow
  rw [hfirst, hu.length row hrow]

/-! ## Gas fees -/

theorem gasFees_eq {e : FeesEstimate} {fee : Wei} (cap : Wei)
    (hi : e.percentileFees[i]? = some fee) :
    e.gasFees i cap = .ok ⟨min e.baseFeePerGas cap + fee, fee⟩ := by
  rw [gasFees, hi]
  rfl

theorem maxPriorityFee_le {e : FeesEstimate} {cap : Wei} {fees : GasFees}
    (hfees : e.gasFees i cap = .ok fees) : fees.maxPriorityFee ≤ fees.maxFee := by
  unfold gasFees at hfees
  cases hi : e.percentileFees[i]? with
  | none =>
    rw [hi] at hfees
    cases hfees
  | some fee =>
    rw [hi] at hfees
    cases hfees
    have htop := fee.toNat_le_top
    show fee ≤ min e.baseFeePerGas cap + fee
    rw [Wei.le_iff, Wei.toNat_add]
    omega

theorem gasFees_mono {e : FeesEstimate} (hascends : e.percentileFees.Pairwise (· ≤ ·)) (hij : i ≤ j)
    (hj : j < e.percentileFees.length) (cap : Wei) :
    ∃ low high, e.gasFees i cap = .ok low ∧ e.gasFees j cap = .ok high ∧
      low.maxPriorityFee ≤ high.maxPriorityFee ∧ low.maxFee ≤ high.maxFee := by
  have hi := Nat.lt_of_le_of_lt hij hj
  have hle : e.percentileFees[i] ≤ e.percentileFees[j] := by
    rcases Nat.eq_or_lt_of_le hij with rfl | hlt
    · exact Nat.le_refl _
    · exact List.pairwise_iff_getElem.1 hascends i j hi hj hlt
  refine ⟨_, _, gasFees_eq cap (List.getElem?_eq_getElem hi),
    gasFees_eq cap (List.getElem?_eq_getElem hj), hle, ?_⟩
  rw [Wei.le_iff] at hle ⊢
  simp only [Wei.toNat_add]
  omega

/-- What exact means give for the percentiles, whatever the cap. -/
theorem Means.gasFees {e : FeesEstimate} (means : Means width rows e.percentileFees) (hij : i ≤ j)
    (hj : j < width) (cap : Wei) :
    ∃ low high, e.gasFees i cap = .ok low ∧ e.gasFees j cap = .ok high ∧
      low.maxPriorityFee ≤ high.maxPriorityFee ∧ low.maxFee ≤ high.maxFee ∧
      low.maxPriorityFee ≤ low.maxFee := by
  obtain ⟨low, high, hlow, hhigh, hpriority, hfee⟩ :=
    gasFees_mono means.ascends hij (by rwa [means.length]) cap
  exact ⟨low, high, hlow, hhigh, hpriority, hfee, maxPriorityFee_le hlow⟩

end FeesEstimate

end FeeMarket
