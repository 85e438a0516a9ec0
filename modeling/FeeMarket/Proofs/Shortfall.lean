import FeeMarket.Proofs.Estimate
import FeeMarket.Proofs.Guarded

/-!
# Estimates of arbitrary histories

A history need not come from a query. Its rows may be of any lengths, some or all of them empty, and
any of its lists may be missing.

**Width** (`FeeHistory.width`). The length of the first row that counts. An estimate has as many
percentiles.

**Says** (`EstimateError.Says`). What an error says that a history lacks. Of the errors that say so
truly, the first in order is raised (`FeeHistory.shortfall?`), and if there is none the history has
an estimate.

**Padded** (`Padded`). Rows with empty ones put in anywhere.

As an estimate depends on the last base fees and on the rows that count, and on nothing else, it is
settled when there is one, what it is, which error is raised if there is none, and that empty rows
change nothing (`estimates_settled`).
-/

namespace FeeMarket

/-! ## What a history lacks -/

namespace FeeHistory

/-- How many percentiles the first row that counts has. -/
def width (h : FeeHistory) : Nat := (h.counted.headD []).length

/-- What an estimate needs of a history. -/
structure Estimable (h : FeeHistory) : Prop where
  baseFees : h.baseFeePerGas ≠ []
  blobFees : h.baseFeePerBlobGas ≠ []
  rewarded : ∃ rows row, h.reward = some rows ∧ row ∈ rows ∧ row ≠ []
  /-- No row that counts is shorter than the first of them. -/
  long : ∀ row ∈ h.counted, h.width ≤ row.length

end FeeHistory

namespace EstimateError

/-- What the error says of a history. -/
def Says (h : FeeHistory) : EstimateError → Prop
  | missingBaseFees => h.baseFeePerGas = []
  | missingBlobFees => h.baseFeePerBlobGas = []
  | missingRewards => h.counted = []
  | missingPercentileFee => ∃ row ∈ h.counted, row.length < h.width

instance (h : FeeHistory) : DecidablePred (Says h)
  | missingBaseFees => inferInstanceAs (Decidable (h.baseFeePerGas = []))
  | missingBlobFees => inferInstanceAs (Decidable (h.baseFeePerBlobGas = []))
  | missingRewards => inferInstanceAs (Decidable (h.counted = []))
  | missingPercentileFee => inferInstanceAs (Decidable (∃ row ∈ h.counted, row.length < h.width))

/-- The errors, each taking precedence over those after it. -/
def inOrder : List EstimateError :=
  [missingBaseFees, missingBlobFees, missingRewards, missingPercentileFee]

end EstimateError

/-- The first error that says what is so. -/
def FeeHistory.shortfall? (h : FeeHistory) : Option EstimateError :=
  EstimateError.inOrder.find? fun error => decide (error.Says h)

namespace FeeHistory

open EstimateError

variable {h : FeeHistory}

theorem estimable_iff : h.Estimable ↔ h.shortfall? = none := by
  simp only [shortfall?, List.find?_eq_none, decide_eq_true_eq]
  constructor
  · rintro ⟨base, blob, rewarded, long⟩ error -
    cases error with
    | missingBaseFees => exact base
    | missingBlobFees => exact blob
    | missingRewards => exact counted_ne_nil.2 rewarded
    | missingPercentileFee =>
      rintro ⟨row, hrow, hlt⟩
      exact Nat.not_le_of_lt hlt (long row hrow)
  · intro none
    refine ⟨none .missingBaseFees (by decide), none .missingBlobFees (by decide),
      counted_ne_nil.1 (none .missingRewards (by decide)), ?_⟩
    intro row hrow
    by_contra hlt
    exact none .missingPercentileFee (by decide) ⟨row, hrow, Nat.lt_of_not_le hlt⟩

end FeeHistory

namespace FeesEstimate

variable {h : FeeHistory}

/-- The estimate consists of the last base fees and the means over all rows that count. -/
structure Averages (h : FeeHistory) (e : FeesEstimate) : Prop where
  baseFee : h.baseFeePerGas.getLast? = some e.baseFeePerGas
  blobFee : h.baseFeePerBlobGas.getLast? = some e.baseFeePerBlobGas
  length : e.percentileFees.length = h.width
  /-- Every row that counts adds to the sum, which is exact up to the largest amount. -/
  fee : ∀ {j fee}, e.percentileFees[j]? = some fee →
    (column h.counted j).length = h.counted.length ∧
      fee.toNat = min (Wei.sum (column h.counted j)) Wei.top / h.counted.length

theorem ofHistory_of_shortfall {error : EstimateError} (lacks : h.shortfall? = some error) :
    ofHistory h = .error error := by
  rw [ofHistory_eq_of_counted]
  rw [FeeHistory.shortfall?, EstimateError.inOrder] at lacks
  by_cases base : h.baseFeePerGas = []
  · obtain rfl : .missingBaseFees = error := by simpa [EstimateError.Says, base] using lacks
    simp [base]
  by_cases blob : h.baseFeePerBlobGas = []
  · obtain rfl : .missingBlobFees = error := by simpa [EstimateError.Says, base, blob] using lacks
    simp [List.getLast?_eq_some_getLast base, blob]
  rw [List.getLast?_eq_some_getLast base, List.getLast?_eq_some_getLast blob]
  cases hcounted : h.counted with
  | nil =>
    obtain rfl : .missingRewards = error := by
      simpa [EstimateError.Says, base, blob, hcounted] using lacks
    rfl
  | cons first rest =>
    obtain ⟨short, rfl⟩ : (∃ row ∈ first :: rest, row.length < first.length) ∧
        .missingPercentileFee = error := by
      simpa [EstimateError.Says, base, blob, hcounted, FeeHistory.width] using lacks
    exact if_pos short

theorem ofHistory_of_estimable (estimable : h.Estimable) :
    ∃ e, ofHistory h = .ok e ∧ e.Averages h := by
  obtain ⟨first, rest, hcounted⟩ :=
    List.exists_cons_of_ne_nil (FeeHistory.counted_ne_nil.2 estimable.rewarded)
  have hwidth : h.width = first.length := by simp [FeeHistory.width, hcounted]
  have long := estimable.long
  rw [hwidth] at long
  have hbase := List.getLast?_eq_some_getLast estimable.baseFees
  have hblob := List.getLast?_eq_some_getLast estimable.blobFees
  refine ⟨_, ofHistory_eq hbase hblob hcounted long, hbase, hblob, ?_, ?_⟩
  · rw [means, List.length_map, List.length_range, hwidth]
  · intro j fee hfee
    obtain ⟨hj, rfl⟩ := eq_mean_of_means hfee
    have reached : ∀ row ∈ h.counted, j < row.length := fun row hrow =>
      Nat.lt_of_lt_of_le hj (long row hrow)
    have hlength := length_column reached
    refine ⟨hlength, ?_⟩
    rw [Wei.mean, Wei.toNat_div, Wei.toNat_saturate, hlength]

theorem ofHistory_cases (h : FeeHistory) :
    (∃ error, h.shortfall? = some error ∧ ofHistory h = .error error) ∨
      ∃ e, h.shortfall? = none ∧ ofHistory h = .ok e ∧ e.Averages h := by
  cases lacks : h.shortfall? with
  | some error => exact .inl ⟨error, rfl, ofHistory_of_shortfall lacks⟩
  | none =>
    obtain ⟨e, he, averages⟩ := ofHistory_of_estimable (FeeHistory.estimable_iff.2 lacks)
    exact .inr ⟨e, rfl, he, averages⟩

end FeesEstimate

/-! ## Empty rows -/

/-- The second list has the rows of the first in their order, and between them any empty rows. -/
inductive Padded : List (List Wei) → List (List Wei) → Prop
  | nil : Padded [] []
  | row {rows padded} (row) : Padded rows padded → Padded (row :: rows) (row :: padded)
  | empty {rows padded} : Padded rows padded → Padded rows ([] :: padded)

/-- The rows that are not empty stay, and no others come in. -/
theorem Padded.filter_eq {rows padded : List (List Wei)} (h : Padded rows padded) :
    padded.filter (fun row => !row.isEmpty) = rows.filter fun row => !row.isEmpty := by
  induction h with
  | nil => rfl
  | row row _ ih => rw [List.filter_cons, List.filter_cons, ih]
  | empty _ ih => exact ih

namespace FeesEstimate

theorem ofHistory_of_padded (h : FeeHistory) {rows padded : List (List Wei)}
    (hpadded : Padded rows padded) :
    ofHistory { h with reward := some padded } = ofHistory { h with reward := some rows } := by
  have hcounted : ({ h with reward := some padded } : FeeHistory).counted =
      ({ h with reward := some rows } : FeeHistory).counted := hpadded.filter_eq
  rw [ofHistory_eq_of_counted, ofHistory_eq_of_counted, hcounted]

end FeesEstimate

/-! ## Estimates -/

open FeesEstimate in
/-- **Estimates of arbitrary histories.** When there is an estimate and what it is, which error is
raised if there is none, that empty rows may come and go, and that nothing is divided by zero on the
way. -/
theorem estimates_settled (h : FeeHistory) :
    ((∃ e, ofHistory h = .ok e) ↔ h.Estimable) ∧
      (∀ e, ofHistory h = .ok e → e.Averages h) ∧
      (∀ error, ofHistory h = .error error ↔ h.shortfall? = some error) ∧
      (∀ rows padded, Padded rows padded →
        ofHistory { h with reward := some padded } = ofHistory { h with reward := some rows }) ∧
      Guarded.ofHistory h = Guarded.given (ofHistory h) := by
  have empty_rows : ∀ rows padded, Padded rows padded →
      ofHistory { h with reward := some padded } = ofHistory { h with reward := some rows } :=
    fun rows padded => ofHistory_of_padded h
  rw [FeeHistory.estimable_iff]
  rcases ofHistory_cases h with ⟨error, lacks, he⟩ | ⟨e, lacks, he, averages⟩
  · refine ⟨?_, ?_, ?_, empty_rows, Guarded.ofHistory_eq h⟩
    · simp [he, lacks]
    · simp [he]
    · simp [he, lacks]
  · refine ⟨?_, ?_, ?_, empty_rows, Guarded.ofHistory_eq h⟩
    · simp [he, lacks]
    · intro e' he'
      cases he.symm.trans he'
      exact averages
    · simp [he, lacks]

/-- Two rows of unequal lengths. Their second column adds up to more than the largest amount. -/
def unequalRows : List (List Wei) :=
  [[.ofWord 3, .ofWord 5], [.ofWord 4, .saturate Wei.top, .ofWord 9]]

/-- A history of these rows, with empty ones before and between them. -/
def ragged : FeeHistory where
  baseFeePerGas := [.ofWord 7]
  baseFeePerBlobGas := [1]
  reward := some ([] :: [.ofWord 3, .ofWord 5] :: [] :: unequalRows.tail)

/-- The first mean is rounded down, and the second is that of the largest amount. -/
theorem estimates_settled_ragged :
    ∃ e, FeesEstimate.ofHistory ragged = .ok e ∧ e.Averages ragged ∧
      e.percentileFees = [.ofWord 3, .saturate (Wei.top / 2)] ∧
      FeesEstimate.ofHistory { ragged with reward := some unequalRows } = .ok e := by
  obtain ⟨-, estimates, -, empty_rows, -⟩ := estimates_settled ragged
  have he : FeesEstimate.ofHistory ragged =
      .ok ⟨.ofWord 7, [.ofWord 3, .saturate (Wei.top / 2)], 1⟩ := by decide +kernel
  have hpadded : Padded unequalRows ([] :: [.ofWord 3, .ofWord 5] :: [] :: unequalRows.tail) :=
    .empty (.row _ (.empty (.row _ .nil)))
  exact ⟨_, he, estimates _ he, rfl, (empty_rows _ _ hpadded).symm.trans he⟩

end FeeMarket
