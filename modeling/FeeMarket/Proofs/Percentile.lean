import FeeMarket.Percentile
import FeeMarket.Proofs.DoubleOrder
import Mathlib.Data.List.Chain

/-!
# The check of percentiles

**Violation** (`Percentile.Violates`). What is wrong with the percentile at an index: it is out of range,
or it is in range and not greater than the one before it. **Report** (`Percentile.Reports`). An outcome
that tells of the first violation, or of none if there is none.

The check reports (`check_reports`), by an induction that carries along what was checked already.
A list has one report, so the check is known once the violations are. Without a violation each
percentile is greater than the one before it, and as the order of doubles is transitive, greater than
all before it.

**Same order** (`Percentile.SameOrder`). Two lists whose entries compare alike. Their checks
end alike.
-/

namespace FeeMarket

/-- The error without the values that it names. -/
def PercentileError.bare : PercentileError → PercentileError
  | .tooMany limit requested => .tooMany limit requested
  | .outOfRange index _ => .outOfRange index 0
  | .notIncreasing index _ _ => .notIncreasing index 0 0

namespace Percentile

theorem inRange_iff {p : Float} : inRange p = true ↔ 0 ≤ p ∧ p ≤ 100 := by
  simp [inRange]

theorem not_inRange_of_isNaN {p : Float} (h : p.isNaN = true) : ¬ (0 ≤ p ∧ p ≤ 100) := by
  rintro ⟨hle, -⟩
  rw [(Double.isNaN_of_le hle).2] at h
  cases h

theorem isNaN_of_inRange {p : Float} (h : 0 ≤ p ∧ p ≤ 100) : p.isNaN = false :=
  (Double.isNaN_of_le h.1).2

/-! ## Violations -/

/-- What is wrong with the percentile at an index. -/
inductive Violates (ps : List Float) : Nat → PercentileError → Prop
  | outOfRange {i p} (hp : ps[i]? = some p) (out : ¬ (0 ≤ p ∧ p ≤ 100)) :
      Violates ps i (.outOfRange i p)
  | notIncreasing {i previous p} (hprevious : ps[i]? = some previous) (hp : ps[i + 1]? = some p)
      (within : 0 ≤ p ∧ p ≤ 100) (notGreater : ¬ previous < p) :
      Violates ps (i + 1) (.notIncreasing (i + 1) previous p)

/-- An outcome that tells of the first violation, or that there is none. -/
def Reports (ps : List Float) : Except PercentileError Unit → Prop
  | .ok () => ∀ i e, ¬ Violates ps i e
  | .error e => ∃ i, Violates ps i e ∧ ∀ j < i, ∀ e', ¬ Violates ps j e'

variable {ps before rest : List Float} {p : Float} {i : Nat} {e e' : PercentileError}

theorem Violates.lt_length (h : Violates ps i e) : i < ps.length := by
  cases h with
  | outOfRange hp => exact (List.getElem?_eq_some_iff.1 hp).1
  | notIncreasing _ hp => exact (List.getElem?_eq_some_iff.1 hp).1

theorem Violates.unique (h : Violates ps i e) (h' : Violates ps i e') : e = e' := by
  cases h with
  | outOfRange hp out =>
    cases h' with
    | outOfRange hp' => rw [Option.some.inj (hp.symm.trans hp')]
    | notIncreasing _ hp' within => exact absurd (Option.some.inj (hp.symm.trans hp') ▸ within) out
  | notIncreasing hprevious hp within =>
    cases h' with
    | outOfRange hp' out => exact absurd (Option.some.inj (hp.symm.trans hp') ▸ within) out
    | notIncreasing hprevious' hp' =>
      rw [Option.some.inj (hp.symm.trans hp'), Option.some.inj (hprevious.symm.trans hprevious')]

theorem Reports.unique {r r' : Except PercentileError Unit} (h : Reports ps r)
    (h' : Reports ps r') : r = r' := by
  rcases r with e | _ <;> rcases r' with e' | _
  · obtain ⟨i, hi, hfirst⟩ := h
    obtain ⟨j, hj, hfirst'⟩ := h'
    rcases Nat.lt_trichotomy i j with hij | rfl | hij
    · exact absurd hi (hfirst' i hij e)
    · rw [hi.unique hj]
    · exact absurd hj (hfirst j hij e')
  · obtain ⟨i, hi, -⟩ := h
    exact absurd hi (h' i e)
  · obtain ⟨i, hi, -⟩ := h'
    exact absurd hi (h i e')
  · rfl

/-- Nothing is wrong with a percentile in range that is greater than the last one before it. -/
theorem not_violates_length (hin : 0 ≤ p ∧ p ≤ 100)
    (hlt : ∀ previous, before.getLast? = some previous → previous < p) :
    ¬ Violates (before ++ p :: rest) before.length e := by
  have hp : (before ++ p :: rest)[before.length]? = some p := by simp
  intro h
  generalize hn : before.length = n at h hp
  cases h with
  | outOfRange hp' out => exact out (Option.some.inj (hp.symm.trans hp') ▸ hin)
  | @notIncreasing i previous _ hprevious hp' _ notGreater =>
    cases hp.symm.trans hp'
    refine notGreater (hlt previous ?_)
    rwa [List.getLast?_eq_getElem?, hn, Nat.add_sub_cancel,
      ← List.getElem?_append_left (by omega)]

/-- **The check reports.** Where nothing before an index is wrong, checking on from there tells of the
first violation. -/
theorem checkFrom_reports (before : List Float)
    (fine : ∀ j < before.length, ∀ e, ¬ Violates (before ++ rest) j e) :
    Reports (before ++ rest) (checkFrom before.length before.getLast? rest) := by
  induction rest generalizing before with
  | nil =>
    intro i e h
    exact fine i (by simpa using h.lt_length) e h
  | cons p rest ih =>
    have hp : (before ++ p :: rest)[before.length]? = some p := by simp
    -- Once nothing is found to be wrong with the percentile, it is one of those checked already.
    have next (hin : 0 ≤ p ∧ p ≤ 100)
        (hlt : ∀ previous, before.getLast? = some previous → previous < p) :
        Reports (before ++ p :: rest) (checkFrom (before.length + 1) (some p) rest) := by
      have hreports := ih (before ++ [p])
      rw [List.append_assoc, List.length_append, List.getLast?_concat] at hreports
      refine hreports fun j hj e => ?_
      rcases Nat.lt_succ_iff_lt_or_eq.1 hj with hj | rfl
      · exact fine j hj e
      · exact not_violates_length hin hlt
    unfold checkFrom
    split
    · rename_i out
      exact ⟨_, .outOfRange hp (mt inRange_iff.2 out), fine⟩
    · rename_i hrange
      have hin := inRange_iff.1 (Decidable.not_not.1 hrange)
      cases hlast : before.getLast? with
      | none => exact next hin (by simp [hlast])
      | some previous =>
        obtain ⟨front, rfl⟩ := List.getLast?_eq_some_iff.1 hlast
        have hprevious : (front ++ [previous] ++ p :: rest)[front.length]? = some previous := by
          simp
        simp only
        split
        · rename_i hle
          rw [List.length_append] at hp fine ⊢
          exact ⟨_, .notIncreasing hprevious hp hin (Double.not_lt_of_le hle), fine⟩
        · rename_i hle
          have hbefore : 0 ≤ previous ∧ previous ≤ 100 := Decidable.byContradiction fun out =>
            fine front.length (by simp) _ (.outOfRange hprevious out)
          refine next hin fun q hq => ?_
          cases hlast.symm.trans hq
          exact Double.lt_of_not_le (isNaN_of_inRange hin) (isNaN_of_inRange hbefore) hle

theorem check_reports {limit : Nat} (fits : ps.length ≤ limit) : Reports ps (check limit ps) := by
  rw [check, if_neg (Nat.not_lt.2 fits)]
  exact checkFrom_reports [] (by simp)

/-- Without a violation the percentiles are in range, and each is greater than all before it. -/
theorem not_violates_iff :
    (∀ i e, ¬ Violates ps i e) ↔ (∀ p ∈ ps, 0 ≤ p ∧ p ≤ 100) ∧ ps.Pairwise (· < ·) := by
  constructor
  · intro fine
    have within : ∀ p ∈ ps, 0 ≤ p ∧ p ≤ 100 := by
      intro p hp
      obtain ⟨i, hi⟩ := List.mem_iff_getElem?.1 hp
      exact Decidable.byContradiction fun out => fine i _ (.outOfRange hi out)
    refine ⟨within, List.isChain_iff_pairwise.1 (List.isChain_iff_getElem.2 fun i hi => ?_)⟩
    exact Decidable.byContradiction fun notGreater => fine (i + 1) _
      (.notIncreasing (List.getElem?_eq_getElem (Nat.lt_of_succ_lt hi))
        (List.getElem?_eq_getElem hi) (within _ (List.getElem_mem hi)) notGreater)
  · rintro ⟨within, increasing⟩ i e h
    cases h with
    | outOfRange hp out => exact out (within _ (List.mem_of_getElem? hp))
    | notIncreasing hprevious hp _ notGreater =>
      obtain ⟨hi, rfl⟩ := List.getElem?_eq_some_iff.1 hprevious
      obtain ⟨hj, rfl⟩ := List.getElem?_eq_some_iff.1 hp
      exact notGreater (List.pairwise_iff_getElem.1 increasing _ _ hi hj (Nat.lt_succ_self _))

/-! ## Lists that compare alike -/

/-- Entries side by side that compare alike, with the bounds and with one another. -/
structure SameOrder (pairs : List (Float × Float)) : Prop where
  nonneg : ∀ x ∈ pairs, 0 ≤ x.1 ↔ 0 ≤ x.2
  le_hundred : ∀ x ∈ pairs, x.1 ≤ 100 ↔ x.2 ≤ 100
  order : ∀ x ∈ pairs, ∀ y ∈ pairs, x.1 ≤ y.1 ↔ x.2 ≤ y.2

theorem SameOrder.of_subset {pairs pairs' : List (Float × Float)} (same : SameOrder pairs)
    (h : pairs' ⊆ pairs) : SameOrder pairs' where
  nonneg x hx := same.nonneg x (h hx)
  le_hundred x hx := same.le_hundred x (h hx)
  order x hx y hy := same.order x (h hx) y (h hy)

/-- **Only the order matters.** -/
theorem SameOrder.checkFrom_eq (index : Nat) (previous? : Option (Float × Float))
    {pairs : List (Float × Float)} (same : SameOrder (previous?.toList ++ pairs)) :
    (checkFrom index (previous?.map Prod.fst) (pairs.map Prod.fst)).mapError PercentileError.bare =
      (checkFrom index (previous?.map Prod.snd) (pairs.map Prod.snd)).mapError
        PercentileError.bare := by
  induction pairs generalizing index previous? with
  | nil => rfl
  | cons x pairs ih =>
    have hx : x ∈ previous?.toList ++ x :: pairs := by simp
    have hrange : inRange x.1 = inRange x.2 := by
      rw [Bool.eq_iff_iff, inRange_iff, inRange_iff, same.nonneg x hx, same.le_hundred x hx]
    have hrest := ih (index + 1) (some x)
      (same.of_subset (List.subset_append_of_subset_right _ (List.Subset.refl _)))
    cases previous? with
    | none =>
      simp only [List.map_cons, Option.map_none, checkFrom, hrange]
      split
      · rfl
      · exact hrest
    | some y =>
      simp only [List.map_cons, Option.map_some, checkFrom, hrange, same.order x hx y (by simp)]
      split
      · rfl
      · split
        · rfl
        · exact hrest

/-- **The check is exact.** It accepts just the lists that are short enough, in range and increasing. A
list that is too long is refused for its length. Otherwise the error is the first violation, one that
is not a number being out of range. Nothing but the order of the percentiles decides. -/
theorem check_exact (limit : Nat) (ps : List Float) :
    (check limit ps = .ok () ↔
      ps.length ≤ limit ∧ (∀ p ∈ ps, 0 ≤ p ∧ p ≤ 100) ∧ ps.Pairwise (· < ·)) ∧
    (limit < ps.length → check limit ps = .error (.tooMany limit ps.length)) ∧
    (ps.length ≤ limit → ∀ e, check limit ps = .error e ↔
      ∃ i, Violates ps i e ∧ ∀ j < i, ∀ e', ¬ Violates ps j e') ∧
    (∀ {i p}, ps[i]? = some p → p.isNaN = true → Violates ps i (.outOfRange i p)) ∧
    ∀ pairs, SameOrder pairs → pairs.map Prod.fst = ps →
      (check limit (pairs.map Prod.snd)).mapError PercentileError.bare =
        (check limit ps).mapError PercentileError.bare := by
  have long (h : limit < ps.length) : check limit ps = .error (.tooMany limit ps.length) := if_pos h
  refine ⟨?_, long, ?_, fun hp hnan => .outOfRange hp (not_inRange_of_isNaN hnan), ?_⟩
  · by_cases fits : ps.length ≤ limit
    · rw [← not_violates_iff, and_iff_right fits]
      have hreports := check_reports fits
      constructor
      · intro h
        rwa [h] at hreports
      · intro fine
        exact Reports.unique hreports fine
    · simp [long (Nat.lt_of_not_le fits), fits]
  · intro fits e
    have hreports := check_reports fits
    constructor
    · intro h
      rwa [h] at hreports
    · intro first
      exact Reports.unique hreports first
  · rintro pairs same rfl
    rw [check, check, List.length_map, List.length_map]
    split
    · rfl
    · exact (SameOrder.checkFrom_eq 0 none same).symm

/-- The two zeros do not increase. -/
example : check 2 [-0, 0] = .error (.notIncreasing 1 (-0) 0) := rfl

/-- A list that is too long, one with two violations, one with what is not a number, and two lists with
one zero each. -/
theorem check_exact_nearby :
    check 1 [50, 20] = .error (.tooMany 1 2) ∧
      check 3 [50, 20, 200] = .error (.notIncreasing 1 50 20) ∧
      Violates [0 / 0] 0 (.outOfRange 0 (0 / 0)) ∧
      (check 2 [0, 50]).mapError PercentileError.bare =
        (check 2 [-0, 50]).mapError PercentileError.bare := by
  have zeros : SameOrder [(-0, 0), (50, 50)] := by
    refine ⟨?_, ?_, ?_⟩ <;> decide
  refine ⟨(check_exact 1 [50, 20]).2.1 (by decide),
    ((check_exact 3 [50, 20, 200]).2.2.1 (by decide) _).2
      ⟨1, .notIncreasing rfl rfl (by decide) (by decide), ?_⟩,
    (check_exact 1 [0 / 0]).2.2.2.1 rfl (by decide),
    (check_exact 2 [-0, 50]).2.2.2.2 [(-0, 0), (50, 50)] zeros rfl⟩
  intro j hj e' h
  cases h with
  | outOfRange hp out =>
    obtain rfl : j = 0 := by omega
    cases hp
    exact out (by decide)
  | notIncreasing => omega

end Percentile

end FeeMarket
