import FeeMarket.Proofs.HeaderChain

/-!
# The base fee rule is exact

The rule works with words and amounts: it multiplies before it divides, it divides twice, it cuts the
quotient to an amount, and its sums and differences saturate. None of this shows in the result.

**Exact delta** (`ExactDelta`). A delta is one quotient of natural numbers. It is cut only where the
fee that it would be added to had no room for it anyway, and over a distance within the target it is
neither cut nor larger than the fee.

**Exact fee** (`ExactFee`). The next base fee is what the quotient over the natural numbers gives, and a
single cut at the largest amount.

Theorem (`base_fee_exact`). Every base fee and every delta is exact.
-/

namespace FeeMarket

variable {config : ChainConfig} {parent : Header} {fee delta next : Wei} {distance target : UInt64}

/-! ## Deltas -/

/-- A delta as one quotient. -/
def deltaQuotient (config : ChainConfig) (fee distance target : Nat) : Nat :=
  fee * distance / (target * config.denominator.toNat)

theorem deltaQuotient_le {fee distance target : Nat} (h : distance ≤ target) :
    deltaQuotient config fee distance target ≤ fee := by
  rw [deltaQuotient, ← Nat.div_div_eq_div_mul]
  refine Nat.le_trans (Nat.div_le_self _ _) (Nat.div_le_of_le_mul ?_)
  rw [Nat.mul_comm target]
  exact Nat.mul_le_mul_left fee h

/-- What a delta comes to over the natural numbers. -/
structure ExactDelta (config : ChainConfig) (fee : Wei) (distance target : UInt64) (delta : Wei) :
    Prop where
  /-- The product has at most the 512 bits of two amounts. -/
  product : fee.toNat * distance.toNat < Wei.size * Wei.size
  /-- Rounding down twice is rounding down once. -/
  quotient : fee.toNat * distance.toNat / target.toNat / config.denominator.toNat =
    deltaQuotient config fee.toNat distance.toNat target.toNat
  /-- The quotient is cut only if the fee has no room for it. -/
  cut : delta.toNat = deltaQuotient config fee.toNat distance.toNat target.toNat ∨
    delta.toNat = Wei.top ∧
      Wei.top < fee.toNat + max 1 (deltaQuotient config fee.toNat distance.toNat target.toNat)
  /-- What is taken off for a distance within the target is not cut, and there is as much. -/
  within : distance ≤ target →
    delta.toNat = deltaQuotient config fee.toNat distance.toNat target.toNat ∧ delta ≤ fee

theorem exactDelta_of_baseFeeDelta (h : baseFeeDelta config fee distance target = .ok delta) :
    ExactDelta config fee distance target delta := by
  have hquotient : fee.toNat * distance.toNat / target.toNat / config.denominator.toNat =
      deltaQuotient config fee.toNat distance.toNat target.toNat :=
    Nat.div_div_eq_div_mul _ _ _
  have hdelta : delta.toNat =
      min (deltaQuotient config fee.toNat distance.toNat target.toNat) Wei.top := by
    unfold baseFeeDelta at h
    split at h
    · cases h
    · cases h
      rw [Wei.toNat_saturate, hquotient]
  have htop := fee.toNat_le_top
  refine ⟨?_, hquotient, ?_, ?_⟩
  · have hdistance : distance.toNat < Wei.size := (Wei.ofWord distance).lt
    exact Nat.mul_lt_mul'' fee.lt hdistance
  · omega
  · intro hwithin
    have hle : deltaQuotient config fee.toNat distance.toNat target.toNat ≤ fee.toNat :=
      deltaQuotient_le (UInt64.le_iff_toNat_le.1 hwithin)
    rw [Wei.le_iff]
    omega

/-! ## Fees -/

/-- What the base fee after a block of the fee market comes to over the natural numbers. -/
structure ExactFee (config : ChainConfig) (parent : Header) (next : Wei) : Prop where
  kept : parent.gasUsed.toNat = config.target parent → next = parent.baseFeeOrZero
  /-- Without a target any gas adds one. -/
  untargeted : config.target parent = 0 → 0 < parent.gasUsed.toNat →
    next.toNat = min (parent.baseFeeOrZero.toNat + 1) Wei.top
  raised : 0 < config.target parent → config.target parent < parent.gasUsed.toNat →
    next.toNat = min (parent.baseFeeOrZero.toNat +
      max 1 (deltaQuotient config parent.baseFeeOrZero.toNat
        (parent.gasUsed.toNat - config.target parent) (config.target parent))) Wei.top
  lowered : parent.gasUsed.toNat < config.target parent →
    next.toNat = parent.baseFeeOrZero.toNat -
      deltaQuotient config parent.baseFeeOrZero.toNat
        (config.target parent - parent.gasUsed.toNat) (config.target parent)

theorem exactFee_of_nextBaseFee (valid : config.Valid)
    (active : config.active parent.number = true) (h : nextBaseFee config parent = .ok next) :
    ExactFee config parent next := by
  rw [nextBaseFee_eq_law valid active] at h
  obtain rfl := Except.ok.inj h
  refine ⟨?_, ?_, ?_, ?_⟩
  · intro hkept
    rw [hkept, feeLaw_self, Wei.saturate_toNat]
  · intro hzero hused
    rw [hzero, feeLaw_zero hused, Wei.toNat_saturate]
  · intro _ hmore
    rw [feeLaw_of_lt hmore, Nat.div_div_eq_div_mul, Nat.max_comm, Wei.toNat_saturate,
      deltaQuotient]
  · intro hless
    have htop := parent.baseFeeOrZero.toNat_le_top
    rw [feeLaw_of_le (Nat.le_of_lt hless), Nat.div_div_eq_div_mul, Wei.toNat_saturate,
      deltaQuotient]
    exact Nat.min_eq_left (Nat.le_trans (Nat.sub_le _ _) htop)

/-- **Base fees are exact**, and so are the deltas that they move by. Before the fork the rule does
not look at the block. -/
theorem base_fee_exact (valid : config.Valid) :
    (∀ parent, config.active parent.number = true →
      ∃ next, nextBaseFee config parent = .ok next ∧ ExactFee config parent next) ∧
    (∀ fee distance target, target ≠ 0 →
      ∃ delta, baseFeeDelta config fee distance target = .ok delta ∧
        ExactDelta config fee distance target delta) ∧
    ∀ parent, config.active parent.number = false →
      nextBaseFee config parent = .ok initialBaseFee := by
  refine ⟨?_, ?_, fun parent => nextBaseFee_of_inactive⟩
  · intro parent active
    obtain ⟨next, h⟩ := nextBaseFee_total valid parent
    exact ⟨next, h, exactFee_of_nextBaseFee valid active h⟩
  · intro fee distance target htarget
    have hdivisors : ¬ (target = 0 ∨ config.denominator = 0) := by
      rintro (hzero | hzero)
      · exact htarget hzero
      · exact valid.denominator_ne_zero hzero
    have h : baseFeeDelta config fee distance target = .ok (.saturate
        (fee.toNat * distance.toNat / target.toNat / config.denominator.toNat)) :=
      if_neg hdivisors
    exact ⟨_, h, exactDelta_of_baseFeeDelta h⟩

/-- The largest word of gas over a target of one, with the largest base fee but one. The quotient has
more than 256 bits, and the fee has room for one. -/
def overfull : Header := ⟨9, 0, 2, 0xFFFFFFFFFFFFFFFF, some ⟨Wei.size - 2, by decide⟩⟩

/-- After the overfull block the fee is the largest, and the delta was cut. -/
theorem overfull_base_fee_exact :
    forkAtSeven.Valid ∧ forkAtSeven.active overfull.number = true ∧
      Wei.top < deltaQuotient forkAtSeven overfull.baseFeeOrZero.toNat 0xFFFFFFFFFFFFFFFE 1 ∧
      ∃ next, nextBaseFee forkAtSeven overfull = .ok next ∧ ExactFee forkAtSeven overfull next ∧
        next.toNat = Wei.top := by
  have valid : forkAtSeven.Valid := ⟨by decide, by decide⟩
  have active : forkAtSeven.active overfull.number = true := by decide
  obtain ⟨next, h, exact⟩ := (base_fee_exact valid).1 overfull active
  refine ⟨valid, active, by decide, next, h, exact, ?_⟩
  rw [exact.raised (by decide) (by decide)]
  decide

end FeeMarket
