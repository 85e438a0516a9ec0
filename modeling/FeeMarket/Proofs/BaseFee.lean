import FeeMarket.BaseFee

/-!
# The base fee rule over the natural numbers

**Law** (`feeLaw`). What the rule wants for a base fee, a target and the gas used, all of them natural
numbers, before it is cut to an amount. As a quotient by zero is zero, a target of zero is no
case of its own.

The law is bounded by its fee from both sides (`sub_le_feeLaw`, `feeLaw_le_add`), it rises with the
fee and with the gas used, and it falls as the target rises. A smaller target, or more gas, may
carry it from the falling side over to the rising one; then the fee itself lies in between.

With valid parameters the rule is the law, saturated (`nextBaseFee_eq_law`). So it gives an answer
whatever the parent: the target that it divides by is not zero where it does.
-/

namespace FeeMarket

/-! ## The law -/

/-- The base fee that the rule wants, if no amount is too large. -/
def feeLaw (denominator fee target used : Nat) : Nat :=
  if used ≤ target then fee - fee * (target - used) / target / denominator
  else fee + max (fee * (used - target) / target / denominator) 1

section Law

variable {denominator fee fee' target target' used used' : Nat}

theorem feeLaw_of_le (h : used ≤ target) :
    feeLaw denominator fee target used =
      fee - fee * (target - used) / target / denominator := if_pos h

theorem feeLaw_of_lt (h : target < used) :
    feeLaw denominator fee target used =
      fee + max (fee * (used - target) / target / denominator) 1 :=
  if_neg (Nat.not_le.2 h)

theorem feeLaw_self : feeLaw denominator fee target target = fee := by
  rw [feeLaw_of_le (Nat.le_refl target), Nat.sub_self, Nat.mul_zero, Nat.zero_div, Nat.zero_div,
    Nat.sub_zero]

theorem feeLaw_zero (h : 0 < used) : feeLaw denominator fee 0 used = fee + 1 := by
  rw [feeLaw_of_lt h, Nat.div_zero, Nat.zero_div, Nat.zero_max]

theorem feeLaw_le_self (h : used ≤ target) : feeLaw denominator fee target used ≤ fee := by
  rw [feeLaw_of_le h]
  exact Nat.sub_le _ _

theorem lt_feeLaw (h : target < used) : fee < feeLaw denominator fee target used := by
  rw [feeLaw_of_lt h]
  have := Nat.le_max_right (fee * (used - target) / target / denominator) 1
  omega

/-! ## Bounds -/

theorem sub_le_feeLaw : fee - fee / denominator ≤ feeLaw denominator fee target used := by
  rcases Nat.lt_or_ge target used with h | h
  · exact Nat.le_trans (Nat.sub_le _ _) (Nat.le_of_lt (lt_feeLaw h))
  · rw [feeLaw_of_le h]
    have hquotient : fee * (target - used) / target ≤ fee :=
      Nat.div_le_of_le_mul ((Nat.mul_comm target fee).symm ▸
        Nat.mul_le_mul_left fee (Nat.sub_le target used))
    exact Nat.sub_le_sub_left (Nat.div_le_div_right hquotient) fee

/-- Gas within `factor` times the target adds at most `factor - 1` times a `denominator`-th of the
fee, or one. -/
theorem feeLaw_le_add {factor : Nat} (h : used ≤ factor * target) :
    feeLaw denominator fee target used ≤ fee + max 1 (fee * (factor - 1) / denominator) := by
  rcases Nat.lt_or_ge target used with hlt | hle
  · rw [feeLaw_of_lt hlt, Nat.max_comm]
    have hdistance : used - target ≤ (factor - 1) * target := by
      rw [Nat.sub_mul, Nat.one_mul]
      exact Nat.sub_le_sub_right h target
    have hquotient : fee * (used - target) / target ≤ fee * (factor - 1) := by
      refine Nat.div_le_of_le_mul ?_
      calc fee * (used - target) ≤ fee * ((factor - 1) * target) :=
            Nat.mul_le_mul_left fee hdistance
        _ = target * (fee * (factor - 1)) := by rw [← Nat.mul_assoc, Nat.mul_comm]
    have := Nat.div_le_div_right (c := denominator) hquotient
    omega
  · exact Nat.le_trans (feeLaw_le_self hle) (Nat.le_add_right _ _)

/-! ## Order -/

theorem feeLaw_mono_used (h : used ≤ used') :
    feeLaw denominator fee target used ≤ feeLaw denominator fee target used' := by
  rcases Nat.lt_or_ge target used with hlt | hle
  · rw [feeLaw_of_lt hlt, feeLaw_of_lt (Nat.lt_of_lt_of_le hlt h)]
    have hdistance := Nat.mul_le_mul_left fee (Nat.sub_le_sub_right h target)
    have := Nat.div_le_div_right (c := denominator) (Nat.div_le_div_right (c := target) hdistance)
    omega
  rcases Nat.lt_or_ge target used' with hlt' | hle'
  · exact Nat.le_trans (feeLaw_le_self hle) (Nat.le_of_lt (lt_feeLaw hlt'))
  · rw [feeLaw_of_le hle, feeLaw_of_le hle']
    have hdistance := Nat.mul_le_mul_left fee (Nat.sub_le_sub_left h target)
    exact Nat.sub_le_sub_left
      (Nat.div_le_div_right (Nat.div_le_div_right hdistance)) fee

theorem sub_div_mono {share whole : Nat} (hshare : share ≤ whole) (h : fee ≤ fee') :
    fee - fee * share / whole ≤ fee' - fee' * share / whole := by
  rcases Nat.eq_zero_or_pos whole with rfl | hwhole
  · simpa using h
  -- What the higher fee loses beyond the lower one is at most what it has beyond it.
  have hextra : (fee' - fee) * share ≤ (fee' - fee) * whole := Nat.mul_le_mul_left _ hshare
  have hsplit : fee' * share ≤ fee * share + (fee' - fee) * whole := by
    calc fee' * share = (fee + (fee' - fee)) * share := by rw [Nat.add_sub_cancel' h]
      _ = fee * share + (fee' - fee) * share := Nat.add_mul _ _ _
      _ ≤ fee * share + (fee' - fee) * whole := Nat.add_le_add_left hextra _
  have hquotient : fee' * share / whole ≤ fee * share / whole + (fee' - fee) := by
    rw [← Nat.add_mul_div_right _ _ hwhole]
    exact Nat.div_le_div_right hsplit
  omega

theorem feeLaw_mono_fee (h : fee ≤ fee') :
    feeLaw denominator fee target used ≤ feeLaw denominator fee' target used := by
  rcases Nat.lt_or_ge target used with hlt | hle
  · rw [feeLaw_of_lt hlt, feeLaw_of_lt hlt]
    have hproduct := Nat.mul_le_mul_right (used - target) h
    have := Nat.div_le_div_right (c := denominator) (Nat.div_le_div_right (c := target) hproduct)
    omega
  rw [feeLaw_of_le hle, feeLaw_of_le hle]
  rcases Nat.eq_zero_or_pos denominator with rfl | hdenominator
  · simpa using h
  rw [Nat.div_div_eq_div_mul, Nat.div_div_eq_div_mul]
  apply sub_div_mono _ h
  exact Nat.le_trans (Nat.sub_le target used) (Nat.le_mul_of_pos_right target hdenominator)

theorem div_le_div_of_cross {a a' b b' : Nat} (hb : 0 < b) (h : a' * b ≤ a * b') :
    a' / b' ≤ a / b := by
  rcases Nat.eq_zero_or_pos b' with rfl | hb'
  · rw [Nat.div_zero]
    exact Nat.zero_le _
  rw [Nat.le_div_iff_mul_le hb]
  refine Nat.le_of_mul_le_mul_right ?_ hb'
  calc a' / b' * b * b' = a' / b' * b' * b := Nat.mul_right_comm _ _ _
    _ ≤ a' * b := Nat.mul_le_mul_right b (Nat.div_mul_le_self a' b')
    _ ≤ a * b' := h

theorem feeLaw_anti_target (hpos : 0 < target) (h : target ≤ target') :
    feeLaw denominator fee target' used ≤ feeLaw denominator fee target used := by
  -- The distances across: each is the same product less one that the targets order.
  have hcross : used * target ≤ used * target' := Nat.mul_le_mul_left used h
  have hsame : target * target' = target' * target := Nat.mul_comm target target'
  rcases Nat.lt_or_ge target' used with hlt' | hle'
  · have hlt := Nat.lt_of_le_of_lt h hlt'
    rw [feeLaw_of_lt hlt, feeLaw_of_lt hlt']
    have hdistance : (used - target') * target ≤ (used - target) * target' := by
      rw [Nat.sub_mul, Nat.sub_mul]
      omega
    have hquotient : fee * (used - target') / target' ≤ fee * (used - target) / target := by
      apply div_le_div_of_cross hpos
      rw [Nat.mul_assoc, Nat.mul_assoc]
      exact Nat.mul_le_mul_left fee hdistance
    have := Nat.div_le_div_right (c := denominator) hquotient
    omega
  rcases Nat.lt_or_ge target used with hlt | hle
  · exact Nat.le_trans (feeLaw_le_self hle') (Nat.le_of_lt (lt_feeLaw hlt))
  · rw [feeLaw_of_le hle, feeLaw_of_le hle']
    have hdistance : (target - used) * target' ≤ (target' - used) * target := by
      rw [Nat.sub_mul, Nat.sub_mul]
      omega
    have hquotient : fee * (target - used) / target ≤ fee * (target' - used) / target' := by
      apply div_le_div_of_cross (Nat.lt_of_lt_of_le hpos h)
      rw [Nat.mul_assoc, Nat.mul_assoc]
      exact Nat.mul_le_mul_left fee hdistance
    exact Nat.sub_le_sub_left (Nat.div_le_div_right hquotient) fee

end Law

/-! ## The rule is the law -/

/-- The gas target of a block. -/
def ChainConfig.target (config : ChainConfig) (h : Header) : Nat :=
  h.gasLimit.toNat / config.elasticity.toNat

variable {config : ChainConfig} {parent : Header}

theorem nextBaseFee_of_inactive (h : config.active parent.number = false) :
    nextBaseFee config parent = .ok initialBaseFee := by
  rw [nextBaseFee, h]
  rfl

/-- **The rule is the law, saturated.** -/
theorem nextBaseFee_eq_law (valid : config.Valid) (h : config.active parent.number = true) :
    nextBaseFee config parent =
      .ok (.saturate (feeLaw config.denominator.toNat parent.baseFeeOrZero.toNat
        (config.target parent) parent.gasUsed.toNat)) := by
  have hdiv : Word.div parent.gasLimit config.elasticity =
      .ok (parent.gasLimit / config.elasticity) := if_neg valid.elasticity_ne_zero
  have htarget : config.target parent = (parent.gasLimit / config.elasticity).toNat :=
    (UInt64.toNat_div _ _).symm
  have hdelta (distance : UInt64) (hne : parent.gasLimit / config.elasticity ≠ 0) :
      baseFeeDelta config parent.baseFeeOrZero distance (parent.gasLimit / config.elasticity) =
        .ok (.saturate (parent.baseFeeOrZero.toNat * distance.toNat / config.target parent /
          config.denominator.toNat)) := by
    rw [baseFeeDelta, if_neg (by simp [hne, valid.denominator_ne_zero]), htarget]
  unfold nextBaseFee
  rw [if_pos h, hdiv]
  show (if parent.gasUsed = parent.gasLimit / config.elasticity then _ else _) = _
  by_cases hkeep : parent.gasUsed = parent.gasLimit / config.elasticity
  · rw [if_pos hkeep, htarget, ← hkeep, feeLaw_self, Wei.saturate_toNat]
    rfl
  rw [if_neg hkeep]
  by_cases hzero : parent.gasLimit / config.elasticity = 0
  · have hused : 0 < parent.gasUsed.toNat :=
      Nat.pos_of_ne_zero fun h0 => hkeep ((UInt64.toNat_inj.1 h0).trans hzero.symm)
    rw [if_pos hzero, htarget, hzero, UInt64.toNat_zero, feeLaw_zero hused]
    rfl
  rw [if_neg hzero]
  by_cases hmore : parent.gasLimit / config.elasticity < parent.gasUsed
  · have hlt : config.target parent < parent.gasUsed.toNat :=
      htarget ▸ UInt64.lt_iff_toNat_lt.1 hmore
    rw [if_pos hmore, hdelta _ hzero, feeLaw_of_lt hlt, ← Wei.add_max_saturate,
      UInt64.toNat_sub_of_le _ _ (UInt64.le_of_lt hmore), ← htarget]
    rfl
  · have hle : parent.gasUsed.toNat ≤ config.target parent :=
      htarget ▸ UInt64.le_iff_toNat_le.1 (UInt64.not_lt.1 hmore)
    rw [if_neg hmore, hdelta _ hzero, feeLaw_of_le hle, ← Wei.sub_saturate,
      UInt64.toNat_sub_of_le _ _ (UInt64.not_lt.1 hmore), ← htarget]
    rfl

/-- **The rule is total.** -/
theorem nextBaseFee_total (valid : config.Valid) (parent : Header) :
    ∃ fee, nextBaseFee config parent = .ok fee := by
  cases h : config.active parent.number with
  | false => exact ⟨_, nextBaseFee_of_inactive h⟩
  | true => exact ⟨_, nextBaseFee_eq_law valid h⟩

end FeeMarket
