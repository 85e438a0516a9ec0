import FeeMarket.Proofs.HeaderChain

/-!
# The order of base fees

**Below** (`Header.Below`, `BlockGas.Below`). The same number and gas limit, no more gas used, and no
higher base fee.

The rule keeps the order (`Header.Below.next_le`), on both sides of the fork and from one side of the
gas target to the other: more gas used raises the fee, and a higher fee loses no more than what it
has on top of the lower one. So two chains over ordered gas stay ordered block by block
(`Descends.ordered`).

**Roomier** (`Header.Roomier`). The same header but for a larger gas limit. It turns the order round
(`Header.Roomier.next_le`), if the target is not zero to begin with.

Theorem (`base_fees_ordered`). All three at once, with the answers that are compared.
-/

namespace FeeMarket

variable {config : ChainConfig} {parent parent' child child' : Header} {gas gas' : BlockGas}
  {next next' : Wei}

/-! ## More gas and a higher fee -/

/-- At most the gas of another block with the same limit. -/
structure BlockGas.Below (gas gas' : BlockGas) : Prop where
  limit : gas.limit = gas'.limit
  used : gas.used ≤ gas'.used

/-- At most the gas and the base fee of another header with the same number and gas limit. -/
structure Header.Below (h h' : Header) : Prop where
  number : h.number = h'.number
  gasLimit : h.gasLimit = h'.gasLimit
  gasUsed : h.gasUsed ≤ h'.gasUsed
  baseFee : h.baseFeeOrZero ≤ h'.baseFeeOrZero

theorem Header.Below.next_le (valid : config.Valid) (below : parent.Below parent')
    (h : nextBaseFee config parent = .ok next) (h' : nextBaseFee config parent' = .ok next') :
    next ≤ next' := by
  cases active : config.active parent.number with
  | false =>
    rw [nextBaseFee_of_inactive active] at h
    rw [nextBaseFee_of_inactive (below.number ▸ active)] at h'
    cases h
    cases h'
    exact Nat.le_refl _
  | true =>
    have htarget : config.target parent = config.target parent' := by
      rw [ChainConfig.target, ChainConfig.target, below.gasLimit]
    rw [nextBaseFee_eq_law valid active] at h
    rw [nextBaseFee_eq_law valid (below.number ▸ active), ← htarget] at h'
    cases h
    cases h'
    apply Wei.saturate_mono
    calc feeLaw config.denominator.toNat parent.baseFeeOrZero.toNat (config.target parent)
          parent.gasUsed.toNat
        ≤ feeLaw config.denominator.toNat parent.baseFeeOrZero.toNat (config.target parent)
          parent'.gasUsed.toNat := feeLaw_mono_used (UInt64.le_iff_toNat_le.1 below.gasUsed)
      _ ≤ feeLaw config.denominator.toNat parent'.baseFeeOrZero.toNat (config.target parent)
          parent'.gasUsed.toNat := feeLaw_mono_fee below.baseFee

theorem Child.ordered (valid : config.Valid) (parents : parent.Below parent') (gases : gas.Below gas')
    (h : Child config parent gas child) (h' : Child config parent' gas' child') :
    child.Below child' := by
  obtain ⟨fee, hfee, hnumber, hlimit, hused, hbase⟩ := h.eq_ok
  obtain ⟨fee', hfee', hnumber', hlimit', hused', hbase'⟩ := h'.eq_ok
  rw [parents.number, hnumber', Except.ok.injEq] at hnumber
  refine ⟨hnumber.symm, ?_, ?_, ?_⟩
  · rw [hlimit, hlimit', gases.limit]
  · rw [hused, hused']
    exact gases.used
  · rw [Header.baseFeeOrZero, Header.baseFeeOrZero, hbase, hbase']
    exact parents.next_le valid hfee hfee'

/-- Chains over ordered gas are ordered header by header. -/
theorem Descends.ordered (valid : config.Valid) {start start' : Header}
    {gases gases' : List BlockGas} {headers headers' : List Header} (starts : start.Below start')
    (hgases : gases.Forall₂ BlockGas.Below gases') (h : Descends config start gases headers)
    (h' : Descends config start' gases' headers') : headers.Forall₂ Header.Below headers' := by
  induction h generalizing start' gases' headers' with
  | nil =>
    cases hgases
    cases h'
    exact .nil
  | cons hchild hrest ih =>
    obtain _ | ⟨hgas, hgases⟩ := hgases
    obtain _ | ⟨hchild', hrest'⟩ := h'
    have hbelow := hchild.ordered valid starts hgas hchild'
    exact .cons hbelow (ih hbelow hgases hrest')

/-! ## A larger gas limit -/

/-- Another header that differs by a larger gas limit at most. -/
structure Header.Roomier (h h' : Header) : Prop where
  number : h.number = h'.number
  gasLimit : h.gasLimit ≤ h'.gasLimit
  gasUsed : h.gasUsed = h'.gasUsed
  baseFee : h.baseFeeOrZero = h'.baseFeeOrZero

/-- A larger gas limit gives no higher fee. With a target of zero it may: there any gas adds just one
to the fee. -/
theorem Header.Roomier.next_le (valid : config.Valid) (roomier : parent.Roomier parent')
    (htarget : config.target parent ≠ 0) (h : nextBaseFee config parent = .ok next)
    (h' : nextBaseFee config parent' = .ok next') : next' ≤ next := by
  cases active : config.active parent.number with
  | false =>
    rw [nextBaseFee_of_inactive active] at h
    rw [nextBaseFee_of_inactive (roomier.number ▸ active)] at h'
    cases h
    cases h'
    exact Nat.le_refl _
  | true =>
    have hle : config.target parent ≤ config.target parent' :=
      Nat.div_le_div_right (UInt64.le_iff_toNat_le.1 roomier.gasLimit)
    rw [nextBaseFee_eq_law valid active] at h
    rw [nextBaseFee_eq_law valid (roomier.number ▸ active), ← roomier.gasUsed,
      ← roomier.baseFee] at h'
    cases h
    cases h'
    exact Wei.saturate_mono (feeLaw_anti_target (Nat.pos_of_ne_zero htarget) hle)

/-! ## The order -/

/-- **Base fees are ordered.** By gas used and fee, along chains, and the other way by gas limit. -/
theorem base_fees_ordered (valid : config.Valid) :
    (∀ {parent parent' : Header}, parent.Below parent' →
      ∃ next next', nextBaseFee config parent = .ok next ∧
        nextBaseFee config parent' = .ok next' ∧ next ≤ next') ∧
    (∀ {start start' : Header} {gases gases' : List BlockGas}, start.Below start' →
      gases.Forall₂ BlockGas.Below gases' →
        (start.number.toNat + gases.length < UInt64.size →
          ∃ headers headers', Descends config start gases headers ∧
            Descends config start' gases' headers') ∧
        ∀ {headers headers'}, Descends config start gases headers →
          Descends config start' gases' headers' → headers.Forall₂ Header.Below headers') ∧
    ∀ {parent parent' : Header}, parent.Roomier parent' → config.target parent ≠ 0 →
      ∃ next next', nextBaseFee config parent = .ok next ∧
        nextBaseFee config parent' = .ok next' ∧ next' ≤ next := by
  refine ⟨?_, ?_, ?_⟩
  · intro parent parent' below
    obtain ⟨next, h⟩ := nextBaseFee_total valid parent
    obtain ⟨next', h'⟩ := nextBaseFee_total valid parent'
    exact ⟨next, next', h, h', below.next_le valid h h'⟩
  · intro start start' gases gases' starts hgases
    refine ⟨?_, Descends.ordered valid starts hgases⟩
    intro room
    have room' : start'.number.toNat + gases'.length < UInt64.size := by
      rwa [← starts.number, ← hgases.length_eq]
    obtain ⟨headers, h⟩ := Descends.exists_of_room valid gases room
    obtain ⟨headers', h'⟩ := Descends.exists_of_room valid gases' room'
    exact ⟨headers, headers', h, h'⟩
  · intro parent parent' roomier htarget
    obtain ⟨next, h⟩ := nextBaseFee_total valid parent
    obtain ⟨next', h'⟩ := nextBaseFee_total valid parent'
    exact ⟨next, next', h, h', roomier.next_le valid htarget h h'⟩

/-- Across the fork at 7, a chain that starts with an empty block stays below one that starts with a
full one. -/
theorem empty_below_full_across_seven :
    forkAtSeven.Valid ∧
    ∃ headers headers', Descends forkAtSeven (acrossSeven 0) [⟨60000000, 0⟩, ⟨60000000, 0⟩] headers ∧
      Descends forkAtSeven (acrossSeven 0) [⟨60000000, 60000000⟩, ⟨60000000, 0⟩] headers' ∧
      headers.Forall₂ Header.Below headers' := by
  have valid : forkAtSeven.Valid := ⟨by decide, by decide⟩
  have same : (acrossSeven 0).Below (acrossSeven 0) := ⟨rfl, rfl, by decide, by decide⟩
  have hgases : [⟨60000000, 0⟩, ⟨60000000, 0⟩].Forall₂ BlockGas.Below
      [⟨60000000, 60000000⟩, ⟨60000000, 0⟩] :=
    .cons ⟨rfl, by decide⟩ (.cons ⟨rfl, by decide⟩ .nil)
  obtain ⟨room, ordered⟩ := (base_fees_ordered valid).2.1 same hgases
  obtain ⟨headers, headers', h, h'⟩ := room (by decide)
  exact ⟨valid, headers, headers', h, h', ordered h h'⟩

end FeeMarket
