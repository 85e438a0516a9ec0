import FeeMarket.Proofs.HeaderChain
import FeeMarket.Proofs.Numbers
import Mathlib.Algebra.Order.Ring.Nat

/-!
# How far the base fee falls

**Run** (`feeAfter`). The base fee after some blocks of the fee market, one after another, whatever
gas they have and use.

A block lowers the base fee by a `denominator`-th at most, rounded down (`moves_of_active`). So a run
of `k` blocks keeps the `k`-th power of what one block keeps, and as rounding down takes nothing
from a fee below the denominator, no run takes the fee below the denominator less one: a fee that
is positive stays positive, unless the denominator is one (`base_fee_decays_boundedly`).

The headers of a chain in the fee market declare the fees of a run (`Descends.feeAfter_take`).
-/

namespace FeeMarket

variable {config : ChainConfig} {parent : Header} {fee : Wei}

/-! ## One block -/

/-- How far the base fee moves with one block. -/
structure Moves (config : ChainConfig) (parent : Header) (next : Wei) : Prop where
  lower : parent.baseFeeOrZero.toNat - parent.baseFeeOrZero.toNat / config.denominator.toNat ≤
    next.toNat
  upper : parent.gasUsed ≤ parent.gasLimit → config.elasticity.toNat ∣ parent.gasLimit.toNat →
    next.toNat ≤ parent.baseFeeOrZero.toNat + max 1
      (parent.baseFeeOrZero.toNat * (config.elasticity.toNat - 1) / config.denominator.toNat)

theorem moves_of_active (valid : config.Valid) (active : config.active parent.number = true) :
    ∃ next, nextBaseFee config parent = .ok next ∧ Moves config parent next := by
  refine ⟨_, nextBaseFee_eq_law valid active, ?_, ?_⟩
  · rw [Wei.toNat_saturate]
    refine Nat.le_min.2 ⟨sub_le_feeLaw, ?_⟩
    exact Nat.le_trans (Nat.sub_le _ _) parent.baseFeeOrZero.toNat_le_top
  · intro hused hdvd
    have hwithin : parent.gasUsed.toNat ≤ config.elasticity.toNat * config.target parent := by
      rw [ChainConfig.target, Nat.mul_div_cancel' hdvd]
      exact UInt64.le_iff_toNat_le.1 hused
    exact Nat.le_trans (Nat.min_le_left _ _) (feeLaw_le_add hwithin)

/-! ## Runs -/

/-- The base fee after some blocks that follow one another. What the headers declare does not
count, as each has the fee that the rule gives after the one before it. -/
def feeAfter (config : ChainConfig) (fee : Wei) : List Header → Checked Wei
  | [] => .ok fee
  | h :: rest => do
    let next ← nextBaseFee config { h with baseFee := some fee }
    feeAfter config next rest

/-- What a run of `k` blocks leaves of a base fee. -/
structure Leaves (denominator k fee last : Nat) : Prop where
  share : fee * (denominator - 1) ^ k ≤ last * denominator ^ k
  floor : min fee (denominator - 1) ≤ last

namespace Leaves

variable {denominator k fee next last : Nat}

theorem zero : Leaves denominator 0 fee fee where
  share := by rw [Nat.pow_zero, Nat.pow_zero]
  floor := Nat.min_le_left _ _

theorem succ (pos : 0 < denominator) (kept : fee - fee / denominator ≤ next)
    (rest : Leaves denominator k next last) : Leaves denominator (k + 1) fee last where
  share := by
    have hkept : fee * (denominator - 1) ≤ next * denominator := by
      have hquotient := Nat.div_mul_le_self fee denominator
      have hmul := Nat.mul_le_mul_right denominator kept
      rw [Nat.sub_mul] at hmul
      rw [Nat.mul_sub, Nat.mul_one]
      omega
    calc fee * (denominator - 1) ^ (k + 1)
        = fee * (denominator - 1) * (denominator - 1) ^ k := by
          rw [Nat.pow_succ, Nat.mul_assoc, Nat.mul_comm (denominator - 1)]
      _ ≤ next * denominator * (denominator - 1) ^ k := Nat.mul_le_mul_right _ hkept
      _ = next * (denominator - 1) ^ k * denominator := Nat.mul_right_comm _ _ _
      _ ≤ last * denominator ^ k * denominator := Nat.mul_le_mul_right _ rest.share
      _ = last * denominator ^ (k + 1) := by rw [Nat.pow_succ, Nat.mul_assoc]
  floor := by
    -- Below the denominator nothing is taken off; above it, what is left is not below it less one.
    have hfloor : min fee (denominator - 1) ≤ next := by
      rcases Nat.lt_or_ge fee denominator with hlt | hge
      · rw [Nat.div_eq_of_lt hlt] at kept
        omega
      · have hquotient : 1 ≤ fee / denominator := (Nat.one_le_div_iff pos).2 hge
        have hmul := Nat.div_mul_le_self fee denominator
        have hone := Nat.le_mul_of_pos_left (denominator - 1) hquotient
        rw [Nat.mul_sub, Nat.mul_one] at hone
        omega
    have := rest.floor
    omega

end Leaves

/-- Every run of blocks of the fee market has a base fee, and leaves that much. -/
theorem feeAfter_leaves (valid : config.Valid) {headers : List Header}
    (active : ∀ h ∈ headers, config.active h.number = true) (fee : Wei) :
    ∃ last, feeAfter config fee headers = .ok last ∧
      Leaves config.denominator.toNat headers.length fee.toNat last.toNat := by
  induction headers generalizing fee with
  | nil => exact ⟨fee, rfl, .zero⟩
  | cons h rest ih =>
    have hactive : config.active { h with baseFee := some fee }.number = true :=
      active h List.mem_cons_self
    obtain ⟨next, hnext, moves⟩ := moves_of_active valid hactive
    obtain ⟨last, hlast, leaves⟩ := ih (fun g hg => active g (List.mem_cons_of_mem h hg)) next
    refine ⟨last, ?_, leaves.succ (toNat_pos valid.denominator_ne_zero) moves.lower⟩
    rw [feeAfter, hnext]
    exact hlast

/-! ## Chains -/

theorem Child.active {gas : BlockGas} {child : Header} (h : Child config parent gas child)
    (active : config.active parent.number = true) : config.active child.number = true := by
  obtain ⟨-, -, hnumber, -⟩ := h.eq_ok
  have hsucc := Word.add_eq_ok.1 hnumber
  cases hfork : config.forkBlock with
  | none => simp [ChainConfig.active, hfork] at active
  | some fork =>
    simp only [ChainConfig.active, hfork, decide_eq_true_eq, UInt64.le_iff_toNat_le] at active ⊢
    omega

namespace Descends

variable {start child : Header} {gases : List BlockGas} {headers : List Header}

theorem active (h : Descends config start gases headers)
    (hstart : config.active start.number = true) :
    ∀ g ∈ start :: headers, config.active g.number = true := by
  induction h with
  | nil => simpa using hstart
  | cons hchild hrest ih =>
    intro g hg
    rcases List.mem_cons.1 hg with rfl | hg
    · exact hstart
    · exact ih (hchild.active hstart) g hg

theorem feeAfter_take (h : Descends config start gases headers) {i : Nat}
    (hc : headers[i]? = some child) :
    feeAfter config start.baseFeeOrZero ((start :: headers).take (i + 1)) =
      .ok child.baseFeeOrZero := by
  induction h generalizing i with
  | nil => simp at hc
  | @cons parent gas next gases headers hchild hrest ih =>
    obtain ⟨fee, hfee, -, -, -, hbase⟩ := hchild.eq_ok
    have hnext : nextBaseFee config { parent with baseFee := some parent.baseFeeOrZero } =
        .ok next.baseFeeOrZero := by
      have hwant : next.baseFeeOrZero = fee := by rw [Header.baseFeeOrZero, hbase, Option.getD_some]
      rw [hwant]
      exact hfee
    rw [List.take_succ_cons, feeAfter, hnext]
    cases i with
    | zero =>
      cases hc
      rfl
    | succ i => exact ih hc

end Descends

/-! ## The bounds -/

/-- **The base fee decays boundedly.** Of one block, of a run, and of a chain. -/
theorem base_fee_decays_boundedly (valid : config.Valid) :
    (∀ parent, config.active parent.number = true →
      ∃ next, nextBaseFee config parent = .ok next ∧ Moves config parent next) ∧
    (∀ headers, (∀ h ∈ headers, config.active h.number = true) → ∀ fee,
      ∃ last, feeAfter config fee headers = .ok last ∧
        Leaves config.denominator.toNat headers.length fee.toNat last.toNat ∧
        (2 ≤ config.denominator → 0 < fee.toNat → 0 < last.toNat)) ∧
    ∀ {start gases headers}, config.active start.number = true →
      Descends config start gases headers → ∀ {i : Nat} {child}, headers[i]? = some child →
        feeAfter config start.baseFeeOrZero ((start :: headers).take (i + 1)) =
          .ok child.baseFeeOrZero ∧
        Leaves config.denominator.toNat (i + 1) start.baseFeeOrZero.toNat
          child.baseFeeOrZero.toNat := by
  refine ⟨fun _ => moves_of_active valid, ?_, ?_⟩
  · intro headers active fee
    obtain ⟨last, hlast, leaves⟩ := feeAfter_leaves valid active fee
    refine ⟨last, hlast, leaves, ?_⟩
    intro htwo hpos
    have hdenominator : 2 ≤ config.denominator.toNat := UInt64.le_iff_toNat_le.1 htwo
    have := leaves.floor
    omega
  · intro start gases headers hstart h i child hc
    have hrun := h.feeAfter_take hc
    have hlength : ((start :: headers).take (i + 1)).length = i + 1 := by
      have := (List.getElem?_eq_some_iff.1 hc).1
      rw [List.length_take, List.length_cons]
      omega
    have active : ∀ g ∈ (start :: headers).take (i + 1), config.active g.number = true :=
      fun g hg => h.active hstart g (List.mem_of_mem_take hg)
    obtain ⟨last, hlast, leaves⟩ := feeAfter_leaves valid active start.baseFeeOrZero
    rw [hlength] at leaves
    cases hrun.symm.trans hlast
    exact ⟨hrun, leaves⟩

/-- Three empty blocks with a denominator of eight leave a fee of seven as it is. -/
theorem seven_is_kept :
    forkAtSeven.Valid ∧ ∃ last, feeAfter forkAtSeven ⟨7, by decide⟩ (.replicate 3 (acrossSeven 2)) =
      .ok last ∧ 7 ≤ last.toNat ∧ 0 < last.toNat := by
  have valid : forkAtSeven.Valid := ⟨by decide, by decide⟩
  have hactive : ∀ h ∈ List.replicate 3 (acrossSeven 2), forkAtSeven.active h.number = true := by
    intro h hh
    rw [List.eq_of_mem_replicate hh]
    rfl
  obtain ⟨last, hlast, leaves, hpos⟩ :=
    (base_fee_decays_boundedly valid).2.1 _ hactive ⟨7, by decide⟩
  exact ⟨valid, last, hlast, leaves.floor, hpos (by decide) (by decide)⟩

end FeeMarket
