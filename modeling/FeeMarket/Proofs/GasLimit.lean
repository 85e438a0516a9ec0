import FeeMarket.Proofs.HeaderChain
import Mathlib.Algebra.Order.Ring.Nat

/-!
# How far the gas limit drifts

**Drifts** (`Drifts`). What `k` blocks may make of a gas limit: each of them takes it down or up by
less than a 1024th.

A gas limit is held against a quotient that was rounded down, and has to stay strictly below it, so
one block moves it by less than the exact share (`drifts_of_verifyGasLimit`). Shares multiply, so
along accepted headers the limit stays between two geometric bounds (`gas_limit_drifts_boundedly`).
Only the first header may lie before the fork; its limit is scaled before the next one is held
against it.
-/

namespace FeeMarket

variable {config : ChainConfig} {parent child : Header}

/-! ## One block -/

theorem verifyGasLimit_eq_ok {limit next : UInt64} :
    verifyGasLimit limit next = .ok () ↔
      Word.distance limit next < limit / gasLimitBoundDivisor ∧ minGasLimit ≤ next := by
  unfold verifyGasLimit
  simp only
  split
  · rename_i h
    simp [UInt64.not_lt.2 h]
  · rename_i h
    split
    · rename_i hmin
      simp [UInt64.not_le.2 hmin]
    · rename_i hmin
      simp [UInt64.not_le.1 h, UInt64.not_lt.1 hmin]

/-- What `k` blocks may make of a gas limit. -/
structure Drifts (k limit last : Nat) : Prop where
  lower : 1023 ^ k * limit < 1024 ^ k * last
  upper : 1024 ^ k * last < 1025 ^ k * limit

theorem drifts_of_verifyGasLimit {limit next : UInt64} (h : verifyGasLimit limit next = .ok ()) :
    Drifts 1 limit.toNat next.toNat := by
  have hnear := UInt64.lt_iff_toNat_lt.1 (verifyGasLimit_eq_ok.1 h).1
  have hquotient : (limit / gasLimitBoundDivisor).toNat = limit.toNat / 1024 :=
    UInt64.toNat_div _ _
  rw [Word.toNat_distance, hquotient] at hnear
  constructor
  · rw [Nat.pow_one, Nat.pow_one]
    omega
  · rw [Nat.pow_one, Nat.pow_one]
    omega

theorem verifyGasLimit_of_accepted (h : verifyHeader config parent child = .ok (.ok ())) :
    verifyGasLimit (config.referenceGasLimit parent) child.gasLimit = .ok () := by
  unfold verifyHeader at h
  cases hlimit : verifyGasLimit (config.referenceGasLimit parent) child.gasLimit with
  | error e =>
    rw [hlimit] at h
    cases h
  | ok u => rfl

/-! ## Chains -/

/-- What some blocks may do to a limit, and then some more. -/
theorem Drifts.trans {j k limit next last : Nat} (first : Drifts j limit next)
    (rest : Drifts k next last) : Drifts (j + k) limit last where
  lower := by
    have hpos : 0 < 1023 ^ k := Nat.pow_pos (by decide)
    calc 1023 ^ (j + k) * limit
        = 1023 ^ k * (1023 ^ j * limit) := by rw [Nat.pow_add, Nat.mul_right_comm, Nat.mul_comm]
      _ < 1023 ^ k * (1024 ^ j * next) := Nat.mul_lt_mul_of_pos_left first.lower hpos
      _ = 1024 ^ j * (1023 ^ k * next) := Nat.mul_left_comm _ _ _
      _ ≤ 1024 ^ j * (1024 ^ k * last) := Nat.mul_le_mul_left _ (Nat.le_of_lt rest.lower)
      _ = 1024 ^ (j + k) * last := by rw [Nat.pow_add, Nat.mul_assoc]
  upper := by
    have hpos : 0 < 1024 ^ j := Nat.pow_pos (by decide)
    calc 1024 ^ (j + k) * last
        = 1024 ^ j * (1024 ^ k * last) := by rw [Nat.pow_add, Nat.mul_assoc]
      _ < 1024 ^ j * (1025 ^ k * next) := Nat.mul_lt_mul_of_pos_left rest.upper hpos
      _ = 1025 ^ k * (1024 ^ j * next) := Nat.mul_left_comm _ _ _
      _ ≤ 1025 ^ k * (1025 ^ j * limit) := Nat.mul_le_mul_left _ (Nat.le_of_lt first.upper)
      _ = 1025 ^ (j + k) * limit := by rw [Nat.pow_add, Nat.mul_right_comm, Nat.mul_comm]

namespace Accepted

variable {start last : Header} {headers : List Header}

theorem minGasLimit_le (h : Accepted config (start :: headers)) :
    ∀ header ∈ headers, minGasLimit ≤ header.gasLimit := by
  induction headers generalizing start with
  | nil => simp
  | cons first rest ih =>
    obtain ⟨hfirst, hrest⟩ := List.isChain_cons_cons.1 h
    intro header hmem
    rcases List.mem_cons.1 hmem with rfl | hmem
    · exact (verifyGasLimit_eq_ok.1 (verifyGasLimit_of_accepted hfirst)).2
    · exact ih hrest header hmem

/-- The first header may lie before the fork. Every other parent is held to the limit that it
declares. -/
theorem drifts (h : Accepted config (start :: headers)) {i : Nat} (hlast : headers[i]? = some last)
    (active : ∀ header ∈ headers.take i, config.active header.number = true) :
    Drifts (i + 1) (config.referenceGasLimit start).toNat last.gasLimit.toNat := by
  induction headers generalizing start i with
  | nil => simp at hlast
  | cons first rest ih =>
    obtain ⟨hfirst, hrest⟩ := List.isChain_cons_cons.1 h
    have hstep := drifts_of_verifyGasLimit (verifyGasLimit_of_accepted hfirst)
    cases i with
    | zero =>
      cases hlast
      exact hstep
    | succ i =>
      have hactive : config.active first.number = true := active first List.mem_cons_self
      have hdeclared : config.referenceGasLimit first = first.gasLimit := if_pos hactive
      have hlater := ih hrest hlast fun header hmem => active header (List.mem_cons_of_mem _ hmem)
      rw [hdeclared] at hlater
      rw [Nat.add_comm]
      exact hstep.trans hlater

end Accepted

/-- **The gas limit drifts boundedly.** Along accepted headers, of which the first alone may lie
before the fork. -/
theorem gas_limit_drifts_boundedly {start : Header} {headers : List Header}
    (accepted : Accepted config (start :: headers)) :
    (∀ header ∈ headers, minGasLimit ≤ header.gasLimit) ∧
    ∀ {i : Nat} {last}, headers[i]? = some last →
      (∀ header ∈ headers.take i, config.active header.number = true) →
        Drifts (i + 1)
          (if config.active start.number then start.gasLimit.toNat
            else min (start.gasLimit.toNat * config.elasticity.toNat) (UInt64.size - 1))
          last.gasLimit.toNat := by
  refine ⟨accepted.minGasLimit_le, ?_⟩
  intro i last hlast active
  rw [← ChainConfig.toNat_referenceGasLimit]
  exact accepted.drifts hlast active

/-- The block after `acrossSeven 1` with the highest gas limit that is accepted. -/
def roomiest : Header := ⟨8, 0, 60058592, 0, some (.saturate 1125000000)⟩

/-- The limit of the last block before the fork is doubled, and two blocks later it is just within
its bounds. -/
theorem gas_limit_drifts_across_seven :
    Accepted forkAtSeven [acrossSeven 0, acrossSeven 1, roomiest] ∧
      Drifts 2 60000000 roomiest.gasLimit.toNat ∧ minGasLimit ≤ roomiest.gasLimit := by
  have accepted : Accepted forkAtSeven [acrossSeven 0, acrossSeven 1, roomiest] :=
    .cons_cons rfl (.cons_cons rfl (.singleton _))
  have active : ∀ header ∈ [acrossSeven 1, roomiest].take 1,
      forkAtSeven.active header.number = true := by decide
  obtain ⟨hmin, hdrifts⟩ := gas_limit_drifts_boundedly accepted
  exact ⟨accepted, hdrifts (i := 1) rfl active, hmin roomiest (by decide)⟩

end FeeMarket
