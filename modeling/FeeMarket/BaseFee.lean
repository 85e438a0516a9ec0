import FeeMarket.Block
import FeeMarket.Config
import FeeMarket.Fault

/-!
# The base fee rule

**Target.** The gas limit of a block divided by the elasticity.

**Next base fee.** A block that used its target keeps the base fee. A block that used more raises
it, by at least one wei, and a block that used less lowers it, each in proportion to the
distance from the target: the fee times the distance, divided by the target and by the
denominator. Amounts saturate. A target of zero raises the fee by one wei. The first block of
the fee market, and a block whose parent lies before the fork, starts from `initialBaseFee`.

**Child.** The header that follows another by this rule, for given gas.
-/

namespace FeeMarket

/-- The base fee that the fee market starts from. -/
def initialBaseFee : Wei := ⟨1000000000, by decide⟩

/-- How far the base fee moves for a distance from the target. -/
def baseFeeDelta (config : ChainConfig) (baseFee : Wei) (distance target : UInt64) :
    Checked Wei :=
  if target = 0 ∨ config.denominator = 0 then .error .divisionByZero
  else
    .ok (.saturate (baseFee.toNat * distance.toNat / target.toNat / config.denominator.toNat))

/-- The base fee of the block that follows `parent`. -/
def nextBaseFee (config : ChainConfig) (parent : Header) : Checked Wei :=
  if config.active parent.number then do
    let baseFee := parent.baseFeeOrZero
    let target ← Word.div parent.gasLimit config.elasticity
    if parent.gasUsed = target then return baseFee
    else if target = 0 then return baseFee + 1
    else if target < parent.gasUsed then
      let delta ← baseFeeDelta config baseFee (parent.gasUsed - target) target
      return baseFee + max delta 1
    else
      let delta ← baseFeeDelta config baseFee (target - parent.gasUsed) target
      return baseFee - delta
  else .ok initialBaseFee

/-- The gas of a block to be: its limit, and how much of it is used. -/
structure BlockGas where
  limit : UInt64
  used : UInt64
deriving DecidableEq

/-- The header that follows `parent` with the base fee of the rule. It has no hash yet. -/
def childHeader (config : ChainConfig) (parent : Header) (gas : BlockGas) : Checked Header := do
  let fee ← nextBaseFee config parent
  let number ← Word.add parent.number 1
  return ⟨number, 0, gas.limit, gas.used, some fee⟩

end FeeMarket
