import FeeMarket.BaseFee

/-!
# Accepting a header

**Gas limit.** A gas limit differs from the one before it by less than a 1024th of that, and is at
least 5000.

**Header.** The gas limit is held against the parent's, which for a parent before the fork is
first multiplied by the elasticity. Then the header declares a base fee, and it is the one
that the base fee rule gives. The first rule that a header breaks is the error.
-/

namespace FeeMarket

/-- The rule of the fee market that a header breaks. -/
inductive ConsensusError where
  | invalidGasLimit (declared want limit : UInt64)
  | gasLimitBelowMinimum (declared minimum : UInt64)
  | missingBaseFee
  | invalidBaseFee (declared want parentBaseFee : Wei) (parentGasUsed : UInt64)
deriving DecidableEq

namespace ConsensusError

def message : ConsensusError → String
  | .invalidGasLimit gasLimit want limit =>
    "invalid gas limit: have " ++ Word.toDecimal gasLimit ++ ", want " ++ Word.toDecimal want
      ++ " +-= " ++ Word.toDecimal limit
  | .gasLimitBelowMinimum gasLimit minimum =>
    "invalid gas limit " ++ Word.toDecimal gasLimit ++ " below " ++ Word.toDecimal minimum
  | .missingBaseFee => "header is missing baseFee"
  | .invalidBaseFee baseFee want parentBaseFee parentGasUsed =>
    "invalid baseFee: have " ++ baseFee.toDecimal ++ ", want " ++ want.toDecimal
      ++ ", parentBaseFee " ++ parentBaseFee.toDecimal
      ++ ", parentGasUsed " ++ Word.toDecimal parentGasUsed

end ConsensusError

/-- The gas limit of a block divided by this bounds the change to the next one. -/
def gasLimitBoundDivisor : UInt64 := 1024

/-- The lowest gas limit that a header may have. -/
def minGasLimit : UInt64 := 5000

/-- Whether a gas limit may follow another. -/
def verifyGasLimit (parent header : UInt64) : Except ConsensusError Unit :=
  let limit := parent / gasLimitBoundDivisor
  if limit ≤ Word.distance parent header then
    .error (.invalidGasLimit header parent (Word.subDownTo limit 1))
  else if header < minGasLimit then .error (.gasLimitBelowMinimum header minGasLimit)
  else .ok ()

/-- The gas limit that a child is held against. Limits before the fork described the full
capacity and are scaled to the elastic one. -/
def ChainConfig.referenceGasLimit (config : ChainConfig) (parent : Header) : UInt64 :=
  if config.active parent.number then parent.gasLimit
  else Word.mulUpTo parent.gasLimit config.elasticity

theorem ChainConfig.toNat_referenceGasLimit (config : ChainConfig) (parent : Header) :
    (config.referenceGasLimit parent).toNat =
      if config.active parent.number then parent.gasLimit.toNat
      else min (parent.gasLimit.toNat * config.elasticity.toNat) (UInt64.size - 1) := by
  unfold ChainConfig.referenceGasLimit
  split
  · rfl
  · rw [Word.mulUpTo, Word.toNat_saturate]

/-- Whether a header may follow its parent. -/
def verifyHeader (config : ChainConfig) (parent header : Header) :
    Checked (Except ConsensusError Unit) :=
  match verifyGasLimit (config.referenceGasLimit parent) header.gasLimit with
  | .error e => .ok (.error e)
  | .ok () =>
    match header.baseFee with
    | none => .ok (.error .missingBaseFee)
    | some baseFee => do
      let expected ← nextBaseFee config parent
      if baseFee = expected then return .ok ()
      else
        return .error
          (.invalidBaseFee baseFee expected parent.baseFeeOrZero parent.gasUsed)

end FeeMarket
