import FeeMarket.Decimal
import FeeMarket.Quantity

/-!
# Reward percentiles

**Valid list.** At most as many percentiles as a query may ask for, each between 0 and 100, each
greater than the one before it.

**First violation.** A list that is too long is refused for its length, whatever its values.
Otherwise the error is about the first percentile that is out of range or not greater than the
one before it; out of range wins where both hold. A double that is not a number is out of
range.
-/

namespace FeeMarket

/-- Why a list of percentiles is refused. -/
inductive PercentileError where
  | tooMany (limit requested : Nat)
  | outOfRange (index : Nat) (value : Float)
  | notIncreasing (index : Nat) (previous value : Float)
deriving DecidableEq

def PercentileError.message : PercentileError → String
  | .tooMany limit requested =>
    "too many reward percentiles, max: " ++ Numeral.decimal limit
      ++ ", requested: " ++ Numeral.decimal requested
  | .outOfRange index value =>
    "invalid reward percentile at index " ++ Numeral.decimal index ++ ": " ++ Decimal.plain value
  | .notIncreasing index previous value =>
    "reward percentiles are not increasing at index " ++ Numeral.decimal index ++ ": "
      ++ Decimal.plain previous ++ " followed by " ++ Decimal.plain value

namespace Percentile

/-- Between 0 and 100; false of what is not a number. -/
def inRange (p : Float) : Bool := 0 ≤ p && p ≤ 100

/-- Checks the percentiles from an index on, after `previous?`. -/
def checkFrom (index : Nat) (previous? : Option Float) : List Float → Except PercentileError Unit
  | [] => .ok ()
  | p :: rest =>
    if ¬ inRange p then .error (.outOfRange index p)
    else
      match previous? with
      | some previous =>
        if p ≤ previous then .error (.notIncreasing index previous p)
        else checkFrom (index + 1) (some p) rest
      | none => checkFrom (index + 1) (some p) rest

/-- Checks a list of percentiles against the largest permitted count. -/
def check (limit : Nat) (percentiles : List Float) : Except PercentileError Unit :=
  if limit < percentiles.length then .error (.tooMany limit percentiles.length)
  else checkFrom 0 none percentiles

end Percentile

end FeeMarket
