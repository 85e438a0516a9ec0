import FeeMarket.Decimal

/-!
# Single values

**Scalar.** A truth value, an integer of 64 bits, a double or a string: what a setting is made of,
in whatever file or variable it is written.
-/

namespace FeeMarket

/-- A single value. -/
inductive Scalar where
  | bool (value : Bool)
  | integer (value : Int)
  | double (value : Float)
  | string (value : String)
deriving DecidableEq

namespace Scalar

/-- The word for a truth value. -/
def truthText : Bool → String
  | true => "true"
  | false => "false"

/-- An integer in decimal. -/
def integerText : Int → String
  | .ofNat n => Numeral.decimal n
  | .negSucc n => "-" ++ Numeral.decimal (n + 1)

/-- Whether an integer has 64 bits. -/
def fits (n : Int) : Bool := Int64.minValue.toInt ≤ n && n ≤ Int64.maxValue.toInt

/-- Reads an integer of 64 bits in a base, with an optional sign. -/
def integer? (base : Nat) (cs : List Char) : Option Int :=
  let (negative, digits) := Decimal.spanSign cs
  (Numeral.read? base digits).bind fun n =>
    let value : Int := if negative then -(n : Int) else n
    if fits value then some value else none

/-- The value as a text of its own. -/
def text : Scalar → String
  | .bool b => truthText b
  | .integer n => integerText n
  | .double f => Decimal.plain f
  | .string s => s

end Scalar

end FeeMarket
