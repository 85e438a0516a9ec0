import FeeMarket.Numeral

/-!
# Decimal text of binary fractions

A finite double is `m * 2 ^ q` for whole `m` and `q`. The reals that round to it form an
interval around it, with its ends included when `m` is even.

**Reading** (`Decimal.Literal.toFloat`). A literal is a whole number and a power of ten; its
double is the nearest one, infinite when the literal is too large.

**Shortest decimal** (`Decimal.shortest`). The multiple of the largest power of ten that lies in
the interval; of two such multiples the nearer one. So no decimal with fewer digits reads back
to the same double.

**Styles.** `Decimal.plain` never uses an exponent and writes a whole number without a point;
`Decimal.scientific` keeps `.0` on whole numbers and turns to an exponent below `1e-5` and from
`1e16` on.
-/

namespace FeeMarket.Decimal

/-! ## Literals -/

/-- A decimal literal: `mantissa * 10 ^ exponent`, and its sign. -/
structure Literal where
  negative : Bool
  mantissa : Nat
  exponent : Int
deriving DecidableEq

namespace Literal

/-- The nearest double of the magnitude. Literals far outside the range of doubles are
recognised by their length. -/
def magnitude (l : Literal) : Float :=
  if l.mantissa = 0 then 0
  else
    let leading := l.exponent + (Numeral.write 10 l.mantissa).length
    if leading > 320 then 1.0 / 0.0
    else if leading < -400 then 0
    else Float.ofScientific l.mantissa (l.exponent < 0) l.exponent.natAbs

/-- The nearest double. -/
def toFloat (l : Literal) : Float := if l.negative then -l.magnitude else l.magnitude

end Literal

/-! ## Scanning -/

/-- Splits off the leading decimal digits. -/
def spanDigits (cs : List Char) : List Char × List Char :=
  (cs.takeWhile Char.isDigit, cs.dropWhile Char.isDigit)

/-- The number of a list of decimal digits, zero for the empty list. -/
def digitsValue (digits : List Char) : Nat := (Numeral.readFrom? 10 0 digits).getD 0

/-- Splits off a sign. -/
def spanSign : List Char → Bool × List Char
  | '-' :: rest => (true, rest)
  | '+' :: rest => (false, rest)
  | rest => (false, rest)

/-- Reads an exponent mark, an optional sign and at least one digit. Without a mark the exponent
is zero. -/
def readExponent? : List Char → Option (Int × List Char)
  | c :: rest =>
    if c = 'e' ∨ c = 'E' then
      let (negative, unsigned) := spanSign rest
      let (digits, after) := spanDigits unsigned
      if digits.isEmpty then none
      else
        let value : Int := digitsValue digits
        some (if negative then -value else value, after)
    else some (0, c :: rest)
  | [] => some (0, [])

/-- The literal with the given digits before and after the point. -/
def Literal.ofParts (negative : Bool) (whole fraction : List Char) (exponent : Int) : Literal :=
  ⟨negative, digitsValue (whole ++ fraction), exponent - fraction.length⟩

/-- Reads a number with a sign, digits before or after a point, and an exponent. -/
def readUnmarked? (negative : Bool) (cs : List Char) : Option Float :=
  let (whole, afterWhole) := spanDigits cs
  let (fraction, rest) :=
    match afterWhole with
    | '.' :: after => spanDigits after
    | _ => ([], afterWhole)
  if whole.isEmpty ∧ fraction.isEmpty then none
  else
    match readExponent? rest with
    | some (exponent, []) => some (Literal.ofParts negative whole fraction exponent).toFloat
    | _ => none

/-- Reads a double: a number, or one of the words `inf`, `infinity` and `nan` in any case, each
with an optional sign. -/
def read? (text : String) : Option Float :=
  let (negative, unsigned) := spanSign text.toList
  let signed (f : Float) : Float := if negative then -f else f
  let word := String.ofList (unsigned.map Char.toLower)
  if word = "inf" ∨ word = "infinity" then some (signed (1.0 / 0.0))
  else if word = "nan" then some (signed (0.0 / 0.0))
  else readUnmarked? negative unsigned

/-! ## Doubles as `m * 2 ^ q` -/

/-- The sign bit. -/
def isNegative (f : Float) : Bool := f.toBits.toNat >>> 63 == 1

/-- The least `m` of a double that is not subnormal: `2 ^ 52`. -/
def leastNormal : Nat := 1 <<< 52

/-- `m` and `q` of a finite double `m * 2 ^ q`, its sign apart. -/
def parts (f : Float) : Nat × Int :=
  let bits : Nat := f.toBits.toNat
  let field : Nat := (bits >>> 52) % 2048
  let fraction : Nat := bits % leastNormal
  if field = 0 then (fraction, -1074) else (leastNormal + fraction, (field : Int) - 1075)

/-- The reals that round to a double, over one denominator: `low`, the double itself and `high`
are numerators. -/
structure Interval where
  low : Nat
  value : Nat
  high : Nat
  denominator : Nat
  closed : Bool

namespace Interval

/-- The interval of `m * 2 ^ q`. Below a power of two the doubles lie twice as close. -/
def of (m : Nat) (q : Int) : Interval :=
  let below := if m = leastNormal ∧ q > -1074 then 1 else 2
  let up := 1 <<< (q - 2).toNat
  let down := 1 <<< (2 - q).toNat
  ⟨(4 * m - below) * up, 4 * m * up, (4 * m + 2) * up, down, m % 2 == 0⟩

/-- Whether `n / denominator` lies in the interval. -/
def holds (i : Interval) (n : Nat) : Bool :=
  if i.closed then i.low ≤ n && n ≤ i.high else i.low < n && n < i.high

/-- All numerators and the denominator times `k`. -/
def scale (i : Interval) (k : Nat) : Interval :=
  ⟨i.low * k, i.value * k, i.high * k, i.denominator, i.closed⟩

/-- The multiple of `10 ^ power` in the interval that is nearest to the double, if there is
one. -/
def multiple? (i : Interval) (power : Int) : Option Nat :=
  let scaled := i.scale (Nat.pow 10 (-power).toNat)
  let unit := i.denominator * Nat.pow 10 power.toNat
  let below := scaled.value / unit
  let above := below + 1
  match scaled.holds (below * unit), scaled.holds (above * unit) with
  | true, true =>
    some (if scaled.value - below * unit ≤ above * unit - scaled.value then below else above)
  | true, false => some below
  | false, true => some above
  | false, false => none

/-- The first hit among `10 ^ power`, `10 ^ (power - 1)` and so on. -/
def search (i : Interval) : Nat → Int → Nat × Int
  | 0, power => (0, power)
  | tries + 1, power =>
    match i.multiple? power with
    | some n => if n = 0 then search i tries (power - 1) else (n, power)
    | none => search i tries (power - 1)

end Interval

/-- The shortest decimal of a positive finite double: a whole number and a power of ten. The
search starts at a power above the double; seventeen digits always suffice, so twenty-five
powers do. -/
def shortest (f : Float) : Nat × Int :=
  let (m, q) := parts f
  let start := (q + m.log2) * 30103 / 100000 + 2
  (Interval.of m q).search 25 start

/-! ## Styles -/

/-- `count` zeros. -/
def zeros (count : Nat) : List Char := List.replicate count '0'

/-- Positional digits of `n * 10 ^ exponent`; `whole` is what follows a whole number. -/
def positional (digits : List Char) (exponent : Int) (whole : List Char) : List Char :=
  if exponent ≥ 0 then digits ++ zeros exponent.toNat ++ whole
  else
    let point := digits.length - exponent.natAbs
    if exponent.natAbs < digits.length then digits.take point ++ '.' :: digits.drop point
    else '0' :: '.' :: (zeros (exponent.natAbs - digits.length) ++ digits)

/-- Writes the sign, and what `render` makes of a positive finite magnitude. -/
def signed (f : Float) (zero : String) (render : List Char → Int → List Char) : String :=
  if f.isNaN then "NaN"
  else
    let sign := if isNegative f then "-" else ""
    if f.isInf then sign ++ "inf"
    else if f == 0 then sign ++ zero
    else
      let (n, exponent) := shortest f
      sign ++ String.ofList (render (Numeral.write 10 n) exponent)

/-- The shortest digits without an exponent, and no point in a whole number. -/
def plain (f : Float) : String := signed f "0" fun digits exponent => positional digits exponent []

/-- The shortest digits with an exponent for very small and very large magnitudes, and `.0` on
whole numbers. -/
def scientific (f : Float) : String :=
  signed f "0.0" fun digits exponent =>
    let leading := exponent + digits.length
    if -5 < leading ∧ leading ≤ 16 then positional digits exponent ['.', '0']
    else
      let power : Int := leading - 1
      let sign := if power < 0 then ['-'] else []
      let fraction := if digits.length = 1 then [] else '.' :: digits.drop 1
      digits.take 1 ++ fraction ++ 'e' :: sign ++ Numeral.write 10 power.natAbs

end FeeMarket.Decimal
