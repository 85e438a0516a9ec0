import FeeMarket.Scalar
import FeeMarket.Toml.Problem

/-!
# Numbers of TOML texts

**Digits.** An underscore may stand between two digits. A decimal number has no leading zero, apart
from its exponent and the digits after its point; a number in another base may have some, and no
sign.

**Integer.** In decimal, or after `0x`, `0o` or `0b`, and of 64 bits.

**Double.** A decimal number with a point or an exponent, which rounds to a finite double.
-/

namespace FeeMarket.Toml

/-- How digits may be written. -/
structure DigitRule where
  base : Nat := 10
  signed : Bool := false
  leadingZeros : Bool := true

/-- A piece of a text and its offset. -/
structure Piece where
  chars : List Char
  offset : Nat

def invalidNumber {α : Type} (offset : Nat) : Except TomlError α :=
  .error ⟨.invalidNumber, offset, []⟩

/-- Reads digits after their sign. `first` says that none came before, `zero` that the first one
was a zero, and `gap` that an underscore came last. The digits come back without underscores. -/
def DigitRule.digitsFrom (r : DigitRule) (start offset : Nat) (first zero gap : Bool)
    (seen : List Char) : List Char → Except TomlError (List Char × List Char)
  | [] => if first || gap then invalidNumber start else .ok (seen.reverse, [])
  | c :: rest =>
    if c = '0' ∧ first then r.digitsFrom start (offset + 1) false true false (c :: seen) rest
    else if (Numeral.digitValue? r.base c).isSome then
      if !first && zero && !r.leadingZeros then invalidNumber offset
      else r.digitsFrom start (offset + 1) false zero false (c :: seen) rest
    else if c = '_' ∧ first then invalidNumber offset
    else if c = '_' ∧ !gap then r.digitsFrom start (offset + 1) false zero true seen rest
    else if first || gap then invalidNumber start
    else .ok (seen.reverse, c :: rest)

/-- Reads a sign, if there may be one, and digits. The rest of the piece comes back too. -/
def DigitRule.read (r : DigitRule) (p : Piece) :
    Except TomlError ((Bool × List Char) × Piece) := do
  let (negative, unsigned) := if r.signed then Decimal.spanSign p.chars else (false, p.chars)
  let signs := p.chars.length - unsigned.length
  let (digits, rest) ← r.digitsFrom p.offset (p.offset + signs) true false false [] unsigned
  return ((negative, digits), ⟨rest, p.offset + (p.chars.length - rest.length)⟩)

/-- Reads an integer. -/
def DigitRule.integer (r : DigitRule) (p : Piece) : Except TomlError Scalar := do
  let ((negative, digits), rest) ← r.read p
  if !rest.chars.isEmpty then invalidNumber p.offset
  let magnitude : Int := (Numeral.readFrom? r.base 0 digits).getD 0
  let n := if negative then -magnitude else magnitude
  if Scalar.fits n then return .integer n else invalidNumber p.offset

/-- The digits before a point, an exponent or the end of a decimal number. -/
def wholeRule : DigitRule := { signed := true, leadingZeros := false }

/-- An integer in decimal, or in another base after its mark. -/
def integer (p : Piece) : Except TomlError Scalar :=
  let inBase (base : Nat) : Except TomlError Scalar :=
    ({ base } : DigitRule).integer ⟨p.chars.drop 2, p.offset + 2⟩
  match p.chars with
  | '0' :: 'x' :: _ => inBase 16
  | '0' :: 'o' :: _ => inBase 8
  | '0' :: 'b' :: _ => inBase 2
  | _ => wholeRule.integer p

/-- Whether a word has the mark of another base than ten. -/
def isMarked : List Char → Bool
  | '0' :: c :: _ => c == 'x' || c == 'o' || c == 'b'
  | _ => false

/-- The exponent at the end of a number: a mark, and the signed digits after it. `pending` reads the
digits that follow a plus sign. -/
def exponent {m : Type → Type} [Monad m] [MonadExceptOf TomlError m] (start : Nat)
    (pending : m Piece) (rest : Piece) : m Int := do
  let power (r : DigitRule) (p : Piece) : m Int := do
    let ((down, digits), after) ← liftExcept (r.read p)
    if !after.chars.isEmpty then throw ⟨.invalidNumber, start, []⟩
    let n : Int := Decimal.digitsValue digits
    return if down then -n else n
  match rest.chars with
  | [] => return 0
  | c :: digits =>
    if c ≠ 'e' ∧ c ≠ 'E' then throw ⟨.invalidNumber, start, []⟩
    else if digits.isEmpty then power {} (← pending)
    else power { signed := true } ⟨digits, rest.offset + 1⟩
where
  liftExcept {α : Type} : Except TomlError α → m α
    | .ok a => pure a
    | .error e => throw e

/-- The double with the given parts, if it is finite. -/
def double (start : Nat) (negative : Bool) (whole fraction : List Char) (power : Int) :
    Except TomlError Scalar :=
  let f := (Decimal.Literal.ofParts negative whole fraction power).toFloat
  if f.isFinite then .ok (.double f) else invalidNumber start

/-- The double that a word stands for. -/
def namedDouble? (word : String) : Option Scalar :=
  if word = "inf" then some (.double (1.0 / 0.0))
  else if word = "-inf" then some (.double (-1.0 / 0.0))
  else if word = "nan" ∨ word = "-nan" then some (.double (0.0 / 0.0))
  else none

end FeeMarket.Toml
