import FeeMarket.Fault
import FeeMarket.Hash
import FeeMarket.Numeral
import FeeMarket.Wei

/-!
# Hexadecimal quantities

**Quantity.** A number as `0x` and its shortest hexadecimal numeral. Readers take the mark as
optional, either case and leading zeros, but only as many digits as the width of the number
has: 64 for an amount, 16 for a word.

**Hash text.** The mark and exactly 64 digits; the mark is optional in reading.
-/

namespace FeeMarket

namespace Quantity

/-- The text of a number: `0x` and its shortest numeral. -/
def write (n : Nat) : List Char := '0' :: 'x' :: Numeral.write 16 n

/-- Drops the mark `0x` if there is one. -/
def unmarked : List Char → List Char
  | '0' :: 'x' :: digits => digits
  | digits => digits

/-- Reads an optionally marked numeral of at most `width` digits. -/
def read? (width : Nat) (text : List Char) : Option Nat :=
  let digits := unmarked text
  if digits.length ≤ width then Numeral.read? 16 digits else none

/-- The text of a number, as a string. -/
def toString (n : Nat) : String := String.ofList (write n)

end Quantity

/-- The text of an amount. -/
def Wei.toHex (w : Wei) : String := Quantity.toString w.toNat

/-- Reads an amount of up to 64 digits. -/
def Wei.ofHex? (text : String) : Option Wei :=
  (Quantity.read? 64 text.toList).bind fun n =>
    if h : n < Wei.size then some ⟨n, h⟩ else none

/-- The amount in decimal. -/
def Wei.toDecimal (w : Wei) : String := Numeral.decimal w.toNat

namespace Word

/-- The text of a word. -/
def toHex (w : UInt64) : String := Quantity.toString w.toNat

/-- Reads a word of up to 16 digits. -/
def ofHex? (text : String) : Option UInt64 :=
  (Quantity.read? 16 text.toList).bind ofNat?

/-- The word in decimal. -/
def toDecimal (w : UInt64) : String := Numeral.decimal w.toNat

/-- Reads a word in a base, with an optional plus sign before its digits. -/
def read? (base : Nat) (cs : List Char) : Option UInt64 :=
  let digits :=
    match cs with
    | '+' :: rest => rest
    | _ => cs
  (Numeral.read? base digits).bind ofNat?

end Word

namespace Hash

/-- Exactly `count` digits, the last ones of a number. -/
def lowDigits : Nat → Nat → List Char
  | 0, _ => []
  | count + 1, n => lowDigits count (n / 16) ++ [Numeral.digit (n % 16)]

/-- The text of a hash: `0x` and 64 digits. -/
def toHex (h : Hash) : String := String.ofList ('0' :: 'x' :: lowDigits 64 h.bits.toNat)

/-- Reads a hash of exactly 64 digits. -/
def ofHex? (text : String) : Option Hash :=
  let digits := Quantity.unmarked text.toList
  if digits.length = 64 then (Numeral.read? 16 digits).map ofNat else none

end Hash

end FeeMarket
