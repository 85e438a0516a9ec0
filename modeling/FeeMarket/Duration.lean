import FeeMarket.Numeral
import FeeMarket.Text

/-!
# Durations

**Duration.** Whole seconds, and nanoseconds below a second.

**Text.** A list of items, each a number and a unit, such as `1m 30s` or `1.5h`. Blanks may stand
anywhere but inside a unit. A month has 30.44 days and a year 365.25. A number without a unit is
no duration, unless it is a single zero, and neither is an empty text; no item and no sum may
exceed 64 bits.

**Fraction.** The digits after a point. Of a minute or less it has to be a whole number of
nanoseconds, and of an hour or more a whole number of seconds.

**Writing.** The largest units first, without items that are zero; nothing at all is `0s`.
-/

namespace FeeMarket

/-- A span of time. -/
structure Duration where
  seconds : Nat
  nanos : Nat
deriving DecidableEq, Inhabited

namespace Duration

private def billion : Nat := 1000000000

/-- A span of whole seconds. -/
def ofSeconds (n : Nat) : Duration := ⟨n, 0⟩

/-- The span in milliseconds, rounded down. -/
def toMillis (d : Duration) : Nat := d.seconds * 1000 + d.nanos / 1000000

/-- What a unit stands for: how many seconds or nanoseconds it has, and in which of these a fraction
of it is counted, if there may be one. -/
structure Scale where
  seconds : Nat := 0
  nanos : Nat := 0
  divisible : Bool := true
  fractionInSeconds : Bool := false

/-- The units and their names. -/
def scale? (name : String) : Option Scale :=
  if ["nanos", "nsec", "ns"].contains name then some { nanos := 1, divisible := false }
  else if ["usec", "us", "µs"].contains name then some { nanos := 1000 }
  else if ["millis", "msec", "ms"].contains name then some { nanos := 1000000 }
  else if ["seconds", "second", "secs", "sec", "s"].contains name then some { seconds := 1 }
  else if ["minutes", "minute", "min", "mins", "m"].contains name then some { seconds := 60 }
  else if ["hours", "hour", "hr", "hrs", "h"].contains name then some (long 3600)
  else if ["days", "day", "d"].contains name then some (long 86400)
  else if ["weeks", "week", "wk", "wks", "w"].contains name then some (long 604800)
  else if ["months", "month", "M"].contains name then some (long 2630016)
  else if ["years", "year", "yr", "yrs", "y"].contains name then some (long 31557600)
  else none
where
  long (seconds : Nat) : Scale := { seconds, fractionInSeconds := true }

/-- A number that fits 64 bits. -/
def fitting? (n : Nat) : Option Nat := if n < UInt64.size then some n else none

/-- Adds seconds and nanoseconds. -/
def add? (d : Duration) (seconds nanos : Nat) : Option Duration := do
  let nanos ← fitting? (d.nanos + nanos)
  let carried ← fitting? (seconds + nanos / billion)
  let seconds ← fitting? (d.seconds + carried)
  return ⟨seconds, nanos % billion⟩

/-- The digits after a point, as a quotient. -/
structure Fraction where
  numerator : Nat
  denominator : Nat

/-- The number of an item. -/
structure Amount where
  whole : Nat
  fraction : Option Fraction

/-- A fraction of a whole number, if it is whole again. -/
def Fraction.of? (f : Fraction) (n : Nat) : Option Nat := do
  let product ← fitting? (f.numerator * n)
  if product % f.denominator = 0 then some (product / f.denominator) else none

/-- Adds an item. -/
def addItem? (d : Duration) (amount : Amount) (unit : String) : Option Duration := do
  let scale ← scale? unit
  let seconds ← fitting? (amount.whole * scale.seconds)
  let nanos ← fitting? (amount.whole * scale.nanos)
  let d ← d.add? seconds nanos
  match amount.fraction with
  | none => return d
  | some f =>
    if !scale.divisible then none
    else if scale.fractionInSeconds then d.add? (← f.of? scale.seconds) 0
    else d.add? 0 (← f.of? (scale.seconds * billion + scale.nanos))

/-! ## Reading -/

/-- Where a reader stands: before an item, in its number before or after the point, or in its unit.
Units are kept last character first. -/
inductive Place where
  | between (sum : Duration)
  | whole (sum : Duration) (n : Nat)
  | fraction (sum : Duration) (n : Nat) (f : Fraction)
  | unit (sum : Duration) (amount : Amount) (name : List Char)

namespace Place

/-- Whether a character may stand in a unit. -/
def isUnitCharacter (c : Char) : Bool := c.isAlpha || c == 'µ'

/-- A number with a digit added to it. -/
def withDigit? (n : Nat) (c : Char) : Option Nat := fitting? (n * 10 + (c.toNat - 48))

/-- Ends the unit that a reader is in. -/
def close? (sum : Duration) (amount : Amount) (name : List Char) : Option Duration :=
  sum.addItem? amount (String.ofList name.reverse)

/-- Reads a character. -/
def read? (c : Char) : Place → Option Place
  | .between sum =>
    if c.isDigit then some (.whole sum (c.toNat - 48))
    else if isBlank c then some (.between sum)
    else none
  | .whole sum n =>
    if c.isDigit then (withDigit? n c).map (.whole sum)
    else if isBlank c then some (.whole sum n)
    else if isUnitCharacter c then some (.unit sum ⟨n, none⟩ [c])
    else if c = '.' then some (.fraction sum n ⟨0, 1⟩)
    else none
  | .fraction sum n f =>
    if c.isDigit then do
      let denominator ← fitting? (f.denominator * 10)
      let numerator ← withDigit? f.numerator c
      return .fraction sum n ⟨numerator, denominator⟩
    else if isBlank c then some (.fraction sum n f)
    else if isUnitCharacter c ∧ f.denominator > 1 then some (.unit sum ⟨n, some f⟩ [c])
    else none
  | .unit sum amount name =>
    if c.isDigit then (close? sum amount name).map fun sum => .whole sum (c.toNat - 48)
    else if isBlank c then (close? sum amount name).map .between
    else if isUnitCharacter c then some (.unit sum amount (c :: name))
    else none

/-- The duration read once the text has ended. -/
def finish? : Place → Option Duration
  | .between sum => some sum
  | .whole _ _ => none
  | .fraction _ _ _ => none
  | .unit sum amount name => close? sum amount name

end Place

/-- Reads a duration. -/
def read? (text : String) : Option Duration :=
  if text = "0" then some ⟨0, 0⟩
  else if text.toList.all isBlank then none
  else (text.toList.foldlM (fun (place : Place) c => place.read? c) (.between ⟨0, 0⟩)).bind
    Place.finish?

/-! ## Writing -/

private def item (unit : String) (n : Nat) : List String :=
  if n = 0 then [] else [Numeral.decimal n ++ unit]

private def named (unit : String) (n : Nat) : List String :=
  item (if n = 1 then unit else unit ++ "s") n

/-- The text of a duration. -/
def write (d : Duration) : String :=
  let rest := d.seconds % 31557600 % 2630016
  let items :=
    named "year" (d.seconds / 31557600) ++ named "month" (d.seconds % 31557600 / 2630016)
      ++ named "day" (rest / 86400) ++ item "h" (rest % 86400 / 3600)
      ++ item "m" (rest % 3600 / 60) ++ item "s" (rest % 60) ++ item "ms" (d.nanos / 1000000)
      ++ item "us" (d.nanos / 1000 % 1000) ++ item "ns" (d.nanos % 1000)
  if items.isEmpty then "0s" else " ".intercalate items

end Duration

end FeeMarket
