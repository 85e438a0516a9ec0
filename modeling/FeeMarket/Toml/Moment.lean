import FeeMarket.Numeral

/-!
# Dates and times

**Moment.** A date, a time of day or both, and an offset from universal time if there is a date.
Months go up to 12, days of every month to 31, hours to 24, and minutes and seconds to 59.

**Text.** `2000-01-01T12:00:00.5+07:00`; a blank or a small `t` may stand for the `T`, and a small
`z` for the `Z` of universal time. Only nine digits after the point of a second count.
-/

namespace FeeMarket.Toml

/-- A date. -/
structure Date where
  year : Nat
  month : Nat
  day : Nat
deriving DecidableEq

/-- A time of day. -/
structure TimeOfDay where
  hour : Nat
  minute : Nat
  second : Nat
  nanos : Nat
deriving DecidableEq

/-- An offset from universal time. -/
inductive Zone where
  | universal
  | shifted (west : Bool) (hours minutes : Nat)
deriving DecidableEq

/-- A date, a time of day or both. -/
structure Moment where
  date : Option Date
  time : Option TimeOfDay
  zone : Option Zone
deriving DecidableEq

namespace Moment

/-! ## Reading -/

/-- Reads from a list of characters. -/
abbrev Scan := StateT (List Char) Option

/-- The next character, which stays there. -/
def peek : Scan (Option Char) := do return (← get).head?

/-- Takes a character. -/
def takeChar (c : Char) : Scan Unit := do
  if (← peek) = some c then modify (List.drop 1) else failure

/-- Takes a digit. -/
def takeDigit : Scan Nat := do
  match (← get) with
  | c :: rest => set rest; (Numeral.digitValue? 10 c : Option Nat)
  | [] => failure

/-- Takes a number of two digits. -/
def takeTwo : Scan Nat := do
  let tens ← takeDigit
  return 10 * tens + (← takeDigit)

/-- Takes a date. -/
def takeDate : Scan Date := do
  let century ← takeTwo
  let year ← takeTwo
  takeChar '-'
  let month ← takeTwo
  takeChar '-'
  let day ← takeTwo
  if month < 1 ∨ month > 12 ∨ day < 1 ∨ day > 31 then failure
  return ⟨100 * century + year, month, day⟩

/-- The nanoseconds of the digits after the point of a second. -/
def nanosOf (digits : List Char) : Nat :=
  let kept := digits.take 9
  ((Numeral.readFrom? 10 0 kept).getD 0) * Nat.pow 10 (9 - kept.length)

/-- Takes the digits after a point, if there is one. -/
def takeFraction : Scan Nat := do
  if (← peek) ≠ some '.' then return 0
  let rest := (← get).drop 1
  let digits := rest.takeWhile Char.isDigit
  if digits.isEmpty then failure
  set (rest.drop digits.length)
  return nanosOf digits

/-- Takes a time of day. -/
def takeTime : Scan TimeOfDay := do
  let hour ← takeTwo
  takeChar ':'
  let minute ← takeTwo
  takeChar ':'
  let second ← takeTwo
  let nanos ← takeFraction
  if hour > 24 ∨ minute > 59 ∨ second > 59 then failure
  return ⟨hour, minute, second, nanos⟩

/-- Takes an offset from universal time, if there is one. -/
def takeZone : Scan (Option Zone) := do
  match ← peek with
  | none => return none
  | some c =>
    modify (List.drop 1)
    if c = 'Z' ∨ c = 'z' then return some .universal
    if c ≠ '+' ∧ c ≠ '-' then failure
    let hours ← takeTwo
    takeChar ':'
    return some (.shifted (c == '-') hours (← takeTwo))

/-- Takes a moment. -/
def takeMoment : Scan Moment := do
  if (← get)[2]? = some ':' then return ⟨none, some (← takeTime), none⟩
  let date ← takeDate
  let next ← peek
  if next = some 'T' ∨ next = some 't' ∨ next = some ' ' then
    modify (List.drop 1)
    let time ← takeTime
    return ⟨some date, some time, ← takeZone⟩
  else return ⟨some date, none, ← takeZone⟩

/-- Reads a moment. -/
def read? (text : String) : Option Moment :=
  match takeMoment.run text.toList with
  | some (m, []) => some m
  | _ => none

/-! ## Writing -/

/-- A number with at least so many digits. -/
def padded (width n : Nat) : String :=
  let digits := Numeral.write 10 n
  String.ofList (List.replicate (width - digits.length) '0' ++ digits)

def writeDate (d : Date) : String :=
  padded 4 d.year ++ "-" ++ padded 2 d.month ++ "-" ++ padded 2 d.day

/-- The digits after the point of a second, without zeros at their end. -/
def writeFraction (nanos : Nat) : String :=
  if nanos = 0 then ""
  else
    let digits := (padded 9 nanos).toList
    "." ++ String.ofList (digits.reverse.dropWhile (· == '0')).reverse

def writeTime (t : TimeOfDay) : String :=
  padded 2 t.hour ++ ":" ++ padded 2 t.minute ++ ":" ++ padded 2 t.second ++ writeFraction t.nanos

/-- An offset of less than an hour has a plus sign. -/
def writeZone : Zone → String
  | .universal => "Z"
  | .shifted west hours minutes =>
    (if west ∧ hours > 0 then "-" else "+") ++ padded 2 hours ++ ":" ++ padded 2 minutes

/-- The text of a moment. -/
def write (m : Moment) : String :=
  let joint := if m.date.isSome ∧ m.time.isSome then "T" else ""
  (m.date.map writeDate).getD "" ++ joint ++ (m.time.map writeTime).getD ""
    ++ (m.zone.map writeZone).getD ""

end Moment

end FeeMarket.Toml
