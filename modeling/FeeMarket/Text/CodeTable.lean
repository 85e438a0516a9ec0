import FeeMarket.Numeral
import FeeMarket.Text

/-!
# Tables of code points

**Run.** Code points from a first one to a last one, each of them or every other one, and what they
have in common: a list of numbers.

**Table.** Runs in ascending order that do not overlap. A table is written as words: `41-5A` is a
run, `100-12E/2` takes every other code point, and numbers after a colon, with points between them,
are what the run has in common.

**Look-up.** A table is a set of code points (`contains`), a property that has a number as its value
(`value?`), or a mapping of characters to texts (`image?`), whose first character moves along with
the code point of the run.
-/

namespace FeeMarket.Text

/-- Code points that have something in common. -/
structure CodeRun where
  first : Nat
  last : Nat
  step : Nat
  numbers : List Nat
deriving DecidableEq

namespace CodeRun

/-- Whether a code point belongs to the run. -/
def contains (r : CodeRun) (n : Nat) : Bool :=
  r.first ≤ n && n ≤ r.last && (n - r.first) % r.step == 0

private def number (cs : List Char) : Nat := (Numeral.read? 16 cs).getD 0

/-- Reads a run. -/
def ofWord (word : List Char) : CodeRun :=
  let span := word.takeWhile (· != ':')
  let numbers :=
    match word.drop span.length with
    | _ :: [] => []
    | _ :: rest => (splitAll (· == '.') rest).map number
    | [] => []
  let ends := span.takeWhile (· != '/')
  let first := ends.takeWhile (· != '-')
  let last :=
    match ends.drop first.length with
    | _ :: rest => rest
    | [] => first
  ⟨number first, number last, if ends.length = span.length then 1 else 2, numbers⟩

end CodeRun

/-- Runs in ascending order. -/
structure CodeTable where
  runs : Array CodeRun

namespace CodeTable

/-- Reads a table from lines of words. -/
def ofLines (lines : List String) : CodeTable :=
  ⟨(lines.flatMap fun line =>
    (splitAll (· == ' ') line.toList).map CodeRun.ofWord).toArray⟩

/-- How many of the runs from `low` up to `high` start at a code point or before it, those before
`low` included. -/
def reach (t : CodeTable) (n low high : Nat) : Nat :=
  if _ : low < high then
    let middle := (low + high) / 2
    if t.runs[middle]?.any fun r => r.first ≤ n then t.reach n (middle + 1) high
    else t.reach n low middle
  else low
termination_by high - low

/-- The run of a code point. -/
def find? (t : CodeTable) (n : Nat) : Option CodeRun := do
  let r ← t.runs[t.reach n 0 t.runs.size - 1]?
  if r.contains n then some r else none

/-- Whether a character is in the table. -/
def contains (t : CodeTable) (c : Char) : Bool := (t.find? c.toNat).isSome

/-- The number that a character has. -/
def value? (t : CodeTable) (c : Char) : Option Nat :=
  (t.find? c.toNat).bind fun r => r.numbers.head?

/-- The text that a character is mapped to. -/
def image? (t : CodeTable) (c : Char) : Option (List Char) :=
  (t.find? c.toNat).map fun r =>
    match r.numbers with
    | [] => []
    | first :: rest => ((first + (c.toNat - r.first)) :: rest).map Char.ofNat

end CodeTable

end FeeMarket.Text
