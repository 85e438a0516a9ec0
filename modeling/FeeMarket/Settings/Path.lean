import FeeMarket.Numeral
import FeeMarket.Text

/-!
# Paths of settings

**Path.** A name, and steps after it: the name of a field after a point, or the index of an item
between brackets, where blanks may stand around the number. A name has letters and digits of
ASCII, blanks, underscores and hyphens. An index below zero counts from the end.

A key that is no path is a single name.
-/

namespace FeeMarket.Settings

/-- A step from a setting to a part of it. -/
inductive Step where
  | name (name : String)
  | index (index : Int)
deriving DecidableEq

namespace Step

def isNameCharacter (c : Char) : Bool := c.isAlphanum || c == '_' || c == '-' || c == ' '

/-- Reads a name. -/
def readName? (cs : List Char) : Option (Step × List Char) :=
  let name := cs.takeWhile isNameCharacter
  if name.isEmpty then none else some (.name (String.ofList name), cs.drop name.length)

/-- Whether a word with a sign holds a number. -/
def fits (negative : Bool) (n : Nat) : Bool :=
  n < Int64.maxValue.toInt.toNat + (if negative then 2 else 1)

/-- Reads an index and the closing bracket after it. -/
def readIndex? (cs : List Char) : Option (Step × List Char) := do
  let isBlank (c : Char) : Bool := c == ' ' || c == '\t'
  let unpadded := cs.dropWhile isBlank
  let negative := unpadded.head? == some '-'
  let unsigned := if negative then unpadded.drop 1 else unpadded
  let digits := unsigned.takeWhile Char.isDigit
  let n ← Numeral.read? 10 digits
  if !fits negative n then none
  match (unsigned.drop digits.length).dropWhile isBlank with
  | ']' :: rest => some (.index (if negative then -(n : Int) else n), rest)
  | _ => none

/-- Reads steps up to the end. Each takes a character. -/
def readRest? : Nat → List Char → Option (List Step)
  | _, [] => some []
  | 0, _ => none
  | fuel + 1, c :: rest => do
    let (step, after) ←
      if c = '.' then readName? rest else if c = '[' then readIndex? rest else none
    let steps ← readRest? fuel after
    return step :: steps

end Step

/-- The steps of a key. -/
def path (key : String) : List Step :=
  let steps? : Option (List Step) := do
    let (first, rest) ← Step.readName? key.toList
    let steps ← Step.readRest? rest.length rest
    return first :: steps
  steps?.getD [.name key]

end FeeMarket.Settings
