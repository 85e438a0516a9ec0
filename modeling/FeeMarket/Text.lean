/-!
# Parts of texts

**Blank.** A character is blank if Unicode gives it the property `White_Space`.

**Parts.** A text is cut at every separator, or at the last one.
-/

namespace FeeMarket

/-- Whether a character has the property `White_Space`. -/
def isBlank (c : Char) : Bool :=
  let n := c.toNat
  (0x09 ≤ n && n ≤ 0x0D) || n == 0x20 || n == 0x85 || n == 0xA0 || n == 0x1680
    || (0x2000 ≤ n && n ≤ 0x200A) || n == 0x2028 || n == 0x2029 || n == 0x202F || n == 0x205F
    || n == 0x3000

/-- The parts between separators, at least one. -/
def splitAll (isSeparator : Char → Bool) : List Char → List (List Char)
  | [] => [[]]
  | c :: rest =>
    match splitAll isSeparator rest with
    | [] => [[]]
    | part :: parts => if isSeparator c then [] :: part :: parts else (c :: part) :: parts

/-- The parts before and after the last occurrence of a character, if there is one. -/
def splitLast (c : Char) (cs : List Char) : Option (List Char × List Char) :=
  let after := (cs.reverse.takeWhile (· != c)).reverse
  if after.length = cs.length then none
  else some (cs.take (cs.length - after.length - 1), after)

end FeeMarket
