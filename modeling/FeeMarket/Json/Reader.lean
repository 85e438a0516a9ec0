import FeeMarket.Json
import FeeMarket.Json.Problem

/-!
# Reading JSON text

**Grammar.** A value between blanks (space, tab, line feed, carriage return), and nothing after
it. Containers may be nested 127 deep. A string holds no control character, and a surrogate
escape only as a pair. A number that rounds to no finite double is refused.

**Stop** (`Stop`). What is wrong, the rest of the text where it was found, and how many bytes of
this rest had to be looked at.

**Fuel.** Each value, item and field takes at least one character, so twice the length of the
text bounds the depth of the recursion.
-/

namespace FeeMarket.Json

namespace Reader

/-- How deep containers may be nested. -/
def maxDepth : Nat := 127

/-- Where and why reading ended early. -/
structure Stop where
  problem : JsonProblem
  rest : List Char
  seen : Nat

/-- Stops at the first byte of the rest, or at its end if it is empty. -/
def stop {α : Type} (p : JsonProblem) (rest : List Char) : Except Stop α := .error ⟨p, rest, 1⟩

/-- Drops leading blanks. -/
def skipBlank : List Char → List Char :=
  List.dropWhile fun c => c = ' ' ∨ c = '\n' ∨ c = '\t' ∨ c = '\r'

/-- Takes a word off. -/
def word : List Char → List Char → Except Stop (List Char)
  | [], rest => .ok rest
  | _ :: _, [] => stop .endInValue []
  | w :: word', c :: rest => if w = c then word word' rest else stop .wordExpected (c :: rest)

/-! ## Strings -/

/-- The character of a one-letter escape. -/
def escaped? : Char → Option Char
  | '"' => some '"'
  | '\\' => some '\\'
  | '/' => some '/'
  | 'b' => some '\x08'
  | 'f' => some '\x0c'
  | 'n' => some '\n'
  | 'r' => some '\r'
  | 't' => some '\t'
  | _ => none

/-- Why four hexadecimal digits cannot be read. -/
def unitFailure {α : Type} (cs : List Char) : Except Stop α :=
  if byteCount cs < 4 then stop .endInString [] else .error ⟨.invalidEscape, cs, 4⟩

/-- What an escaped unit gives: a character, or a first surrogate that waits for its second. -/
def joinUnit (high : Option Nat) (u : Nat) (rest : List Char) : Except Stop (Char ⊕ Nat) :=
  let isSecond := 0xDC00 ≤ u && u < 0xE000
  match high with
  | none =>
    if 0xD800 ≤ u ∧ u < 0xDC00 then .ok (.inr u)
    else if isSecond then .error ⟨.loneSurrogate, rest, 0⟩
    else .ok (.inl (Char.ofNat u))
  | some h =>
    if isSecond then .ok (.inl (Char.ofNat (0x10000 + (h - 0xD800) * 0x400 + (u - 0xDC00))))
    else .error ⟨.loneSurrogate, rest, 0⟩

/-- Reads the rest of a string after its opening quote. `high` is a surrogate that waits for its
second, and `seen` holds the characters so far, last first. -/
def stringBody (high : Option Nat) (seen : List Char) :
    List Char → Except Stop (String × List Char)
  | [] => stop .endInString []
  | '\\' :: 'u' :: a :: b :: c :: d :: rest =>
    match Numeral.read? 16 [a, b, c, d] with
    | none => unitFailure (a :: b :: c :: d :: rest)
    | some u =>
      match joinUnit high u rest with
      | .ok (.inl char) => stringBody none (char :: seen) rest
      | .ok (.inr first) => stringBody (some first) seen rest
      | .error e => .error e
  | '\\' :: 'u' :: rest => unitFailure rest
  | '\\' :: [] => stop .endInString []
  | '\\' :: e :: rest =>
    if high.isSome then stop .surrogateNotFollowed (e :: rest)
    else
      match escaped? e with
      | some char => stringBody none (char :: seen) rest
      | none => stop .invalidEscape (e :: rest)
  | c :: rest =>
    if high.isSome then stop .surrogateNotFollowed (c :: rest)
    else if c = '"' then .ok (String.ofList seen.reverse, rest)
    else if c.toNat < 0x20 then stop .controlCharacter (c :: rest)
    else stringBody none (c :: seen) rest

/-! ## Numbers -/

/-- Takes digits off, of which there has to be one. -/
def someDigits (cs : List Char) : Except Stop (List Char × List Char) :=
  let (digits, rest) := Decimal.spanDigits cs
  if digits.isEmpty then stop (if cs.isEmpty then .endInValue else .invalidNumber) cs
  else .ok (digits, rest)

/-- The digits of a whole part, which has no leading zero. -/
def wholePart : List Char → Except Stop (List Char × List Char)
  | '0' :: rest =>
    if rest.head?.any Char.isDigit then stop .invalidNumber rest else .ok (['0'], rest)
  | cs => someDigits cs

/-- The digits after a point, if there is one. -/
def fractionPart : List Char → Except Stop (Option (List Char) × List Char)
  | '.' :: rest => do
    let (digits, rest) ← someDigits rest
    return (some digits, rest)
  | cs => .ok (none, cs)

/-- The sign and the digits after the mark of an exponent, if there is one. -/
def exponentPart : List Char → Except Stop (Option (Bool × List Char) × List Char)
  | c :: rest =>
    if c = 'e' ∨ c = 'E' then do
      let (negative, unsigned) := Decimal.spanSign rest
      let (digits, rest) ← someDigits unsigned
      return (some (negative, digits), rest)
    else .ok (none, c :: rest)
  | [] => .ok (none, [])

/-- The largest exponent that is told apart from larger ones. -/
def maxExponent : Nat := 2147483647

/-- How many digits of an exponent it takes to leave the range. -/
def digitsTaken (value taken : Nat) : List Char → Nat
  | [] => taken
  | c :: rest =>
    let value := value * 10 + (c.toNat - 48)
    if value > maxExponent then taken + 1 else digitsTaken value (taken + 1) rest

/-- Reads a number. -/
def readNumber (cs : List Char) : Except Stop (Number × List Char) := do
  let (negative, unsigned) :=
    match cs with
    | '-' :: rest => (true, rest)
    | _ => (false, cs)
  let (whole, afterWhole) ← wholePart unsigned
  let (fraction, afterFraction) ← fractionPart afterWhole
  let (exponent, rest) ← exponentPart afterFraction
  let value := Decimal.digitsValue whole
  let settle (l : Decimal.Literal) : Except Stop (Number × List Char) :=
    let f := l.toFloat
    if f.isFinite then .ok (.double f, rest)
    else
      match exponent with
      | some (_, digits) =>
        .error ⟨.numberOutOfRange, digits.drop (digitsTaken 0 0 digits) ++ rest, 0⟩
      | none => .error ⟨.numberOutOfRange, rest, 0⟩
  match fraction, exponent with
  | none, none =>
    if ¬ negative ∧ value < UInt64.size then return (.whole value, rest)
    else if negative ∧ 0 < value ∧ Int64.minValue.toInt ≤ -(value : Int) then
      return (.whole (-(value : Int)), rest)
    else settle ⟨negative, value, 0⟩
  | _, _ =>
    let power : Int :=
      match exponent with
      | some (down, digits) =>
        let n : Int := Decimal.digitsValue digits
        if down then -n else n
      | none => 0
    settle (.ofParts negative whole (fraction.getD []) power)

/-! ## Values -/

mutual

/-- Reads a value with no blank before it. -/
def value (fuel depth : Nat) (cs : List Char) : Except Stop (Json × List Char) :=
  match fuel with
  | 0 => stop .valueExpected cs
  | fuel + 1 =>
    match cs with
    | [] => stop .endInValue []
    | 'n' :: rest => (word ['u', 'l', 'l'] rest).map fun r => (.null, r)
    | 't' :: rest => (word ['r', 'u', 'e'] rest).map fun r => (.bool true, r)
    | 'f' :: rest => (word ['a', 'l', 's', 'e'] rest).map fun r => (.bool false, r)
    | '"' :: rest => (stringBody none [] rest).map fun (s, r) => (.string s, r)
    | '[' :: rest =>
      if depth = 0 then stop .tooDeep cs
      else
        match skipBlank rest with
        | [] => stop .endInList []
        | ']' :: after => .ok (.array [], after)
        | inner => (items fuel (depth - 1) inner).map fun (items, r) => (.array items, r)
    | '{' :: rest =>
      if depth = 0 then stop .tooDeep cs
      else
        match skipBlank rest with
        | [] => stop .endInObject []
        | '}' :: after => .ok (.object [], after)
        | inner => (fields fuel (depth - 1) inner).map fun (fields, r) => (ofFields fields, r)
    | c :: _ =>
      if c = '-' ∨ c.isDigit then (readNumber cs).map fun (n, r) => (.number n, r)
      else stop .valueExpected cs

/-- Reads the items of an array up to its closing bracket. -/
def items (fuel depth : Nat) (cs : List Char) : Except Stop (List Json × List Char) :=
  match fuel with
  | 0 => stop .valueExpected cs
  | fuel + 1 => do
    let (item, rest) ← value fuel depth cs
    match skipBlank rest with
    | [] => stop .endInList []
    | ']' :: after => return ([item], after)
    | ',' :: after =>
      match skipBlank after with
      | [] => stop .endInValue []
      | ']' :: bracket => stop .trailingComma (']' :: bracket)
      | more =>
        let (items, r) ← items fuel depth more
        return (item :: items, r)
    | other => stop .listCommaOrEndExpected other

/-- Reads the fields of an object up to its closing brace. -/
def fields (fuel depth : Nat) (cs : List Char) : Except Stop (List (String × Json) × List Char) :=
  match fuel with
  | 0 => stop .keyNotString cs
  | fuel + 1 =>
    match cs with
    | '"' :: named => do
      let (name, rest) ← stringBody none [] named
      match skipBlank rest with
      | [] => stop .endInObject []
      | ':' :: valued =>
        let (item, rest) ← value fuel depth (skipBlank valued)
        match skipBlank rest with
        | [] => stop .endInObject []
        | '}' :: after => return ([(name, item)], after)
        | ',' :: after =>
          match skipBlank after with
          | [] => stop .endInValue []
          | '}' :: brace => stop .trailingComma ('}' :: brace)
          | more =>
            let (fields, r) ← fields fuel depth more
            return ((name, item) :: fields, r)
        | other => stop .objectCommaOrEndExpected other
      | other => stop .colonExpected other
    | _ => stop .keyNotString cs

end

/-- Reads a value between blanks, and nothing after it. -/
def document (cs : List Char) : Except Stop Json := do
  let (v, rest) ← value (2 * cs.length + 1) maxDepth (skipBlank cs)
  match skipBlank rest with
  | [] => return v
  | extra => stop .trailingCharacters extra

end Reader

/-- Reads a JSON text. -/
def read (text : String) : Except JsonError Json :=
  match Reader.document text.toList with
  | .ok v => .ok v
  | .error s =>
    let size := text.utf8ByteSize
    .error ⟨s.problem, min size (size - byteCount s.rest + s.seen)⟩

/-- Reads a JSON text, without a reason if it is none. -/
def read? (text : String) : Option Json := (read text).toOption

end FeeMarket.Json
