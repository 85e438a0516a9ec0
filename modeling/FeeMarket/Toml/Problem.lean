import FeeMarket.Numeral
import FeeMarket.Text.Place

/-!
# Problems of TOML texts

**Problem.** What is wrong with a text, at an offset, and for the key at some path if it concerns a
value that was read well but means nothing.

**Message.** The problem, the path, and the line and column, counted from one. A column counts
bytes.
-/

namespace FeeMarket.Toml

/-- What is wrong with a TOML text. -/
inductive Problem where
  | unexpectedEnd
  | wanted (expected found : String)
  | unexpectedCharacter (c : Char)
  | unterminatedString
  | newlineInString
  | invalidInString (c : Char)
  | invalidEscape (c : Char)
  | invalidHexEscape (c : Char)
  | invalidEscapeValue (n : Nat)
  | invalidNumber
  | invalidDate
  | malformedMoment
  | unquotedString
  | multilineKey
  | duplicateKey (key : String)
  | redefinedTable (path : List String)
  | redefinedAsArray
  | dottedThroughValue
deriving DecidableEq

namespace Problem

private def ticked (s : String) : String := "`" ++ s ++ "`"

/-- A character as messages show it: printable ASCII as it is, but for quotes and backslashes. -/
def shown (c : Char) : String :=
  if c = '\t' then "\\t"
  else if c = '\r' then "\\r"
  else if c = '\n' then "\\n"
  else if c = '\'' ∨ c = '"' ∨ c = '\\' then String.ofList ['\\', c]
  else if 0x20 ≤ c.toNat ∧ c.toNat < 0x7F then String.singleton c
  else "\\u\x7b" ++ String.ofList (Numeral.write 16 c.toNat) ++ "\x7d"

def message : Problem → String
  | .unexpectedEnd => "unexpected eof encountered"
  | .wanted expected found => "expected " ++ expected ++ ", found " ++ found
  | .unexpectedCharacter c => "unexpected character found: " ++ ticked (shown c)
  | .unterminatedString => "unterminated string"
  | .newlineInString => "newline in string found"
  | .invalidInString c => "invalid character in string: " ++ ticked (shown c)
  | .invalidEscape c => "invalid escape character in string: " ++ ticked (shown c)
  | .invalidHexEscape c => "invalid hex escape character in string: " ++ ticked (shown c)
  | .invalidEscapeValue n => "invalid escape value: " ++ ticked (Numeral.decimal n)
  | .invalidNumber => "invalid number"
  | .invalidDate => "invalid date"
  | .malformedMoment => "failed to parse datetime"
  | .unquotedString => "invalid TOML value, did you mean to use a quoted string?"
  | .multilineKey => "multiline strings are not allowed for key"
  | .duplicateKey key => "duplicate key: " ++ ticked key
  | .redefinedTable path => "redefinition of table " ++ ticked (".".intercalate path)
  | .redefinedAsArray => "table redefined as array"
  | .dottedThroughValue => "dotted key attempted to extend non-table type"

end Problem

/-- A problem, where it is, and the path of the key that it concerns, which may be empty. -/
structure TomlError where
  problem : Problem
  offset : Nat
  path : List String := []
deriving DecidableEq

namespace TomlError

/-- The error of a value under a key. -/
def under (key : String) (e : TomlError) : TomlError := { e with path := key :: e.path }

/-- The text of an error in a document. -/
def message (text : String) (e : TomlError) : String :=
  let place := Place.ofOffset text.toList e.offset
  let concerning := if e.path.isEmpty then "" else " for key `" ++ ".".intercalate e.path ++ "`"
  e.problem.message ++ concerning ++ " at line " ++ Numeral.decimal (place.line + 1)
    ++ " column " ++ Numeral.decimal (place.column + 1)

end TomlError

end FeeMarket.Toml
