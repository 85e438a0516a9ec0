import FeeMarket.Numeral
import FeeMarket.Text.Place

/-!
# Problems of JSON texts

**Problem.** What is wrong with a text. **Error.** A problem, and how many bytes of the text were
looked at until it showed.

**Message.** The problem with its line, counted from one, and how many bytes of that line were
looked at.
-/

namespace FeeMarket

/-- What is wrong with a JSON text. -/
inductive JsonProblem where
  | endInList
  | endInObject
  | endInString
  | endInValue
  | colonExpected
  | listCommaOrEndExpected
  | objectCommaOrEndExpected
  | wordExpected
  | valueExpected
  | invalidEscape
  | invalidNumber
  | numberOutOfRange
  | controlCharacter
  | keyNotString
  | loneSurrogate
  | trailingComma
  | trailingCharacters
  | surrogateNotFollowed
  | tooDeep
deriving DecidableEq

def JsonProblem.message : JsonProblem → String
  | .endInList => "EOF while parsing a list"
  | .endInObject => "EOF while parsing an object"
  | .endInString => "EOF while parsing a string"
  | .endInValue => "EOF while parsing a value"
  | .colonExpected => "expected `:`"
  | .listCommaOrEndExpected => "expected `,` or `]`"
  | .objectCommaOrEndExpected => "expected `,` or `\x7d`"
  | .wordExpected => "expected ident"
  | .valueExpected => "expected value"
  | .invalidEscape => "invalid escape"
  | .invalidNumber => "invalid number"
  | .numberOutOfRange => "number out of range"
  | .controlCharacter => "control character (\\u0000-\\u001F) found while parsing a string"
  | .keyNotString => "key must be a string"
  | .loneSurrogate => "lone leading surrogate in hex escape"
  | .trailingComma => "trailing comma"
  | .trailingCharacters => "trailing characters"
  | .surrogateNotFollowed => "unexpected end of hex escape"
  | .tooDeep => "recursion limit exceeded"

/-- What is wrong with a JSON text, and how many bytes show it. -/
structure JsonError where
  problem : JsonProblem
  offset : Nat
deriving DecidableEq

/-- The text of an error in a text. -/
def JsonError.message (text : String) (e : JsonError) : String :=
  let place := Place.ofOffset text.toList e.offset
  e.problem.message ++ " at line " ++ Numeral.decimal (place.line + 1) ++ " column "
    ++ Numeral.decimal place.column

end FeeMarket
