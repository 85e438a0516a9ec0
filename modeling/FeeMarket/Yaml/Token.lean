import FeeMarket.Numeral

/-!
# Tokens of YAML texts

**Mark.** A place in a text: how many characters come before it, its line, and how many characters
come before it on this line. Only a line feed ends a line for a mark.

**Token.** An indicator, an anchor, a reference to one, a tag or a scalar; or the start or end of
a block collection, which follows from the indentation.

**Lexeme.** A token, or the problem that ends the text early, and its mark.
-/

namespace FeeMarket.Yaml

/-- A place in a text. Lines count from one, the others from zero. -/
structure Mark where
  index : Nat := 0
  line : Nat := 1
  column : Nat := 0
deriving DecidableEq

/-- The mark after a character. -/
def Mark.after (m : Mark) (c : Char) : Mark :=
  if c = '\n' then ⟨m.index + 1, m.line + 1, 0⟩ else ⟨m.index + 1, m.line, m.column + 1⟩

/-- A problem of a text and where it is. -/
structure YamlError where
  problem : String
  mark : Mark
deriving DecidableEq

def YamlError.message (e : YamlError) : String :=
  e.problem ++ " at line " ++ Numeral.decimal e.mark.line ++ " column "
    ++ Numeral.decimal (e.mark.column + 1)

/-- A token of a YAML text. -/
inductive Token where
  | streamStart
  | streamEnd
  | directive
  | documentStart
  | documentEnd
  | blockSequenceStart
  | blockMappingStart
  | blockEnd
  | flowSequenceStart
  | flowSequenceEnd
  | flowMappingStart
  | flowMappingEnd
  /-- A hyphen before an item of a block sequence. -/
  | entry
  | comma
  | key
  | value
  | reference (name : String)
  | anchor (name : String)
  | tag (handle suffix : String)
  /-- `plain` tells a scalar without quotes, which may mean something else than a string. -/
  | scalar (text : String) (plain : Bool)
deriving DecidableEq

/-- A token or a problem, and its mark. -/
structure Lexeme where
  content : Except String Token
  mark : Mark

/-! ## Characters -/

/-- What stands for the end of a text. -/
def endMark : Char := '\x00'

def isBreak (c : Char) : Bool := c == '\n' || c == '\r'

def isSpace (c : Char) : Bool := c == ' ' || c == '\t'

/-- Whether a character ends a line or the text. -/
def endsLine (c : Char) : Bool := isBreak c || c == endMark

/-- Whether a character ends a word. -/
def endsWord (c : Char) : Bool := isSpace c || endsLine c

/-- Whether a character may stand in the name of an anchor, a tag or a directive. -/
def isNameCharacter (c : Char) : Bool := c.isAlphanum || c == '_' || c == '-'

/-- Whether a character is an indicator of flow collections. -/
def isFlow (c : Char) : Bool := ",[]\x7b\x7d".toList.contains c

end FeeMarket.Yaml
