import FeeMarket.Toml.Problem

/-!
# Tokens of TOML texts

**Mark.** A character and its offset. A carriage return before a line feed is taken as a part of
it.

**Token.** A word of letters, digits, underscores and hyphens; a sign of punctuation; a string in
any of its four forms; a run of blanks; a comment; or the end of a line.

**Lexeme.** A token, or the problem that ends the text early, and its offset.
-/

namespace FeeMarket.Toml

/-- A character of a text and its offset. -/
structure Mark where
  char : Char
  offset : Nat

/-- The marks of a text from an offset on. -/
def marksFrom (offset : Nat) : List Char → List Mark
  | [] => []
  | '\r' :: '\n' :: rest => ⟨'\n', offset⟩ :: marksFrom (offset + 2) rest
  | c :: rest => ⟨c, offset⟩ :: marksFrom (offset + c.utf8Size) rest

/-- The marks of a document. A byte order mark at its start does not count. -/
def marks : List Char → List Mark
  | '\uFEFF' :: rest => marksFrom 3 rest
  | cs => marksFrom 0 cs

/-- A token of a TOML text. -/
inductive Token where
  | word (text : String)
  | string (value : String) (multiline : Bool)
  | equals
  | period
  | comma
  | colon
  | plus
  | leftBrace
  | rightBrace
  | leftBracket
  | rightBracket
  | newline
  | blank (text : String)
  | comment
  | ending
deriving DecidableEq

namespace Token

/-- What an error calls the token. -/
def description : Token → String
  | .word _ => "an identifier"
  | .string _ true => "a multiline string"
  | .string _ false => "a string"
  | .equals => "an equals"
  | .period => "a period"
  | .comma => "a comma"
  | .colon => "a colon"
  | .plus => "a plus"
  | .leftBrace => "a left brace"
  | .rightBrace => "a right brace"
  | .leftBracket => "a left bracket"
  | .rightBracket => "a right bracket"
  | .newline => "a newline"
  | .blank _ => "whitespace"
  | .comment => "a comment"
  | .ending => "eof"

def isBlank : Token → Bool
  | .blank _ => true
  | _ => false

end Token

/-- A token or a problem, and its offset. -/
structure Lexeme where
  content : Except Problem Token
  offset : Nat

/-! ## Strings -/

/-- How a string is written, and where it starts. -/
structure Quoting where
  delimiter : Char
  multiline : Bool
  offset : Nat

/-- Whether backslashes escape. -/
def Quoting.escapes (q : Quoting) : Bool := q.delimiter == '"'

/-- Where a reader of a string stands. -/
inductive StringState where
  | text
  /-- After a backslash. -/
  | escape
  /-- In a code point in hexadecimal, with so many digits to come. -/
  | code (offset : Nat) (digits value : Nat)
  /-- After a backslash and blanks, which have to end their line. -/
  | lineEnd (offset : Nat) (blank : Char)
  /-- After a backslash at the end of a line, which takes the blanks and line ends after it away. -/
  | skipping
deriving DecidableEq

/-- The character of a one-letter escape. -/
def escaped? : Char → Option Char
  | '"' => some '"'
  | '\\' => some '\\'
  | 'b' => some '\x08'
  | 'f' => some '\x0c'
  | 'n' => some '\n'
  | 'r' => some '\r'
  | 't' => some '\t'
  | _ => none

/-- Whether a number is a code point of a character. -/
def isCodePoint (n : Nat) : Bool := n < 0xD800 || (0xE000 ≤ n && n < 0x110000)

/-- Whether a character may stand in a string as it is, line feeds apart. -/
def mayStand (c : Char) : Bool := c == '\t' || (0x20 ≤ c.toNat && c.toNat != 0x7F)

/-- Reads a string after its opening quotes. `seen` holds the characters so far, last first. A
multiline string may end in up to two quotes of its own before the closing three. -/
def stringFrom (q : Quoting) (state : StringState) (seen : List Char) :
    List Mark → Except TomlError (String × List Mark)
  | [] => .error ⟨.unterminatedString, q.offset, []⟩
  | ⟨c, offset⟩ :: rest =>
    let fail (p : Problem) (offset : Nat) : Except TomlError (String × List Mark) :=
      .error ⟨p, offset, []⟩
    let isBlank := c == ' ' || c == '\t'
    if state = .skipping ∧ (isBlank ∨ c = '\n') then stringFrom q .skipping seen rest
    else
      match state with
      | .escape =>
        match escaped? c with
        | some char => stringFrom q .text (char :: seen) rest
        | none =>
          if c = 'u' then stringFrom q (.code offset 4 0) seen rest
          else if c = 'U' then stringFrom q (.code offset 8 0) seen rest
          else if q.multiline ∧ isBlank then stringFrom q (.lineEnd offset c) seen rest
          else if q.multiline ∧ c = '\n' then stringFrom q .skipping seen rest
          else fail (.invalidEscape c) offset
      | .code start digits value =>
        match Numeral.digitValue? 16 c with
        | none => fail (.invalidHexEscape c) offset
        | some d =>
          let value := value * 16 + d
          if digits > 1 then stringFrom q (.code start (digits - 1) value) seen rest
          else if isCodePoint value then stringFrom q .text (Char.ofNat value :: seen) rest
          else fail (.invalidEscapeValue value) start
      | .lineEnd start blank =>
        if isBlank then stringFrom q (.lineEnd start blank) seen rest
        else if c = '\n' then stringFrom q .skipping seen rest
        else fail (.invalidEscape blank) start
      | .text | .skipping =>
        if c = '\n' then
          if q.multiline then stringFrom q .text (c :: seen) rest else fail .newlineInString offset
        else if c = q.delimiter then
          let run := ((rest.take 4).takeWhile fun m => m.char == q.delimiter).length
          if ¬ q.multiline then .ok (String.ofList seen.reverse, rest)
          else if run < 2 then stringFrom q .text (c :: seen) rest
          else
            .ok (String.ofList (List.replicate (run - 2) c ++ seen).reverse, rest.drop run)
        else if c = '\\' ∧ q.escapes then stringFrom q .escape seen rest
        else if mayStand c then stringFrom q .text (c :: seen) rest
        else fail (.invalidInString c) offset

/-- A line end right after the opening quotes does not count. -/
def afterFirstLineEnd : List Mark → List Mark
  | m :: rest => if m.char = '\n' then rest else m :: rest
  | [] => []

/-- Reads a string after its first quote. -/
def readString (delimiter : Char) (offset : Nat) (rest : List Mark) :
    Except TomlError (Token × List Mark) := do
  let run := ((rest.take 2).takeWhile fun m => m.char == delimiter).length
  if run = 1 then return (.string "" false, rest.drop 1)
  let multiline := run == 2
  let body := if multiline then afterFirstLineEnd (rest.drop 2) else rest
  let (value, after) ← stringFrom ⟨delimiter, multiline, offset⟩ .text [] body
  return (.string value multiline, after)

/-! ## Tokens -/

def isWordCharacter (c : Char) : Bool := c.isAlphanum || c == '_' || c == '-'

/-- A character and those after it as long as they belong together. -/
def wordFrom (c : Char) (belongs : Char → Bool) (rest : List Mark) : String × List Mark :=
  let more := rest.takeWhile fun m => belongs m.char
  (String.ofList (c :: more.map Mark.char), rest.drop more.length)

/-- Reads a token that starts with a mark. -/
def readToken (m : Mark) (rest : List Mark) : Except TomlError (Token × List Mark) :=
  match m.char with
  | '\n' => .ok (.newline, rest)
  | '=' => .ok (.equals, rest)
  | '.' => .ok (.period, rest)
  | ',' => .ok (.comma, rest)
  | ':' => .ok (.colon, rest)
  | '+' => .ok (.plus, rest)
  | '\x7b' => .ok (.leftBrace, rest)
  | '\x7d' => .ok (.rightBrace, rest)
  | '[' => .ok (.leftBracket, rest)
  | ']' => .ok (.rightBracket, rest)
  | '#' => .ok (.comment, rest.dropWhile fun m => m.char == '\t' || 0x20 ≤ m.char.toNat)
  | '"' | '\'' => readString m.char m.offset rest
  | c =>
    if c = ' ' ∨ c = '\t' then
      let (text, after) := wordFrom c (fun c => c == ' ' || c == '\t') rest
      .ok (.blank text, after)
    else if isWordCharacter c then
      let (text, after) := wordFrom c isWordCharacter rest
      .ok (.word text, after)
    else .error ⟨.unexpectedCharacter c, m.offset, []⟩

/-- The tokens of a text, up to its end or its first problem. Each token takes a mark. -/
def lexemesFor (ending : Lexeme) : Nat → List Mark → List Lexeme
  | 0, _ => [ending]
  | _, [] => [ending]
  | fuel + 1, m :: rest =>
    match readToken m rest with
    | .ok (token, after) => ⟨.ok token, m.offset⟩ :: lexemesFor ending fuel after
    | .error e => [⟨.error e.problem, e.offset⟩]

/-- The tokens of a text, up to its end or its first problem. -/
def lexemes (text : String) : List Lexeme :=
  let marks := marks text.toList
  lexemesFor ⟨.ok .ending, text.utf8ByteSize⟩ marks.length marks

end FeeMarket.Toml
