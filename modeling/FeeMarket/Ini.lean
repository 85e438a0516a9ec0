import FeeMarket.Numeral
import FeeMarket.Text

/-!
# INI documents

**Line.** A section in brackets; a key, an equals sign or a colon, and a value; or a comment after a
semicolon or a number sign, which stands at the start of its line. Blanks around sections, keys and
values do not count.

**Value.** The rest of a line. Between quotes it may hold line ends, and what follows them on the
line belongs to it too. A backslash escapes: letters stand for control characters, `x` and four
hexadecimal digits for a code point, and any other character for itself.

**Document.** Sections in order, the first of which has no name.
-/

namespace FeeMarket

/-- A section: its name, and its keys and values. -/
structure IniSection where
  name : Option String
  entries : List (String × String)

namespace Ini

/-- What is wrong with a text. -/
inductive Problem where
  /-- The text ended before one of the characters, which are given as messages show them. -/
  | unexpectedEnd (awaited : List String)
  | lineEndAwaited (found : String)
  | invalidCode
  | inlineComment
  | missingKey
deriving DecidableEq

def Problem.message : Problem → String
  | .unexpectedEnd awaited =>
    "expecting \"[" ++ ", ".intercalate awaited ++ "]\" but found EOF."
  | .lineEndAwaited found => "expecting \"\\n\" but found \"" ++ found ++ "\"."
  | .invalidCode => "unknown character in \\xHH form"
  | .inlineComment => "doesn't support inline comment"
  | .missingKey => "missing key"

/-- A problem, and the rest of the text where it shows. -/
structure Stop where
  problem : Problem
  rest : List Char

abbrev Reading := Except Stop

/-! ## Places -/

/-- The line of the last of some characters, and how many of them are on it, the line end before
them included in neither. -/
def place (cs : List Char) : Nat × Nat :=
  cs.foldl (fun (line, column) c => if c = '\n' then (line + 1, 0) else (line, column + 1)) (0, 0)

/-- The text of an error. A place counts from one, and takes in the character that shows it. -/
def Stop.message (text : List Char) (s : Stop) : String :=
  let (line, column) := place (text.take (text.length - s.rest.length + 1))
  Numeral.decimal (line + 1) ++ ":" ++ Numeral.decimal (column + 1) ++ " " ++ s.problem.message

/-! ## Texts -/

/-- Where a text ends. -/
structure Ending where
  marks : List Char
  /-- Whether it may end with the document. -/
  mayEnd : Bool := false

namespace Ending

private def shownMark (c : Char) : String :=
  if c = '\n' then "\\n" else if c = '\r' then "\\r" else if c = '\'' then "\\'"
  else String.singleton c

/-- The marks as messages show them. -/
def shown (e : Ending) : List String :=
  e.marks.map (fun c => "Some('" ++ shownMark c ++ "')") ++ (if e.mayEnd then ["None"] else [])

def eof {α : Type} (e : Ending) : Reading α := .error ⟨.unexpectedEnd e.shown, []⟩

end Ending

/-- The character of a one-letter escape. -/
def escaped (c : Char) : List Char :=
  match c with
  | '0' => ['\x00']
  | 'a' => ['\x07']
  | 'b' => ['\x08']
  | 't' => ['\t']
  | 'r' => ['\r']
  | 'n' => ['\n']
  | '\n' => []
  | c => [c]

/-- The characters of a code point, of which there are so many to come. A backslash among them has
to end its line. -/
def codeFrom (e : Ending) : Nat → List Char → Reading (List Char × List Char)
  | 0, cs => .ok ([], cs)
  | _ + 1, [] => e.eof
  | n + 1, c :: rest =>
    if c = '\\' then
      match rest with
      | '\n' :: _ => do
        let (more, after) ← codeFrom e n (rest.drop 1)
        return (c :: more, after)
      | d :: _ => .error ⟨.lineEndAwaited ("Some('" ++ Ending.shownMark d ++ "')"), rest⟩
      | [] => .error ⟨.lineEndAwaited "None", []⟩
    else do
      let (more, after) ← codeFrom e n rest
      return (c :: more, after)

/-- The character with a code point in hexadecimal. -/
def codePoint? (digits : List Char) : Option Char := do
  let unsigned := if digits.head? = some '+' then digits.drop 1 else digits
  let n ← Numeral.read? 16 unsigned
  if n < 0xD800 ∨ 0xE000 ≤ n then some (Char.ofNat n) else none

/-- Reads up to an ending, which stays there. Each step takes a character. -/
def textFrom (e : Ending) (seen : List Char) : Nat → List Char → Reading (String × List Char)
  | 0, cs => .ok (String.ofList seen.reverse, cs)
  | _ + 1, [] => if e.mayEnd then .ok (String.ofList seen.reverse, []) else e.eof
  | fuel + 1, c :: rest =>
    if e.marks.contains c then .ok (String.ofList seen.reverse, c :: rest)
    else if c = '\\' then
      match rest with
      | [] => e.eof
      | 'x' :: digits => do
        let (code, after) ← codeFrom e 4 digits
        match codePoint? code with
        | some char => textFrom e (char :: seen) fuel after
        | none => .error ⟨.invalidCode, digits.drop (digits.length - after.length - 1)⟩
      | letter :: after => textFrom e ((escaped letter).reverse ++ seen) fuel after
    else textFrom e (c :: seen) fuel rest

def readText (e : Ending) (cs : List Char) : Reading (String × List Char) :=
  textFrom e [] (cs.length + 1) cs

/-- The end of a line. -/
def lineEnd : Ending := { marks := ['\n', '\r'], mayEnd := true }

/-- Reads a value after its equals sign. -/
def readValue (cs : List Char) : Reading (String × List Char) := do
  match cs.dropWhile fun c => isBlank c && c != '\n' && c != '\r' with
  | [] => return ("", [])
  | c :: rest =>
    if c = '"' ∨ c = '\'' then
      let (quoted, after) ← readText { marks := [c] } rest
      let (more, after) ← readText lineEnd (after.drop 1)
      return (quoted ++ more, after)
    else readText lineEnd (c :: rest)

/-! ## Documents -/

/-- A text without the blanks around it. -/
def trimmed (s : String) : String :=
  String.ofList ((s.toList.dropWhile isBlank).reverse.dropWhile isBlank).reverse

/-- Adds an entry to the last section. -/
def addEntry (key value : String) : List IniSection → List IniSection
  | [] => [⟨none, [(key, value)]⟩]
  | [s] => [{ s with entries := s.entries ++ [(key, value)] }]
  | s :: rest => s :: addEntry key value rest

/-- Whether a character is the first of its line. -/
def startsLine (text rest : List Char) : Bool :=
  (place (text.take (text.length - rest.length + 1))).2 ≤ 1

/-- Reads sections after those that are there. `key` is one that waits for its value. Each step
takes a character. -/
def sectionsFrom (text : List Char) (key : String) (there : List IniSection) :
    Nat → List Char → Reading (List IniSection)
  | 0, _ => .ok there
  | fuel + 1, cs =>
    match cs.dropWhile isBlank with
    | [] => .ok there
    | c :: rest => do
      if c = ';' ∨ c = '#' then
        if !startsLine text (c :: rest) then throw ⟨.inlineComment, c :: rest⟩
        sectionsFrom text key there fuel (rest.dropWhile (· != '\n'))
      else if c = '[' then
        let (name, after) ← readText { marks := [']'] } rest
        sectionsFrom text key (there ++ [⟨some (trimmed name), []⟩]) fuel (after.drop 1)
      else if c = '=' ∨ c = ':' then
        if key.isEmpty then throw ⟨.missingKey, c :: rest⟩
        let (value, after) ← readValue rest
        sectionsFrom text "" (addEntry key (trimmed value) there) fuel after
      else
        let (key, after) ← readText { marks := ['=', ':'] } (c :: rest)
        sectionsFrom text (trimmed key) there fuel after

/-- Reads the sections of a document. -/
def read (text : String) : Except String (List IniSection) :=
  let cs := text.toList
  match sectionsFrom cs "" [⟨none, []⟩] (cs.length + 1) cs with
  | .ok sections => .ok sections
  | .error s => .error (s.message cs)

end Ini

end FeeMarket
