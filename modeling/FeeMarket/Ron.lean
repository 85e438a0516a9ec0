import FeeMarket.Json
import FeeMarket.Scalar
import FeeMarket.Text.Place
import FeeMarket.Text.Quoted

/-!
# RON documents

**Value.** A word, a number, a character, a string, a list in brackets, a tuple in parentheses, a
map in braces, or a record: fields in parentheses. A name may stand before parentheses; alone it
means nothing, like `None` and `()`. A value may be wrapped in `Some`.

**Blanks.** Spaces, tabs and line ends; comments up to the end of the line, or between slashes with
asterisks, which may be nested.

**Reading** (`read`). The value of a text as JSON: tuples are arrays, records and maps are
objects, and a character is a string. The keys of a map have to be strings.
-/

namespace FeeMarket.Ron

/-- Why reading ended early, and the rest of the text there; nothing of it for a key that is no
string. -/
structure Stop where
  problem : String
  rest : Option (List Char)

abbrev Outcome := Except Stop

def stop {α : Type} (problem : String) (rest : List Char) : Outcome α := .error ⟨problem, some rest⟩

/-- The text of an error. A place counts from one. -/
def Stop.message (text : List Char) (s : Stop) : String :=
  match s.rest with
  | none => s.problem
  | some rest =>
    let p := Place.ofOffset text (byteCount (text.take (text.length - rest.length)))
    Numeral.decimal (p.line + 1) ++ ":" ++ Numeral.decimal (p.column + 1) ++ ": " ++ s.problem

/-- Stops at a character that nothing starts with. The message shows the first byte of its UTF-8
form as a character. -/
def unexpected {α : Type} (c : Char) (rest : List Char) : Outcome α :=
  let first := ((String.utf8EncodeChar c).head?.map UInt8.toNat).getD 0
  let shown := if c = '\'' then ['\\', c] else Text.quotedCharacter (Char.ofNat first)
  stop ("Unexpected byte '" ++ String.ofList shown ++ "'") rest

/-! ## Blanks -/

/-- What comes after a comment that was opened so often, if it is closed. -/
def afterComment (depth : Nat) : List Char → Option (List Char)
  | '/' :: '*' :: rest => afterComment (depth + 1) rest
  | '*' :: '/' :: rest => if depth ≤ 1 then some rest else afterComment (depth - 1) rest
  | _ :: rest => afterComment depth rest
  | [] => none

/-- Passes blanks and comments. Each step takes a comment. -/
def skipFrom : Nat → List Char → Outcome (List Char)
  | 0, cs => .ok cs
  | fuel + 1, cs =>
    match cs.dropWhile fun c => c = ' ' ∨ c = '\n' ∨ c = '\t' ∨ c = '\r' with
    | '/' :: '/' :: rest => skipFrom fuel (rest.dropWhile (· != '\n'))
    | '/' :: '*' :: rest =>
      match afterComment 1 rest with
      | some after => skipFrom fuel after
      | none => stop "Unclosed block comment" []
    | '/' :: c :: rest => unexpected c rest
    | ['/'] => stop "Unexpected end of file" []
    | other => .ok other

def skip (cs : List Char) : Outcome (List Char) := skipFrom (cs.length + 1) cs

/-- Passes a comma and the blanks around it; the truth value tells whether there was one. -/
def comma (cs : List Char) : Outcome (Bool × List Char) := do
  match ← skip cs with
  | ',' :: rest => return (true, ← skip rest)
  | rest => return (false, rest)

/-! ## Names -/

def startsName (c : Char) : Bool := c.isAlpha || c == '_'

def inName (c : Char) : Bool := c.isAlphanum || c == '_'

def inRawName (c : Char) : Bool := inName c || c == '.' || c == '+' || c == '-'

/-- Takes a name off. An `r` before a quote starts a string instead. -/
def name? (cs : List Char) : Option (String × List Char) :=
  let taken (belongs : Char → Bool) (cs : List Char) : Option (String × List Char) :=
    some (String.ofList (cs.takeWhile belongs), cs.dropWhile belongs)
  match cs with
  | 'r' :: '"' :: _ => none
  | 'r' :: '#' :: c :: rest => if inRawName c then taken inRawName (c :: rest) else none
  | ['r', '#'] => none
  | c :: rest => if startsName c then taken inName (c :: rest) else none
  | [] => none

/-- Takes a word off which no name goes on after. -/
def word? (word : String) (cs : List Char) : Option (List Char) :=
  let after := cs.drop word.length
  if word.toList.isPrefixOf cs && !after.head?.any inName then some after else none

/-! ## Numbers -/

/-- Whether a character may stand in an integer, of whatever base. -/
def inInteger (c : Char) : Bool := (Numeral.digitValue? 16 c).isSome || c == '_'

def inDouble (c : Char) : Bool := c.isDigit || "eE.+-_".toList.contains c

/-- Reads an integer without its sign. -/
def natural? (cs : List Char) : Option (Nat × List Char) :=
  let (base, cs) :=
    match cs with
    | '0' :: 'x' :: rest => (16, rest)
    | '0' :: 'o' :: rest => (8, rest)
    | '0' :: 'b' :: rest => (2, rest)
    | _ => (10, cs)
  let digits := cs.takeWhile inInteger
  if digits.head? = some '_' then none
  else
    (Numeral.read? base (digits.filter (· != '_'))).map fun n => (n, cs.drop digits.length)

/-- Reads a double. -/
def readDouble (cs : List Char) : Outcome (Number × List Char) :=
  let text := cs.takeWhile inDouble
  if text.contains '_' then stop "Unexpected underscore in float" (cs.dropWhile (· != '_'))
  else
    match Decimal.read? (String.ofList text) with
    | some f => .ok (.double f, cs.drop text.length)
    | none => stop "Expected float" cs

/-- Reads a number. One that is too large for an integer is a double. -/
def readNumber (cs : List Char) : Outcome (Number × List Char) :=
  let (negative, unsigned) := Decimal.spanSign cs
  let signed := unsigned.length < cs.length
  if (unsigned.takeWhile inInteger).length < (unsigned.takeWhile inDouble).length then readDouble cs
  else
    match natural? unsigned with
    | none => readDouble cs
    | some (n, rest) =>
      let value : Int := if negative then -(n : Int) else n
      if Scalar.fits value ∨ (!signed ∧ n < UInt64.size) then .ok (.whole value, rest)
      else readDouble cs

/-! ## Strings -/

/-- Reads up to six hexadecimal digits and a brace. `left` is how many digits may come. -/
def readCode (value left : Nat) : List Char → Outcome (Nat × List Char)
  | [] => stop "Unexpected end of file" []
  | c :: rest =>
    if c = '\x7d' then
      if left = 6 then stop "Expected 1-6 digits, got 0 digits" (c :: rest)
      else .ok (value, rest)
    else
      match left, Numeral.digitValue? 16 c with
      | 0, _ => stop "No \x7d at the end" (c :: rest)
      | left + 1, some d => readCode (value * 16 + d) left rest
      | _ + 1, none => stop "Non-hex digit found" rest

/-- Reads an escape after its backslash. -/
def readEscape : List Char → Outcome (Char × List Char)
  | '\'' :: rest => .ok ('\'', rest)
  | '"' :: rest => .ok ('"', rest)
  | '\\' :: rest => .ok ('\\', rest)
  | 'n' :: rest => .ok ('\n', rest)
  | 'r' :: rest => .ok ('\r', rest)
  | 't' :: rest => .ok ('\t', rest)
  | 'x' :: high :: low :: rest =>
    match Numeral.read? 16 [high, low] with
    | some n => .ok (Char.ofNat n, rest)
    | none => stop "Non-hex digit found" rest
  | 'u' :: '\x7b' :: digits => do
    let (n, rest) ← readCode 0 6 digits
    if n < 0xD800 ∨ (0xE000 ≤ n ∧ n < 0x110000) then return (Char.ofNat n, rest)
    else stop "Not a valid char" rest
  | 'u' :: rest => stop "Missing \x7b" rest
  | [] => stop "Unexpected end of file" []
  | _ :: rest => stop "Unknown escape character" rest

/-- Reads the rest of a string after its quote. Each step takes a character. -/
def stringFrom (seen : List Char) : Nat → List Char → Outcome (String × List Char)
  | 0, cs => stop "Expected string end" cs
  | _ + 1, [] => stop "Expected string end" []
  | fuel + 1, c :: rest =>
    if c = '"' then .ok (String.ofList seen.reverse, rest)
    else if c = '\\' then do
      let (char, rest) ← readEscape rest
      stringFrom (char :: seen) fuel rest
    else stringFrom (c :: seen) fuel rest

/-- Reads the rest of a string without escapes, which ends with a quote and so many number signs. -/
def rawFrom (signs : Nat) (seen : List Char) : List Char → Outcome (String × List Char)
  | [] => stop "Expected string end" []
  | c :: rest =>
    if c = '"' ∧ (List.replicate signs '#').isPrefixOf rest then
      .ok (String.ofList seen.reverse, rest.drop signs)
    else rawFrom signs (c :: seen) rest

/-- Reads a string without escapes after its `r`. -/
def readRaw (cs : List Char) : Outcome (String × List Char) :=
  let signs := (cs.takeWhile (· == '#')).length
  match cs.drop signs with
  | '"' :: rest => rawFrom signs [] rest
  | rest => stop "Expected string" rest

/-- Reads a character after its quote. -/
def readCharacter (cs : List Char) : Outcome (String × List Char) := do
  let (char, rest) ←
    match cs with
    | '\\' :: rest => readEscape rest
    | [] => stop "Unexpected end of file" []
    | c :: rest => if c = '\'' then stop "Expected char" cs else .ok (c, rest)
  match rest with
  | '\'' :: after => return (String.singleton char, after)
  | _ => stop "Expected char" rest

/-! ## Values -/

/-- The text of a key. -/
def keyText : Json → Outcome String
  | .string s => .ok s
  | other =>
    let found :=
      match other with
      | .bool b => "boolean `" ++ Scalar.truthText b ++ "`"
      | .number (.whole n) => "integer `" ++ Scalar.integerText n ++ "`"
      | .number (.double f) => "floating point `" ++ Decimal.plain f ++ "`"
      | .array _ => "sequence"
      | .object _ => "map"
      | _ => "unit value"
    .error ⟨"invalid type: " ++ found ++ ", expected a string", none⟩

/-- Whether a parenthesis has fields after it. -/
def startsRecord (cs : List Char) : Outcome Bool :=
  match name? cs with
  | none => .ok false
  | some (_, rest) => do
    match ← skip rest with
    | [] => stop "Unexpected end of file" []
    | c :: _ => return c == ':'

mutual

/-- Reads a value that starts here. -/
def readValue : Nat → List Char → Outcome (Json × List Char)
  | 0, cs => stop "Unexpected end of file" cs
  | fuel + 1, cs =>
    if let some rest := word? "true" cs then .ok (.bool true, rest)
    else if let some rest := word? "false" cs then .ok (.bool false, rest)
    else if let some rest := word? "Some" cs then readWrapped fuel rest
    else if let some rest := word? "None" cs then .ok (.null, rest)
    else if let some rest := word? "inf" cs then .ok (.number (.double (1.0 / 0.0)), rest)
    else if let some rest := word? "-inf" cs then .ok (.number (.double (-1.0 / 0.0)), rest)
    else if let some rest := word? "NaN" cs then .ok (.number (.double (0.0 / 0.0)), rest)
    else if let some (_, rest) := name? cs then do
      match ← skip rest with
      | '(' :: inner => readParentheses fuel inner
      | after => return (.null, after)
    else
      match cs with
      | [] => stop "Unexpected end of file" []
      | '(' :: ')' :: rest => .ok (.null, rest)
      | '(' :: rest => readParentheses fuel rest
      | '[' :: rest => (readItems ']' fuel rest).map fun (items, r) => (.array items, r)
      | '\x7b' :: rest => (readEntries fuel rest).map fun (fields, r) => (.ofFields fields, r)
      | '"' :: rest => (stringFrom [] (rest.length + 1) rest).map fun (s, r) => (.string s, r)
      | 'r' :: rest => (readRaw rest).map fun (s, r) => (.string s, r)
      | '\'' :: rest => (readCharacter rest).map fun (s, r) => (.string s, r)
      | c :: rest =>
        if c.isDigit || "+-.".toList.contains c then
          (readNumber cs).map fun (n, r) => (.number n, r)
        else unexpected c (c :: rest)

/-- Reads a value that `Some` wraps. -/
def readWrapped : Nat → List Char → Outcome (Json × List Char)
  | 0, cs => stop "Unexpected end of file" cs
  | fuel + 1, cs => do
    match ← skip cs with
    | '(' :: inner =>
      let (v, rest) ← readValue fuel (← skip inner)
      match (← comma rest).2 with
      | ')' :: after => return (v, after)
      | other => stop "Expected end of option" other
    | other => stop "Expected option" other

/-- Reads a tuple or a record after its parenthesis. -/
def readParentheses : Nat → List Char → Outcome (Json × List Char)
  | 0, cs => stop "Unexpected end of file" cs
  | fuel + 1, cs => do
    if ← startsRecord (← skip cs) then
      (readFields fuel cs).map fun (fields, r) => (.ofFields fields, r)
    else (readItems ')' fuel cs).map fun (items, r) => (.array items, r)

/-- Reads items up to the mark of their end. -/
def readItems (ending : Char) : Nat → List Char → Outcome (List Json × List Char)
  | 0, cs => stop "Unexpected end of file" cs
  | fuel + 1, cs => do
    match ← skip cs with
    | [] => stop "Unexpected end of file" []
    | c :: rest =>
      if c = ending then return ([], rest)
      else
        let (item, rest) ← readValue fuel (c :: rest)
        let (more, rest) ← comma rest
        if more then
          let (items, rest) ← readItems ending fuel rest
          return (item :: items, rest)
        else
          match rest with
          | c :: after =>
            if c = ending then return ([item], after) else stop "Expected end of array" rest
          | [] => stop "Expected end of array" []

/-- Reads the value of a field after its colon. -/
def readFieldValue : Nat → List Char → Outcome (Json × List Char)
  | 0, cs => stop "Unexpected end of file" cs
  | fuel + 1, cs => do
    match ← skip cs with
    | ':' :: rest => readValue fuel (← skip rest)
    | other => stop "Expected colon" other

/-- Reads the fields of a record. -/
def readFields : Nat → List Char → Outcome (List (String × Json) × List Char)
  | 0, cs => stop "Unexpected end of file" cs
  | fuel + 1, cs => do
    match ← skip cs with
    | [] => stop "Unexpected end of file" []
    | ')' :: rest => return ([], rest)
    | named =>
      match name? named with
      | none => stop "Expected identifier" named
      | some (name, rest) =>
        let (value, rest) ← readFieldValue fuel rest
        match ← comma rest with
        | (true, rest) =>
          let (fields, rest) ← readFields fuel rest
          return ((name, value) :: fields, rest)
        | (false, ')' :: after) => return ([(name, value)], after)
        | (false, other) => stop "Expected end of struct" other

/-- Reads the entries of a map. -/
def readEntries : Nat → List Char → Outcome (List (String × Json) × List Char)
  | 0, cs => stop "Unexpected end of file" cs
  | fuel + 1, cs => do
    match ← skip cs with
    | [] => stop "Unexpected end of file" []
    | '\x7d' :: rest => return ([], rest)
    | keyed =>
      let (key, rest) ← readValue fuel keyed
      let (value, rest) ← readFieldValue fuel rest
      let name ← keyText key
      match ← comma rest with
      | (true, rest) =>
        let (fields, rest) ← readEntries fuel rest
        return ((name, value) :: fields, rest)
      | (false, '\x7d' :: after) => return ([(name, value)], after)
      | (false, other) => stop "Expected end of map" other

end

/-- Reads a value between blanks, and nothing after it. -/
def readDocument (cs : List Char) : Outcome Json := do
  let (v, rest) ← readValue (3 * cs.length + 3) (← skip cs)
  match ← skip rest with
  | [] => return v
  | other => stop "Non-whitespace trailing characters" other

/-- Reads the value of a text. -/
def read (text : String) : Except String Json :=
  let cs := text.toList
  match readDocument cs with
  | .ok v => .ok v
  | .error s => .error (s.message cs)

end FeeMarket.Ron
