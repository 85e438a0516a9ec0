import FeeMarket.Json
import FeeMarket.Scalar
import FeeMarket.Text
import FeeMarket.Text.Alphanumeric

/-!
# JSON5 texts

**Value.** As in JSON, and more: a string may stand between single quotes and go on after an escaped
line end; names of fields need no quotes; a number may have a plus sign, start or end with its
point, be hexadecimal, infinite or no number; and a comma may stand at the end of a list.

**Blanks.** What Unicode calls blank, byte order marks, and comments up to the end of the line or
between slashes with asterisks.

**Number.** A literal without a point and an exponent is an integer of 64 bits; one in hexadecimal
has at most 32 bits.

**Reading** (`read`). A stop shows the line, and what might stand there.
-/

namespace FeeMarket.Json5

/-- Why reading ended early. -/
inductive Stop where
  /-- One of some parts was expected at the rest of the text. -/
  | expected (parts : List String) (rest : List Char)
  /-- A number or an escape stands for nothing. -/
  | meaningless (problem : String)

abbrev Outcome := Except Stop

def expect {α : Type} (parts : List String) (rest : List Char) : Outcome α :=
  .error (.expected parts rest)

/-- A list in words. -/
def listed : List String → String
  | [] => ""
  | [a] => a
  | [a, b] => a ++ " or " ++ b
  | parts => ", ".intercalate parts.dropLast ++ ", or " ++ parts.getLastD ""

/-- The text of an error. Lines and columns count from one. -/
def Stop.message (text : List Char) : Stop → String
  | .meaningless problem => problem
  | .expected parts rest =>
    let before := text.take (text.length - rest.length)
    let inLine := (before.reverse.takeWhile (· != '\n')).reverse
    let line := inLine ++ rest.takeWhile (· != '\n')
    let number := Numeral.decimal (before.count '\n' + 1)
    let margin := String.ofList (List.replicate number.length ' ')
    let indent := String.ofList (List.replicate inLine.length ' ')
    margin ++ "--> " ++ number ++ ":" ++ Numeral.decimal (inLine.length + 1) ++ "\n"
      ++ margin ++ " |\n"
      ++ number ++ " | " ++ String.ofList line ++ "\n"
      ++ margin ++ " | " ++ indent ++ "^---\n"
      ++ margin ++ " |\n"
      ++ margin ++ " = expected " ++ listed parts

/-- What a value may be. -/
def values : List String := ["array", "boolean", "null", "number", "object", "string"]

/-! ## Blanks -/

/-- Whether a character ends a line. -/
def isLineEnd (c : Char) : Bool := "\n\r\u2028\u2029".toList.contains c

/-- What comes after a comment whose start is passed, if it is closed. -/
def afterComment : List Char → Option (List Char)
  | '*' :: '/' :: rest => some rest
  | _ :: rest => afterComment rest
  | [] => none

/-- Passes blanks and comments. Each step takes a comment. -/
def skipFrom : Nat → List Char → List Char
  | 0, cs => cs
  | fuel + 1, cs =>
    match cs.dropWhile fun c => isBlank c && c != '\u0085' || c == '\uFEFF' with
    | '/' :: '/' :: rest => skipFrom fuel (rest.dropWhile (!isLineEnd ·))
    | '/' :: '*' :: rest =>
      match afterComment rest with
      | some after => skipFrom fuel after
      | none => '/' :: '*' :: rest
    | other => other

def skip (cs : List Char) : List Char := skipFrom (cs.length + 1) cs

/-! ## Numbers -/

/-- Takes a decimal literal off. -/
def decimalText? (cs : List Char) : Option (List Char) :=
  let whole := if cs.head? = some '0' then ['0'] else cs.takeWhile Char.isDigit
  let rest := cs.drop whole.length
  let fraction :=
    match rest with
    | '.' :: digits => '.' :: digits.takeWhile Char.isDigit
    | _ => []
  if whole.isEmpty ∧ fraction.length < 2 then none
  else
    let taken := whole ++ fraction
    match cs.drop taken.length with
    | e :: rest =>
      let sign := rest.takeWhile fun c => c == '+' || c == '-'
      let digits := (rest.drop sign.length).takeWhile Char.isDigit
      if (e = 'e' ∨ e = 'E') ∧ sign.length ≤ 1 ∧ !digits.isEmpty then
        some (taken ++ e :: sign ++ digits)
      else some taken
    | [] => some taken

/-- Takes a number off. -/
def numberText? (cs : List Char) : Option (List Char) :=
  let sign := (cs.take 1).filter fun c => c == '+' || c == '-'
  let unsigned := cs.drop sign.length
  let digits := (unsigned.drop 2).takeWhile fun c => (Numeral.digitValue? 16 c).isSome
  let isBased := unsigned.head? = some '0' ∧ "xX".toList.contains ((unsigned.drop 1).headD ' ')
  let words := ["Infinity".toList, "NaN".toList]
  if isBased ∧ !digits.isEmpty then some (cs.take (sign.length + 2 + digits.length))
  else
    match words.find? (·.isPrefixOf unsigned) with
    | some word => some (sign ++ word)
    | none => (decimalText? unsigned).map (sign ++ ·)

/-- The number of a text. -/
def numberOf (cs : List Char) : Outcome Number :=
  let text := String.ofList cs
  match cs with
  | '0' :: 'x' :: digits => based digits
  | '0' :: 'X' :: digits => based digits
  | _ =>
    if text = "Infinity" then .ok (.double (1.0 / 0.0))
    else if text = "-Infinity" then .ok (.double (-1.0 / 0.0))
    else if text = "NaN" ∨ text = "-NaN" then .ok (.double (0.0 / 0.0))
    else if cs.any fun c => ".eE".toList.contains c then
      match Decimal.read? text with
      | some f =>
        if f.isFinite then .ok (.double f)
        else .error (.meaningless "error parsing number: too large")
      | none => .error (.meaningless "error parsing number")
    else
      match Scalar.integer? 10 cs with
      | some n => .ok (.whole n)
      | none => .error (.meaningless "error parsing integer")
where
  /-- A number in hexadecimal. -/
  based (digits : List Char) : Outcome Number :=
    match Numeral.read? 16 digits with
    | some n =>
      if n < UInt32.size then .ok (.whole n) else .error (.meaningless "error parsing hex")
    | none => .error (.meaningless "error parsing hex")

/-! ## Strings and names -/

/-- The character of a one-letter escape. -/
def escaped : Char → Char
  | 'b' => '\x08'
  | 'f' => '\x0c'
  | 'n' => '\n'
  | 'r' => '\r'
  | 't' => '\t'
  | 'v' => '\x0b'
  | c => c

/-- Reads a code of so many hexadecimal digits. -/
def code? (length : Nat) (cs : List Char) : Option (Nat × List Char) :=
  if cs.length < length then none
  else (Numeral.read? 16 (cs.take length)).map fun n => (n, cs.drop length)

/-- Reads the character of a code; a first surrogate has its second after it. -/
def readUnit (cs : List Char) : Outcome (Char × List Char) :=
  match code? 4 cs with
  | none => expect ["unicode_escape_sequence"] cs
  | some (n, rest) =>
    if n < 0xD800 ∨ 0xE000 ≤ n then .ok (Char.ofNat n, rest)
    else
      let second? : Option (Nat × List Char) :=
        match rest with
        | '\\' :: 'u' :: digits => code? 4 digits
        | _ => none
      match second? with
      | some (m, after) =>
        if n < 0xDC00 ∧ 0xDC00 ≤ m ∧ m < 0xE000 then
          .ok (Char.ofNat (0x10000 + (n - 0xD800) * 0x400 + (m - 0xDC00)), after)
        else .error (.meaningless "error parsing hex prefix")
      | none => .error (.meaningless "error parsing hex prefix")

/-- Reads an escape after its backslash; an escaped line end stands for nothing. -/
def readEscape (cs : List Char) : Outcome (List Char × List Char) :=
  match cs with
  | [] => expect ["char_escape_sequence"] []
  | '\r' :: '\n' :: rest => .ok ([], rest)
  | 'u' :: digits => (readUnit digits).map fun (c, r) => ([c], r)
  | 'x' :: digits =>
    match code? 2 digits with
    | some (n, rest) => .ok ([Char.ofNat n], rest)
    | none => expect ["hex_escape_sequence"] digits
  | '0' :: rest =>
    if rest.head?.any Char.isDigit then expect ["nul_escape_sequence"] cs
    else .ok (['\x00'], rest)
  | c :: rest =>
    if isLineEnd c then .ok ([], rest)
    else if c.isDigit then expect ["char_escape_sequence", "nul_escape_sequence"] cs
    else .ok ([escaped c], rest)

/-- Reads the rest of a string after its quote. Each step takes a character. -/
def stringFrom (quote : Char) (seen : List Char) : Nat → List Char → Outcome (String × List Char)
  | 0, cs => expect ["string"] cs
  | _ + 1, [] => expect ["char_literal"] []
  | fuel + 1, c :: rest =>
    if c = quote then .ok (String.ofList seen.reverse, rest)
    else if c = '\\' then do
      let (chars, rest) ← readEscape rest
      stringFrom quote (chars.reverse ++ seen) fuel rest
    else if c = '\n' ∨ c = '\r' then expect ["char_literal"] (c :: rest)
    else stringFrom quote (c :: seen) fuel rest

/-- Reads a name. Each step takes a character. -/
def nameFrom (seen : List Char) : Nat → List Char → Outcome (String × List Char)
  | 0, cs => .ok (String.ofList seen.reverse, cs)
  | fuel + 1, cs =>
    match cs with
    | '\\' :: 'u' :: digits => do
      let (c, rest) ← readUnit digits
      nameFrom (c :: seen) fuel rest
    | c :: rest =>
      let continues := Text.isAlphanumeric c || "$_\u200C\u200D".toList.contains c
      if continues && !(seen.isEmpty && c.isDigit) then nameFrom (c :: seen) fuel rest
      else .ok (String.ofList seen.reverse, cs)
    | [] => .ok (String.ofList seen.reverse, cs)

/-- Reads the key of a field. -/
def readKey (cs : List Char) : Outcome (String × List Char) :=
  match cs with
  | '"' :: rest => stringFrom '"' [] (rest.length + 1) rest
  | '\'' :: rest => stringFrom '\'' [] (rest.length + 1) rest
  | _ => do
    let (name, rest) ← nameFrom [] (cs.length + 1) cs
    if name.isEmpty then expect ["identifier", "string"] cs else return (name, rest)

/-! ## Values -/

/-- The word at the start of a text. -/
def word? (cs : List Char) : Option (Json × List Char) :=
  let words := [("null", Json.null), ("true", .bool true), ("false", .bool false)]
  (words.find? fun w => w.1.toList.isPrefixOf cs).map fun (word, v) => (v, cs.drop word.length)

mutual

/-- Reads a value that starts here. -/
def readValue : Nat → List Char → Outcome (Json × List Char)
  | 0, cs => expect values cs
  | fuel + 1, cs =>
    match cs with
    | '[' :: rest => (readItems fuel (skip rest)).map fun (items, r) => (.array items, r)
    | '\x7b' :: rest => (readFields fuel (skip rest)).map fun (fields, r) => (.ofFields fields, r)
    | '"' :: rest => (stringFrom '"' [] (rest.length + 1) rest).map fun (s, r) => (.string s, r)
    | '\'' :: rest =>
      (stringFrom '\'' [] (rest.length + 1) rest).map fun (s, r) => (.string s, r)
    | _ =>
      match word? cs, numberText? cs with
      | some found, _ => .ok found
      | none, some text => (numberOf text).map fun n => (.number n, cs.drop text.length)
      | none, none => expect values cs

/-- Reads the items of an array up to its bracket. -/
def readItems : Nat → List Char → Outcome (List Json × List Char)
  | 0, cs => expect values cs
  | fuel + 1, cs =>
    match cs with
    | ']' :: rest => .ok ([], rest)
    | _ => do
      let (item, rest) ← readValue fuel cs
      match skip rest with
      | ']' :: after => return ([item], after)
      | ',' :: after =>
        let (items, rest) ← readItems fuel (skip after)
        return (item :: items, rest)
      | other => expect ["array"] other

/-- Reads the fields of an object up to its brace. -/
def readFields : Nat → List Char → Outcome (List (String × Json) × List Char)
  | 0, cs => expect values cs
  | fuel + 1, cs =>
    match cs with
    | '\x7d' :: rest => .ok ([], rest)
    | _ => do
      let (key, rest) ← readKey cs
      match skip rest with
      | ':' :: valued =>
        let (value, rest) ← readValue fuel (skip valued)
        match skip rest with
        | '\x7d' :: after => return ([(key, value)], after)
        | ',' :: after =>
          let (fields, rest) ← readFields fuel (skip after)
          return ((key, value) :: fields, rest)
        | other => expect ["object"] other
      | other => expect ["object"] other

end

/-- Reads a value between blanks, and nothing after it. -/
def readDocument (cs : List Char) : Outcome Json := do
  let (v, rest) ← readValue (2 * cs.length + 1) (skip cs)
  match skip rest with
  | [] => return v
  | other => expect ["EOI"] other

/-- Reads the value of a text. -/
def read (text : String) : Except String Json :=
  let cs := text.toList
  match readDocument cs with
  | .ok v => .ok v
  | .error s => .error (s.message cs)

end FeeMarket.Json5
