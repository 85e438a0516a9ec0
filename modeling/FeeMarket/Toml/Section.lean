import FeeMarket.Toml.Number
import FeeMarket.Toml.Token

/-!
# Sections of TOML documents

**Written value.** A value as it stands in a text, with the offset at which it starts. A date or a
time is kept as it was written, and a table as its entries, one key after the other.

**Entry.** A key and a value. A key that is a path of several names opens tables on its way, into
which later entries of the same place may go; it never goes through another kind of value.

**Section.** A header, and the entries below it. The entries above the first header form a section
without a header.

Reading takes sections off a text from left to right; what they mean together is told only when
all of them are read.
-/

namespace FeeMarket.Toml

/-- A value as it is written. -/
inductive Written where
  | scalar (value : Scalar) (offset : Nat)
  | moment (text : String) (offset : Nat)
  | array (items : List Written) (offset : Nat)
  /-- `dotted` tells the tables that keys with several names open. -/
  | table (dotted : Bool) (entries : List (String × Written)) (offset : Nat)

/-- Keys and values, in the order in which they are written. -/
abbrev Entries := List (String × Written)

/-- The entries under a header. -/
structure Section where
  offset : Nat
  header : List String
  /-- Whether the header adds a table to an array of tables. -/
  repeated : Bool
  entries : Entries

namespace Written

instance : Inhabited Written := ⟨.table false [] 0⟩

def offset : Written → Nat
  | .scalar _ offset => offset
  | .moment _ offset => offset
  | .array _ offset => offset
  | .table _ _ offset => offset

/-- Changes the first entry of a key. -/
def replaceEntry (name : String) (w : Written) : Entries → Entries
  | [] => []
  | (other, kept) :: rest =>
    if name = other then (name, w) :: rest else (other, kept) :: replaceEntry name w rest

/-- Adds a value at the end, under a path of names. -/
def addEntry (w : Written) : List String → Entries → Except TomlError Entries
  | [], entries => .ok entries
  | [name], entries => .ok (entries ++ [(name, w)])
  | name :: rest, entries =>
    match entries.lookup name with
    | some (.table true inner offset) => do
      let inner ← addEntry w rest inner
      return replaceEntry name (.table true inner offset) entries
    | some other => .error ⟨.dottedThroughValue, other.offset, []⟩
    | none => do
      let inner ← addEntry w rest []
      return entries ++ [(name, .table true inner w.offset)]

end Written

/-! ## Walking over tokens -/

/-- Reads from a list of tokens. -/
abbrev Walk := StateT (List Lexeme) (Except TomlError)

namespace Walk

/-- The offset of what comes next. -/
def offset : Walk Nat := do
  return ((← get).head?.map Lexeme.offset).getD 0

def fail {α : Type} (p : Problem) (offset : Nat) : Walk α := throw ⟨p, offset, []⟩

/-- The next token, which stays there. -/
def peek : Walk Token := do
  match (← get).head? with
  | some ⟨.ok token, _⟩ => return token
  | some ⟨.error p, offset⟩ => fail p offset
  | none => return .ending

def drop : Walk Unit := modify (List.drop 1)

/-- Takes the next token. -/
def next : Walk Token := do
  let token ← peek
  drop
  return token

/-- Takes a token if it comes next. -/
def eat (token : Token) : Walk Bool := do
  if (← peek) = token then
    drop
    return true
  else return false

/-- Takes a token that has to come next. -/
def expect (token : Token) : Walk Unit := do
  let offset ← offset
  let found ← next
  if found ≠ token then fail (.wanted token.description found.description) offset

/-- Takes a word that has to come next. -/
def word (otherwise : Problem) (offset : Nat) : Walk String := do
  match ← next with
  | .word text => return text
  | _ => fail otherwise offset

/-- Takes tokens of a kind, and drops them. -/
def skip (belongs : Token → Bool) : Walk Unit :=
  modify fun lexemes => lexemes.dropWhile fun l =>
    match l.content with
    | .ok token => belongs token
    | .error _ => false

def skipBlank : Walk Unit := skip Token.isBlank

/-- Takes the end of a line. -/
def lineEnd : Walk Unit := do
  let offset ← offset
  let found ← next
  if found ≠ .newline ∧ found ≠ .ending then fail (.wanted "newline" found.description) offset

/-- Takes the rest of a line: blanks, a comment, and its end. -/
def restOfLine : Walk Unit := do
  skipBlank
  let _ ← eat .comment
  lineEnd

/-- Takes blanks, comments and line ends. -/
def skipLines : Nat → Walk Unit
  | 0 => return ()
  | fuel + 1 => do
    skipBlank
    if ← eat .comment then
      lineEnd
      skipLines fuel
    else if ← eat .newline then skipLines fuel

/-! ## Keys -/

/-- A key: a word or a string on one line. -/
def key : Walk String := do
  let offset ← offset
  match ← next with
  | .word w => return w
  | .string s false => return s
  | .string _ true => fail .multilineKey offset
  | token => fail (.wanted "a table key" token.description) offset

/-- A path of keys with points between them. -/
def path : Nat → Walk (List String)
  | 0 => return []
  | fuel + 1 => do
    let first ← key
    skipBlank
    if ← eat .period then
      skipBlank
      return first :: (← path fuel)
    else return [first]

/-! ## Single values -/

/-- The tokens of a date or a time after its first word, as they were written. -/
def restOfMoment (offset : Nat) (colonTaken : Bool) : Walk String := do
  let part := word .invalidDate offset
  let hour ←
    match (← get).map Lexeme.content with
    | .ok (.blank " ") :: .ok (.word text) :: _ => drop; drop; pure (" " ++ text)
    | _ => pure ""
  let timed ← if colonTaken then pure true else eat .colon
  if !timed then return hour
  let minute ← part
  expect .colon
  let second ← part
  let optional (token : Token) (mark : String) : Walk String := do
    if ← eat token then return mark ++ (← part) else return ""
  let fraction ← optional .period "."
  let zone ← optional .plus "+"
  let zoneMinute ← optional .colon ":"
  return hour ++ ":" ++ minute ++ ":" ++ second ++ fraction ++ zone ++ zoneMinute

/-- Whether a word starts a date. -/
def startsDate (cs : List Char) : Bool :=
  cs.contains 'T' || cs.contains 't'
    || ((cs.drop 1).contains '-' && !hasPair 'e' cs && !hasPair 'E' cs)
where
  hasPair (mark : Char) : List Char → Bool
    | a :: b :: rest => (a == mark && b == '-') || hasPair mark (b :: rest)
    | _ => false

/-- The word after a plus sign in an exponent. -/
def pendingExponent (start : Nat) : Walk Piece := do
  let _ ← eat .plus
  let offset ← offset
  return ⟨(← word .invalidNumber start).toList, offset⟩

/-- The number that starts with a word. A point is a token of its own. A double with a point is
taken to start after it. -/
def number (start wordOffset : Nat) (text : String) : Walk Written := do
  let p : Piece := ⟨text.toList, wordOffset⟩
  if isMarked p.chars then return .scalar (← integer p) start
  if p.chars.contains 'e' ∨ p.chars.contains 'E' then
    let ((negative, whole), rest) ← wholeRule.read p
    let power ← exponent wordOffset (pendingExponent wordOffset) rest
    return .scalar (← double wordOffset negative whole [] power) start
  if ← eat .period then
    let offset ← offset
    let after ← word .invalidNumber offset
    let ((negative, whole), rest) ← wholeRule.read p
    if !rest.chars.isEmpty then fail .invalidNumber wordOffset
    let ((_, fraction), rest) ← ({} : DigitRule).read ⟨after.toList, offset⟩
    let power ← exponent wordOffset (pendingExponent wordOffset) rest
    return .scalar (← double wordOffset negative whole fraction power) offset
  match namedDouble? text with
  | some value => return .scalar value start
  | none => return .scalar (← integer p) start

/-- The number, date or time that starts with a word. -/
def numberOrMoment (offset : Nat) (text : String) : Walk Written := do
  if startsDate text.toList then
    return .moment (text ++ (← restOfMoment offset false)) offset
  else if ← eat .colon then
    return .moment (text ++ (← restOfMoment offset true)) offset
  else number offset offset text

/-! ## Values -/

mutual

/-- A value. -/
def value (fuel : Nat) : Walk Written := do
  match fuel with
  | 0 => return default
  | fuel + 1 =>
    let start ← offset
    match ← next with
    | .string s _ => return .scalar (.string s) start
    | .word "true" => return .scalar (.bool true) start
    | .word "false" => return .scalar (.bool false) start
    | .word w =>
      if (w.toList.head?.any fun c => c.isDigit || c == '-') || w == "inf" || w == "nan" then
        numberOrMoment start w
      else fail .unquotedString start
    | .plus =>
      let offset ← offset
      number start offset (← word .invalidNumber offset)
    | .leftBracket => return .array (← items fuel) start
    | .leftBrace =>
      skipBlank
      if ← eat .rightBrace then return .table false [] start
      else return .table false (← inlineEntries fuel []) start
    | .ending => fail .unexpectedEnd start
    | token => fail (.wanted "a value" token.description) start

/-- The items of an array up to its closing bracket. -/
def items (fuel : Nat) : Walk (List Written) := do
  match fuel with
  | 0 => return []
  | fuel + 1 =>
    skipLines (← get).length
    if ← eat .rightBracket then return []
    let item ← value fuel
    skipLines (← get).length
    if ← eat .comma then return item :: (← items fuel)
    expect .rightBracket
    return [item]

/-- The entries of a table up to its closing brace. -/
def inlineEntries (fuel : Nat) (entries : Entries) : Walk Entries := do
  match fuel with
  | 0 => return entries
  | fuel + 1 =>
    let keys ← path fuel
    skipBlank
    expect .equals
    skipBlank
    let v ← value fuel
    let entries ← v.addEntry keys entries
    skipBlank
    if ← eat .rightBrace then return entries
    expect .comma
    skipBlank
    inlineEntries fuel entries

end

/-! ## Lines -/

/-- A header, which opens a section. -/
def header (fuel : Nat) : Walk Section := do
  let start ← offset
  expect .leftBracket
  let repeated ← eat .leftBracket
  skipBlank
  let keys ← path fuel
  expect .rightBracket
  if repeated then expect .rightBracket
  restOfLine
  return ⟨start, keys, repeated, []⟩

/-- A line with a key and its value, which goes into the entries of a section. -/
def assignment (fuel : Nat) (entries : Entries) : Walk Entries := do
  let keys ← path fuel
  skipBlank
  expect .equals
  skipBlank
  let v ← value fuel
  restOfLine
  v.addEntry keys entries

/-- The sections from the current one on. Each line takes a token. -/
def sections (fuel : Nat) : Nat → Section → Walk (List Section)
  | 0, current => return [current]
  | more + 1, current => do
    skipLines fuel
    match ← peek with
    | .ending => return [current]
    | .leftBracket =>
      let opened ← header fuel
      return current :: (← sections fuel more opened)
    | _ =>
      let entries ← assignment fuel current.entries
      sections fuel more { current with entries }

end Walk

/-- The sections of a document, without a first one that is empty. -/
def Section.read (text : String) : Except TomlError (List Section) := do
  let lexemes := lexemes text
  let fuel := 2 * lexemes.length + 2
  let (found, _) ← (Walk.sections fuel fuel ⟨0, [], false, []⟩).run lexemes
  return found.filter fun s => !(s.header.isEmpty && s.entries.isEmpty)

end FeeMarket.Toml
