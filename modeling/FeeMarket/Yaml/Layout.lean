import FeeMarket.Yaml.Property

/-!
# Layout of YAML texts

**Block collection.** It has a column, the indentation, and starts with the first entry or key to
the right of the column of the collection around it. It ends before the first token to the left of
its own.

**Key.** That something is a key shows only when a colon comes after it, on the same line and within
1024 characters. Its token, and the start of the mapping, are then put before it. A key that is
indented like the block around a flow collection has to have its colon.

**Lexemes** (`lexemes`). The tokens of a text in order, up to the end of the text or to a problem. A
token is out as soon as nothing can be put before it any more.
-/

namespace FeeMarket.Yaml

/-- Where a key may have started, and how many tokens come before it. -/
structure KeyStart where
  required : Bool
  number : Nat
  mark : Mark

/-- How far a text has been read. -/
structure Layout where
  cursor : Cursor
  /-- Tokens that are not out yet. -/
  queue : List (Token × Mark) := []
  /-- How many tokens are out. -/
  taken : Nat := 0
  /-- Whether a key may start here. -/
  keyAllowed : Bool := true
  /-- What may be a key in each open flow collection, innermost first, and in the block around. -/
  keys : List (Option KeyStart) := [none]
  /-- The column of the innermost block collection. -/
  indent : Int := -1
  /-- The columns of those around it. -/
  indents : List Int := []
  /-- How many flow collections are open. -/
  depth : Nat := 0
  /-- The place after the last quoted scalar, where a colon needs no blank after it. -/
  quoteEnd : Nat := 0

namespace Layout

def mark (l : Layout) : Mark := l.cursor.mark

def inFlow (l : Layout) : Bool := l.depth != 0

/-- Adds a token at the end. -/
def push (l : Layout) (t : Token) (m : Mark) : Layout := { l with queue := l.queue ++ [(t, m)] }

/-- Adds a token after so many others. -/
def pushAt (l : Layout) (number : Nat) (t : Token) (m : Mark) : Layout :=
  { l with queue := l.queue.insertIdx (number - l.taken) (t, m) }

/-- Passes characters. -/
def passMany (l : Layout) (n : Nat) : Layout := { l with cursor := l.cursor.passMany n }

/-! ## Keys -/

/-- Whether a colon comes too late for a key that started there. -/
def isLate (l : Layout) (k : KeyStart) : Bool :=
  k.mark.line < l.mark.line || k.mark.index + 1024 < l.mark.index

/-- Gives up keys for which a colon would come too late. -/
def dropLate (l : Layout) : Except YamlError Layout :=
  if l.keys.any fun k => k.any fun k => l.isLate k && k.required then
    fail "simple key expect ':'" l.mark
  else .ok { l with keys := l.keys.map fun k => k.filter fun k => !l.isLate k }

/-- The innermost collection with what may be a key in it. -/
def setKey (l : Layout) (k : Option KeyStart) : Layout := { l with keys := k :: l.keys.drop 1 }

/-- What may be a key in the innermost collection. -/
def key? (l : Layout) : Option KeyStart := l.keys.head?.join

/-- Gives up the key of the innermost collection. -/
def dropKey (l : Layout) : Except YamlError Layout :=
  if l.key?.any KeyStart.required then fail "simple key expected" l.mark
  else .ok (l.setKey none)

/-- Takes note that what starts here may be a key. -/
def startKey (l : Layout) : Except YamlError Layout :=
  if l.keyAllowed then do
    let required := l.inFlow && l.indent == l.mark.column
    return (← l.dropKey).setKey (some ⟨required, l.taken + l.queue.length, l.mark⟩)
  else .ok l

def allowKey (l : Layout) (allowed : Bool) : Layout := { l with keyAllowed := allowed }

/-! ## Indentation -/

/-- Starts a block collection if a column is to the right; its token comes after so many others, or
after all. -/
def indentTo (l : Layout) (column : Nat) (number : Option Nat) (t : Token) : Layout :=
  if !l.inFlow && l.indent < column then
    let l := { l with indent := column, indents := l.indent :: l.indents }
    match number with
    | some n => l.pushAt n t l.mark
    | none => l.push t l.mark
  else l

/-- How many block collections end before a column, and the columns of those that go on. -/
def endsBefore (column indent : Int) : List Int → Nat × Int × List Int
  | [] => (0, indent, [])
  | outer :: rest =>
    if column < indent then
      let (count, kept) := endsBefore column outer rest
      (count + 1, kept)
    else (0, indent, outer :: rest)

/-- Ends the block collections to the right of a column. -/
def dedentTo (l : Layout) (column : Int) : Layout :=
  if l.inFlow then l
  else
    let (count, indent, indents) := endsBefore column l.indent l.indents
    { l with indent, indents, queue := l.queue ++ List.replicate count (.blockEnd, l.mark) }

/-! ## Tokens -/

/-- Passes blanks, line ends and comments. A tab is no blank where a key may start in a block. Each
step takes a character. -/
def passBlanks : Nat → Layout → Layout
  | 0, l => l
  | fuel + 1, l =>
    match l.cursor.head with
    | ' ' => passBlanks fuel (l.passMany 1)
    | '\t' => if l.inFlow || !l.keyAllowed then passBlanks fuel (l.passMany 1) else l
    | '#' => passBlanks fuel { l with cursor := l.cursor.passWhile (!endsLine ·) }
    | c =>
      if isBreak c then
        let after := { l with cursor := l.cursor.passLineEnd }
        passBlanks fuel (if l.inFlow then after else after.allowKey true)
      else l

/-- The end of the text. -/
def endStream (l : Layout) : Except YamlError Layout := do
  let m := l.mark
  let m := if m.column = 0 then m else ⟨m.index, m.line + 1, 0⟩
  let l := { l with cursor := ⟨l.cursor.rest, m⟩ }
  let l ← (l.dedentTo (-1)).dropKey
  return (l.allowKey false).push .streamEnd l.mark

def directive (l : Layout) : Except YamlError Layout := do
  let l ← (l.dedentTo (-1)).dropKey
  let (t, c) ← readDirective l.cursor
  return { (l.allowKey false).push t l.mark with cursor := c }

/-- The start or the end of a document. -/
def documentEdge (l : Layout) (t : Token) : Except YamlError Layout := do
  let l ← (l.dedentTo (-1)).dropKey
  return ((l.allowKey false).push t l.mark).passMany 3

/-- The deepest that flow collections go. -/
def maxDepth : Nat := 255

def flowStart (l : Layout) (t : Token) : Except YamlError Layout := do
  let l ← l.startKey
  if l.depth = maxDepth then fail "recursion limit exceeded" l.mark
  else
    let l := { l with depth := l.depth + 1, keys := none :: l.keys }
    return ((l.allowKey true).push t l.mark).passMany 1

def flowEnd (l : Layout) (t : Token) : Except YamlError Layout := do
  let l ← l.dropKey
  let l := if l.inFlow then { l with depth := l.depth - 1, keys := l.keys.drop 1 } else l
  return ((l.allowKey false).push t l.mark).passMany 1

def comma (l : Layout) : Except YamlError Layout := do
  let l ← l.dropKey
  return ((l.allowKey true).push .comma l.mark).passMany 1

def entry (l : Layout) : Except YamlError Layout := do
  if l.inFlow then fail "\"-\" is only valid inside a block" l.mark
  else if !l.keyAllowed then
    fail "block sequence entries are not allowed in this context" l.mark
  else
    let l ← (l.indentTo l.mark.column none .blockSequenceStart).dropKey
    return ((l.allowKey true).push .entry l.mark).passMany 1

/-- A question mark before a key. -/
def explicitKey (l : Layout) : Except YamlError Layout := do
  if !l.inFlow && !l.keyAllowed then
    fail "mapping keys are not allowed in this context" l.mark
  else
    let l ← (l.indentTo l.mark.column none .blockMappingStart).dropKey
    return ((l.allowKey (!l.inFlow)).push .key l.mark).passMany 1

/-- A colon before a value. -/
def value (l : Layout) : Except YamlError Layout := do
  let l ←
    match l.key? with
    | some k =>
      let l := l.pushAt k.number .key k.mark
      let l := l.indentTo k.mark.column (some k.number) .blockMappingStart
      pure ((l.setKey none).allowKey false)
    | none =>
      if !l.inFlow && !l.keyAllowed then
        fail "mapping values are not allowed in this context" l.mark
      else
        pure ((l.indentTo l.mark.column none .blockMappingStart).allowKey (!l.inFlow))
  return (l.push .value l.mark).passMany 1

/-- An anchor, or a reference to one. -/
def anchor (l : Layout) (t : String → Token) : Except YamlError Layout := do
  let l ← l.startKey
  let (name, c) ← readAnchor l.cursor
  return { (l.allowKey false).push (t name) l.mark with cursor := c }

def tag (l : Layout) : Except YamlError Layout := do
  let l ← l.startKey
  let (t, c) ← readTag l.cursor
  return { (l.allowKey false).push t l.mark with cursor := c }

def blockScalar (l : Layout) (literal : Bool) : Except YamlError Layout := do
  let l ← l.startKey
  let (text, m, c) ← readBlock literal l.indent l.cursor
  return { (l.allowKey true).push (.scalar text false) m with cursor := c }

def quotedScalar (l : Layout) (single : Bool) : Except YamlError Layout := do
  let l ← l.startKey
  let (text, c) ← readQuoted single l.cursor
  return { (l.allowKey false).push (.scalar text false) l.mark with
    cursor := c, quoteEnd := c.mark.index }

def plainScalar (l : Layout) : Except YamlError Layout := do
  let l ← l.startKey
  let read ← readPlain (l.indent + 1) l.inFlow l.cursor
  return { (l.allowKey read.lineEnded).push (.scalar read.text true) l.mark with
    cursor := read.after }

/-- Whether a colon here comes before a value. -/
def atValue (l : Layout) : Bool :=
  let next := l.cursor.charAt 1
  endsWord next || (l.inFlow && (isFlow next || l.mark.index == l.quoteEnd))

/-- Reads a token that starts with a character. -/
def tokenAt (l : Layout) (c : Char) : Except YamlError Layout :=
  let alone := endsWord (l.cursor.charAt 1)
  match c with
  | '[' => l.flowStart .flowSequenceStart
  | '\x7b' => l.flowStart .flowMappingStart
  | ']' => l.flowEnd .flowSequenceEnd
  | '\x7d' => l.flowEnd .flowMappingEnd
  | ',' => l.comma
  | '-' => if alone then l.entry else l.plainScalar
  | '?' => if alone then l.explicitKey else l.plainScalar
  | ':' => if l.atValue then l.value else l.plainScalar
  | '*' => l.anchor .reference
  | '&' => l.anchor .anchor
  | '!' => l.tag
  | '|' => if l.inFlow then l.plainScalar else l.blockScalar true
  | '>' => if l.inFlow then l.plainScalar else l.blockScalar false
  | '\'' => l.quotedScalar true
  | '"' => l.quotedScalar false
  | c =>
    if "%@`".toList.contains c then
      fail ("unexpected character: `" ++ String.singleton c ++ "'") l.mark
    else l.plainScalar

/-- Reads on by a token, and the block collections that start or end before it. -/
def step (l : Layout) : Except YamlError Layout := do
  let l ← (l.passBlanks (l.cursor.rest.length + 1)).dropLate
  let l := l.dedentTo l.mark.column
  let c := l.cursor
  if c.head = endMark then l.endStream
  else if c.mark.column = 0 ∧ c.head = '%' then l.directive
  else if c.atDocumentMark '-' then l.documentEdge .documentStart
  else if c.atDocumentMark '.' then l.documentEdge .documentEnd
  else l.tokenAt c.head

/-- Reads on until nothing can be put before the first token any more. -/
def settle : Nat → Layout → Except YamlError Layout
  | 0, l => .ok l
  | fuel + 1, l =>
    if l.queue.isEmpty then do settle fuel (← l.step)
    else do
      let l ← l.dropLate
      if l.keys.any fun k => k.any fun k => k.number == l.taken then settle fuel (← l.step)
      else return l

/-- The lexemes from here on. Each step gives one. -/
def lexemesFrom : Nat → Layout → List Lexeme
  | 0, _ => []
  | fuel + 1, l =>
    match l.settle (l.cursor.rest.length + 2) with
    | .error e => [⟨.error e.problem, e.mark⟩]
    | .ok l =>
      match l.queue with
      | [] => []
      | (.streamEnd, m) :: _ => [⟨.ok .streamEnd, m⟩]
      | (t, m) :: rest =>
        ⟨.ok t, m⟩ :: lexemesFrom fuel { l with queue := rest, taken := l.taken + 1 }

end Layout

/-- The lexemes of a text. A character gives at most four, among them the end of a collection. -/
def lexemes (text : String) : List Lexeme :=
  let cs := text.toList
  Layout.lexemesFrom (4 * cs.length + 4) { cursor := ⟨cs, {}⟩, queue := [(.streamStart, {})] }

end FeeMarket.Yaml
