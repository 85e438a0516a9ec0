import FeeMarket.Yaml.Cursor

/-!
# Texts of YAML scalars

**Plain scalar.** Words up to a comment, to a colon that ends a word, to an indicator of a flow
collection within one, or to a line that is not indented enough.

**Quoted scalar.** Everything up to the closing quote. A single quote is written twice within single
quotes; a backslash escapes within double ones, also a line end.

**Folding.** In both, blanks at the ends of lines do not count; a single line end stands for a
space, and of more the first one does not count.

**Block scalar.** Lines with the same indentation, after a header. They are kept as they are, or
folded unless they start with a blank. The header may keep or drop the line ends at the end; of
these there is one else.
-/

namespace FeeMarket.Yaml

def fail {α : Type} (problem : String) (mark : Mark) : Except YamlError α := .error ⟨problem, mark⟩

/-! ## Folding -/

/-- What stands between two words. -/
structure Gap where
  /-- Blanks, last first. -/
  blanks : List Char := []
  /-- Whether a line has ended. -/
  broken : Bool := false
  /-- Whether the line end was one that counts. -/
  folded : Bool := false
  /-- How many line ends came after it. -/
  more : Nat := 0

namespace Gap

/-- What a gap stands for. -/
def text (g : Gap) : List Char :=
  if !g.broken then g.blanks.reverse
  else if g.folded && g.more == 0 then [' ']
  else List.replicate g.more '\n'

def addBlank (g : Gap) (c : Char) : Gap :=
  if g.broken then g else { g with blanks := c :: g.blanks }

def addLineEnd (g : Gap) : Gap :=
  if g.broken then { g with more := g.more + 1 }
  else { g with blanks := [], broken := true, folded := true }

/-- Reads a gap. Before a column a tab may not indent a line; it is a problem at `start`. Each step
takes a character. -/
def read (start : Mark) (column : Int) : Nat → Gap → Cursor → Except YamlError (Gap × Cursor)
  | 0, g, c => .ok (g, c)
  | fuel + 1, g, c =>
    if isSpace c.head then
      if g.broken ∧ (c.mark.column : Int) < column ∧ c.head = '\t' then
        fail "while scanning a plain scalar, found a tab" start
      else read start column fuel (g.addBlank c.head) c.pass
    else if isBreak c.head then read start column fuel g.addLineEnd c.passLineEnd
    else .ok (g, c)

end Gap

/-- The text of a scalar, whether a line has ended after it, and what comes then. -/
structure ScalarText where
  text : String
  lineEnded : Bool
  after : Cursor

/-! ## Plain scalars -/

/-- Takes a word of a plain scalar. -/
def plainWord (inFlow : Bool) : List Char → List Char
  | [] => []
  | c :: rest =>
    let next := rest.head?.getD endMark
    if endsWord c || (c == ':' && (endsWord next || (inFlow && isFlow next)))
      || (inFlow && isFlow c) then []
    else c :: plainWord inFlow rest

/-- Reads a plain scalar from a word on. `seen` holds the text so far, last first. -/
def plainFrom (start : Mark) (column : Int) (inFlow : Bool) (seen : List Char) (g : Gap) :
    Nat → Cursor → Except YamlError ScalarText
  | 0, c => .ok ⟨String.ofList seen.reverse, g.broken, c⟩
  | fuel + 1, c =>
    if c.atDocumentEdge || c.head == '#' then .ok ⟨String.ofList seen.reverse, g.broken, c⟩
    else do
      let word := plainWord inFlow c.rest
      let c := c.passMany word.length
      let (seen, g) :=
        if word.isEmpty then (seen, g) else (word.reverse ++ g.text.reverse ++ seen, {})
      if !(isSpace c.head || isBreak c.head) then
        return ⟨String.ofList seen.reverse, g.broken, c⟩
      let (g, c) ← Gap.read start column (c.rest.length + 1) g c
      if !inFlow && (c.mark.column : Int) < column then
        return ⟨String.ofList seen.reverse, g.broken, c⟩
      plainFrom start column inFlow seen g fuel c

/-- Reads a plain scalar, whose lines after the first one reach at least to a column. -/
def readPlain (column : Int) (inFlow : Bool) (c : Cursor) : Except YamlError ScalarText :=
  plainFrom c.mark column inFlow [] {} (c.rest.length + 1) c

/-! ## Quoted scalars -/

/-- The character of a one-letter escape. -/
def escaped? : Char → Option Char
  | '0' => some '\x00'
  | 'a' => some '\x07'
  | 'b' => some '\x08'
  | 't' => some '\t'
  | '\t' => some '\t'
  | 'n' => some '\n'
  | 'v' => some '\x0b'
  | 'f' => some '\x0c'
  | 'r' => some '\r'
  | 'e' => some '\x1b'
  | ' ' => some ' '
  | '"' => some '"'
  | '\'' => some '\''
  | '\\' => some '\\'
  | 'N' => some '\u0085'
  | '_' => some '\u00A0'
  | 'L' => some '\u2028'
  | 'P' => some '\u2029'
  | _ => none

/-- How many hexadecimal digits follow the letter of an escape. -/
def codeLength? : Char → Option Nat
  | 'x' => some 2
  | 'u' => some 4
  | 'U' => some 8
  | _ => none

/-- Reads an escape: its character, and how many characters it takes. -/
def readEscape (start : Mark) (c : Cursor) : Except YamlError (Char × Nat) :=
  match escaped? (c.charAt 1), codeLength? (c.charAt 1) with
  | some char, _ => .ok (char, 2)
  | none, some length =>
    match Numeral.read? 16 ((c.rest.drop 2).take length) with
    | some n =>
      if (c.rest.drop 2).length < length then
        fail "while parsing a quoted scalar, did not find expected hexadecimal number" start
      else if n < 0xD800 ∨ (0xE000 ≤ n ∧ n < 0x110000) then .ok (Char.ofNat n, 2 + length)
      else
        fail "while parsing a quoted scalar, found invalid Unicode character escape code" start
    | none => fail "while parsing a quoted scalar, did not find expected hexadecimal number" start
  | none, none => fail "while parsing a quoted scalar, found unknown escape character" start

/-- Reads a word of a quoted scalar. The truth value tells whether an escaped line end came after
it. Each step takes a character. -/
def quotedWord (start : Mark) (single : Bool) (seen : List Char) :
    Nat → Cursor → Except YamlError (List Char × Bool × Cursor)
  | 0, c => .ok (seen, false, c)
  | fuel + 1, c =>
    if endsWord c.head then .ok (seen, false, c)
    else if single then
      if c.head = '\'' then
        if c.charAt 1 = '\'' then quotedWord start single ('\'' :: seen) fuel (c.passMany 2)
        else .ok (seen, false, c)
      else quotedWord start single (c.head :: seen) fuel c.pass
    else if c.head = '"' then .ok (seen, false, c)
    else if c.head = '\\' then
      if isBreak (c.charAt 1) then .ok (seen, true, c.pass.passLineEnd)
      else do
        let (char, taken) ← readEscape start c
        quotedWord start single (char :: seen) fuel (c.passMany taken)
    else quotedWord start single (c.head :: seen) fuel c.pass

/-- Reads a quoted scalar from a word on. -/
def quotedFrom (start : Mark) (single : Bool) (seen : List Char) :
    Nat → Cursor → Except YamlError (String × Cursor)
  | 0, c => .ok (String.ofList seen.reverse, c)
  | fuel + 1, c => do
    if c.atDocumentEdge then
      fail "while scanning a quoted scalar, found unexpected document indicator" start
    if c.head = endMark then
      fail "while scanning a quoted scalar, found unexpected end of stream" start
    let (seen, lineEnded, c) ← quotedWord start single seen (c.rest.length + 1) c
    if c.head = (if single then '\'' else '"') then return (String.ofList seen.reverse, c.pass)
    let (g, c) ← Gap.read start 0 (c.rest.length + 1) { broken := lineEnded } c
    quotedFrom start single (g.text.reverse ++ seen) fuel c

/-- Reads a quoted scalar. -/
def readQuoted (single : Bool) (c : Cursor) : Except YamlError (String × Cursor) :=
  quotedFrom c.mark single [] (c.rest.length + 1) c.pass

/-! ## Block scalars -/

/-- What becomes of the line ends at the end of a block scalar. -/
inductive Chomping where
  | strip
  | clip
  | keep
deriving DecidableEq

/-- The header of a block scalar: what becomes of its last line ends, and how far its lines are
indented, if that is said. -/
structure BlockHeader where
  chomping : Chomping := .clip
  indent : Option Nat := none

/-- Reads a sign of chomping. -/
def readChomping (c : Cursor) : Option Chomping × Cursor :=
  if c.head = '+' then (some .keep, c.pass)
  else if c.head = '-' then (some .strip, c.pass)
  else (none, c)

/-- Reads an indentation. -/
def readIndent (start : Mark) (c : Cursor) : Except YamlError (Option Nat × Cursor) :=
  if c.head = '0' then
    fail "while scanning a block scalar, found an indentation indicator equal to 0" start
  else
    match Numeral.digitValue? 10 c.head with
    | some n => .ok (some n, c.pass)
    | none => .ok (none, c)

/-- Reads a header up to the end of its line. -/
def readHeader (start : Mark) (c : Cursor) : Except YamlError (BlockHeader × Cursor) := do
  let (early, c) := readChomping c
  let (indent, c) ← readIndent start c
  let (late, c) := if early.isNone && indent.isSome then readChomping c else (none, c)
  let c := c.passComment
  if !endsLine c.head then
    fail "while scanning a block scalar, did not find expected comment or line break" start
  return ({ chomping := (early.or late).getD .clip, indent }, c.passLineEnd)

/-- Passes the line ends before a line of a block scalar, and its indentation. Without one that is
given, it is that of the first line. -/
def blockGap (indent : Nat) : Nat → Nat → Nat → Cursor → Except YamlError (Nat × Nat × Cursor)
  | 0, deepest, ends, c => .ok (deepest, ends, c)
  | fuel + 1, deepest, ends, c => do
    let within (c : Cursor) : Bool := indent == 0 || c.mark.column < indent
    let spaces := (c.rest.takeWhile (· == ' ')).length
    let c := c.passMany (if indent == 0 then spaces else min spaces (indent - c.mark.column))
    let deepest := max deepest c.mark.column
    if within c && c.head == '\t' then
      fail ("while scanning a block scalar, found a tab character where an indentation space is "
        ++ "expected") c.mark
    if isBreak c.head then blockGap indent fuel deepest (ends + 1) c.passLineEnd
    else return (deepest, ends, c)

/-- The text of a block scalar so far, and the line ends after it. -/
structure BlockText where
  /-- Last first. -/
  seen : List Char := []
  /-- Whether a line has ended. -/
  lineEnded : Bool := false
  /-- How many line ends came after that. -/
  more : Nat := 0
  /-- Whether the last line started with a blank. -/
  blankFirst : Bool := false

/-- Adds a line, which is given without its end. -/
def BlockText.addLine (b : BlockText) (literal : Bool) (line : List Char) : BlockText :=
  let blankFirst := line.head?.any isSpace
  let joint :=
    if !literal && b.lineEnded && !b.blankFirst && !blankFirst then
      if b.more == 0 then [' '] else []
    else if b.lineEnded then ['\n']
    else []
  let seen := line.reverse ++ List.replicate b.more '\n' ++ joint ++ b.seen
  { seen, blankFirst }

/-- Reads the lines of a block scalar. -/
def blockLines (literal : Bool) (indent : Nat) :
    Nat → BlockText → Cursor → Except YamlError (BlockText × Cursor)
  | 0, b, c => .ok (b, c)
  | fuel + 1, b, c =>
    if c.mark.column ≠ indent ∨ c.head = endMark then .ok (b, c)
    else
      let (line, c) := c.takeWhile (!endsLine ·)
      let b := b.addLine literal line
      if c.head = endMark then .ok (b, c)
      else do
        let c := c.passLineEnd
        let (_, more, c) ← blockGap indent (c.rest.length + 1) 0 0 c
        blockLines literal indent fuel { b with lineEnded := true, more } c

/-- Reads a block scalar below an indentation. The mark is that of its first line. -/
def readBlock (literal : Bool) (parent : Int) (c : Cursor) :
    Except YamlError (String × Mark × Cursor) := do
  let start := c.mark
  let (header, c) ← readHeader start c.pass
  let given := (header.indent.map fun n => n + parent.toNat).getD 0
  let (deepest, more, c) ← blockGap given (c.rest.length + 1) 0 0 c
  let indent := if given = 0 then max deepest (max (parent + 1).toNat 1) else given
  let first := c.mark
  let (b, c) ← blockLines literal indent (c.rest.length + 1) { more } c
  let lineEnd := if header.chomping ≠ .strip ∧ b.lineEnded then ['\n'] else []
  let more := if header.chomping = .keep then List.replicate b.more '\n' else []
  return (String.ofList (more ++ lineEnd ++ b.seen).reverse, first, c)

end FeeMarket.Yaml
