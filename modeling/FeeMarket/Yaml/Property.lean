import FeeMarket.Yaml.Scalar

/-!
# Tags, anchors and directives of YAML texts

**Anchor.** An ampersand and a name, before the node that has the name. An asterisk and the name
refer to that node.

**Tag.** An exclamation mark and the kind of a node, or a whole tag between `!<` and `>`. A tag with
a second exclamation mark is a handle and a suffix. A percent sign and two hexadecimal digits stand
for a byte.

**Directive.** A line that starts with a percent sign. It says nothing about the nodes, but has to
be well-formed.
-/

namespace FeeMarket.Yaml

/-! ## Anchors -/

/-- Reads the name of an anchor after its indicator. -/
def readAnchor (c : Cursor) : Except YamlError (String × Cursor) :=
  let start := c.mark
  let (name, c) := c.pass.takeWhile isNameCharacter
  if name.isEmpty || !(endsWord c.head || "?:,]\x7d%@`".toList.contains c.head) then
    fail ("while scanning an anchor or alias, did not find expected alphabetic or numeric "
      ++ "character") start
  else .ok (String.ofList name, c)

/-! ## Tags -/

/-- Whether a character may stand in a tag, besides those of names. -/
def isTagMark (char : Char) : Bool := ";/?:@&=+$,.!~*'()[]%".toList.contains char

/-- How many bytes a character has whose first byte is given. -/
def byteCount? (first : Nat) : Option Nat :=
  if first < 0x80 then some 1
  else if 0xC0 ≤ first ∧ first < 0xE0 then some 2
  else if 0xE0 ≤ first ∧ first < 0xF0 then some 3
  else if 0xF0 ≤ first ∧ first < 0xF8 then some 4
  else none

/-- Reads a byte that is written with a percent sign. -/
def readByte (start : Mark) (c : Cursor) : Except YamlError (Nat × Cursor) :=
  match c.rest with
  | '%' :: high :: low :: _ =>
    match Numeral.read? 16 [high, low] with
    | some byte => .ok (byte, c.passMany 3)
    | none => fail "while parsing a tag, did not find URI escaped octet" start
  | _ => fail "while parsing a tag, did not find URI escaped octet" start

/-- Reads the bytes after the first one of a character. The bytes make one number. -/
def laterBytes (start : Mark) : Nat → Nat → Cursor → Except YamlError (Nat × Cursor)
  | 0, code, c => .ok (code, c)
  | n + 1, code, c => do
    let (byte, after) ← readByte start c
    if byte < 0x80 ∨ 0xC0 ≤ byte then
      fail "while parsing a tag, found an incorrect trailing UTF-8 octet" start
    else laterBytes start n (code * 256 + byte) after

/-- Reads a character that is written as bytes. -/
def readBytes (start : Mark) (c : Cursor) : Except YamlError (Char × Cursor) := do
  let (first, c) ← readByte start c
  match byteCount? first with
  | none => fail "while parsing a tag, found an incorrect leading UTF-8 octet" start
  | some count =>
    let (code, c) ← laterBytes start (count - 1) first c
    if code < 0xD800 ∨ (0xE000 ≤ code ∧ code < 0x110000) then return (Char.ofNat code, c)
    else fail "while parsing a tag, found an invalid UTF-8 codepoint" start

/-- Reads the characters of a tag. `seen` holds those before, last first. Each step takes one. -/
def tagFrom (start : Mark) (seen : List Char) :
    Nat → Cursor → Except YamlError (List Char × Cursor)
  | 0, c => .ok (seen.reverse, c)
  | fuel + 1, c =>
    if c.head = '%' then do
      let (char, after) ← readBytes start c
      tagFrom start (char :: seen) fuel after
    else if isNameCharacter c.head || isTagMark c.head then
      tagFrom start (c.head :: seen) fuel c.pass
    else .ok (seen.reverse, c)

/-- Reads the rest of a tag whose first characters are known; both must not be empty. -/
def readTagText (start : Mark) (head : List Char) (c : Cursor) :
    Except YamlError (String × Cursor) := do
  let (chars, after) ← tagFrom start (head.drop 1).reverse (c.rest.length + 1) c
  if head.isEmpty && chars.isEmpty then
    fail "while parsing a tag, did not find expected tag URI" start
  else return (String.ofList chars, after)

/-- Reads a handle. In a directive it must end with an exclamation mark. -/
def readHandle (directive : Bool) (start : Mark) (c : Cursor) :
    Except YamlError (List Char × Cursor) :=
  if c.head ≠ '!' then fail "while scanning a tag, did not find expected '!'" start
  else
    let (name, after) := c.pass.takeWhile isNameCharacter
    if after.head = '!' then .ok ('!' :: name ++ ['!'], after.pass)
    else if directive && !name.isEmpty then
      fail "while parsing a tag directive, did not find expected '!'" start
    else .ok ('!' :: name, after)

/-- Reads the handle and the suffix of a tag. -/
def readTagParts (start : Mark) (c : Cursor) : Except YamlError ((String × String) × Cursor) := do
  if c.charAt 1 = '<' then
    let (suffix, c) ← readTagText start [] (c.passMany 2)
    if c.head ≠ '>' then fail "while scanning a tag, did not find the expected '>'" start
    else return (("", suffix), c.pass)
  else
    let (handle, c) ← readHandle false start c
    if 2 ≤ handle.length ∧ handle.getLast? = some '!' then
      let (suffix, c) ← readTagText start [] c
      return ((String.ofList handle, suffix), c)
    else
      let (suffix, c) ← readTagText start handle c
      return (if suffix.isEmpty then ("", "!") else ("!", suffix), c)

/-- Reads a tag. -/
def readTag (c : Cursor) : Except YamlError (Token × Cursor) := do
  let start := c.mark
  let ((handle, suffix), c) ← readTagParts start c
  if endsWord c.head then return (.tag handle suffix, c)
  else fail "while scanning a tag, did not find expected whitespace or line break" start

/-! ## Directives -/

/-- Reads a number of a version. -/
def readVersionNumber (start : Mark) (c : Cursor) : Except YamlError (Unit × Cursor) :=
  let (digits, after) := c.takeWhile Char.isDigit
  if 9 < digits.length then
    fail "while scanning a YAML directive, found extremely long version number" start
  else if digits.isEmpty then
    fail "while scanning a YAML directive, did not find expected version number" start
  else .ok ((), after)

/-- Reads a version. -/
def readVersion (start : Mark) (c : Cursor) : Except YamlError (Unit × Cursor) := do
  let ((), c) ← readVersionNumber start (c.passWhile isSpace)
  if c.head ≠ '.' then
    fail "while scanning a YAML directive, did not find expected digit or '.' character" start
  else readVersionNumber start c.pass

/-- Reads a handle and what it stands for. -/
def readHandleMeaning (start : Mark) (c : Cursor) : Except YamlError (Unit × Cursor) := do
  let (_, c) ← readHandle true start (c.passWhile isSpace)
  let (_, c) ← readTagText start [] (c.passWhile isSpace)
  if endsWord c.head then return ((), c)
  else fail "while scanning TAG, did not find expected whitespace or line break" start

/-- Reads the name of a directive. -/
def readDirectiveName (c : Cursor) : Except YamlError (String × Cursor) :=
  let (name, after) := c.takeWhile isNameCharacter
  if name.isEmpty then
    fail "while scanning a directive, could not find expected directive name" c.mark
  else if !endsWord after.head then
    fail "while scanning a directive, found unexpected non-alphabetical character" c.mark
  else .ok (String.ofList name, after)

/-- Reads a directive and the end of its line. -/
def readDirective (c : Cursor) : Except YamlError (Token × Cursor) := do
  let start := c.mark
  let (name, c) ← readDirectiveName c.pass
  let ((), c) ←
    match name with
    | "YAML" => readVersion start c
    | "TAG" => readHandleMeaning start c
    | _ => .ok ((), c.passWhile (!endsLine ·))
  let c := c.passComment
  if endsLine c.head then return (.directive, c.passLineEnd)
  else
    fail "while scanning a directive, did not find expected comment or line break" start

end FeeMarket.Yaml
