import FeeMarket.Yaml.Token

/-!
# Walking over YAML texts

**Cursor.** The rest of a text and its mark. The text goes on without end with the mark of its end.

**Line end.** A carriage return with a line feed after it, or one of them alone.
-/

namespace FeeMarket.Yaml

/-- The rest of a text and where it starts. -/
structure Cursor where
  rest : List Char
  mark : Mark

namespace Cursor

/-- The character at some distance. -/
def charAt (c : Cursor) (distance : Nat) : Char := c.rest[distance]?.getD endMark

/-- The next character. -/
def head (c : Cursor) : Char := c.charAt 0

/-- Passes a character. -/
def pass (c : Cursor) : Cursor := ⟨c.rest.drop 1, c.mark.after c.head⟩

/-- Passes so many characters. -/
def passMany : Nat → Cursor → Cursor
  | 0, c => c
  | n + 1, c => passMany n c.pass

/-- Passes a line end, if there is one. -/
def passLineEnd (c : Cursor) : Cursor :=
  if c.head = '\r' ∧ c.charAt 1 = '\n' then c.passMany 2
  else if isBreak c.head then c.pass
  else c

/-- Takes characters of a kind, which the mark of the end is not. -/
def takeWhile (belongs : Char → Bool) (c : Cursor) : List Char × Cursor :=
  let taken := c.rest.takeWhile fun char => belongs char && char != endMark
  (taken, c.passMany taken.length)

/-- Passes characters of a kind. -/
def passWhile (belongs : Char → Bool) (c : Cursor) : Cursor := (c.takeWhile belongs).2

/-- Passes blanks, and a comment after them. -/
def passComment (c : Cursor) : Cursor :=
  let c := c.passWhile isSpace
  if c.head = '#' then c.passWhile (!endsLine ·) else c

/-- Whether three characters stand at the start of a line, with a word ending after them. -/
def atDocumentMark (char : Char) (c : Cursor) : Bool :=
  c.mark.column == 0 && c.rest.take 3 == List.replicate 3 char && endsWord (c.charAt 3)

/-- Whether a document starts or ends here. -/
def atDocumentEdge (c : Cursor) : Bool := c.atDocumentMark '-' || c.atDocumentMark '.'

end Cursor

end FeeMarket.Yaml
