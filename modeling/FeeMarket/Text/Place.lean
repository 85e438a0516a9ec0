/-!
# Places in texts

**Offset.** How many bytes of the UTF-8 form of a text come before a character.

**Place.** How many lines end before an offset, and how many bytes of its own line come before it.
Only a line feed ends a line.
-/

namespace FeeMarket

/-- How many bytes the UTF-8 form of a text has. -/
def byteCount (cs : List Char) : Nat := (String.ofList cs).utf8ByteSize

/-- A place in a text, both counts from zero. -/
structure Place where
  line : Nat
  column : Nat
deriving DecidableEq

namespace Place

/-- The place after a character. -/
def advance (p : Place) (c : Char) : Place :=
  if c = '\n' then ⟨p.line + 1, 0⟩ else ⟨p.line, p.column + c.utf8Size⟩

/-- The place so many bytes into a text that starts at a place. -/
def forward (p : Place) : Nat → List Char → Place
  | _, [] => p
  | bytes, c :: rest =>
    if bytes < c.utf8Size then ⟨p.line, p.column + bytes⟩
    else (p.advance c).forward (bytes - c.utf8Size) rest

/-- The place of an offset. -/
def ofOffset (cs : List Char) (offset : Nat) : Place := (⟨0, 0⟩ : Place).forward offset cs

end Place

end FeeMarket
