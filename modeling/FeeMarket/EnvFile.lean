import FeeMarket.Fault
import FeeMarket.Numeral
import FeeMarket.Text
import FeeMarket.Text.Alphanumeric
import FeeMarket.Text.Place

/-!
# Files of environment variables

**Line.** `NAME=value`, with an optional `export` before it; a comment after `#`; or nothing. A
name starts with a letter or an underscore and goes on with letters, digits, underscores and
points, all of them ASCII. Blanks at the end of a line do not count.

**Value.** Characters up to a blank, after which only a comment may follow. Between single quotes
every character stands for itself. Between double quotes, and outside of quotes, a backslash
escapes, and `$NAME` or `$` and a name in braces stand for a variable: one that is set already,
or else one of an earlier line. A name without braces has letters and digits of any script.

**Loading.** Lines take effect one after the other up to the first that is no line. A variable
that is set keeps its value. A value with a zero character cannot be set; loading breaks down.
-/

namespace FeeMarket.EnvFile

/-- Variables and their values. -/
abbrev Variables := List (String × String)

/-- A line or a value that is none, and where reading it stopped: after how many bytes of a line,
or characters of a value. -/
structure LineError where
  line : String
  place : Nat
deriving DecidableEq

def LineError.message (e : LineError) : String :=
  "Error parsing line: '" ++ e.line ++ "', error at line index: " ++ Numeral.decimal e.place

/-! ## Values -/

/-- How a value goes on. -/
inductive Mode where
  | plain
  | single
  | double
  /-- After a backslash, in a mode to return to. -/
  | escaped (within : Mode)
  /-- In the name of a variable, last character first. -/
  | name (within : Mode) (seen : List Char)
  /-- In the name of a variable between braces, last character first. -/
  | braced (within : Mode) (seen : List Char)
  /-- After the value. -/
  | after
deriving DecidableEq

/-- The value of a variable; empty if there is none. -/
def valueOf (set earlier : Variables) (seen : List Char) : List Char :=
  let name := String.ofList seen.reverse
  ((set.lookup name).or (earlier.lookup name)).getD "" |>.toList

/-- Reads a value in a mode, from a place on. `out` holds the characters so far, last first, and
`last` is the place of an end that comes too early. -/
def valueFrom (set earlier : Variables) (last place : Nat) (out : List Char) :
    Mode → List Char → Except Nat (List Char)
  | mode, [] =>
    match mode with
    | .name within seen =>
      if within = .double then .error last
      else .ok (out.reverse ++ valueOf set earlier seen)
    | .single | .double | .braced .. | .escaped .double => .error last
    | _ => .ok out.reverse
  | mode, c :: rest =>
    let go (out : List Char) (mode : Mode) := valueFrom set earlier last (place + 1) out mode rest
    match mode with
    | .after =>
      if c = ' ' ∨ c = '\t' then go out .after
      else if c = '#' then .ok out.reverse
      else .error place
    | .escaped within =>
      if c = '\\' ∨ c = '\'' ∨ c = '"' ∨ c = '$' ∨ c = ' ' then go (c :: out) within
      else if c = 'n' then go ('\n' :: out) within
      else .error place
    | .single => if c = '\'' then go out .plain else go (c :: out) .single
    | .name within seen =>
      if Text.isAlphanumeric c then go out (.name within (c :: seen))
      else if c = '\x7b' ∧ seen.isEmpty then go out (.braced within [])
      else
        let out := (valueOf set earlier seen).reverse ++ out
        if c = '$' then go out (.name within []) else go (c :: out) within
    | .braced within seen =>
      if c = '\x7d' then go ((valueOf set earlier seen).reverse ++ out) within
      else go out (.braced within (c :: seen))
    | .double =>
      if c = '$' then go out (.name .double [])
      else if c = '"' then go out .plain
      else if c = '\\' then go out (.escaped .double)
      else go (c :: out) .double
    | .plain =>
      if c = '$' then go out (.name .plain [])
      else if c = '\'' then go out .single
      else if c = '"' then go out .double
      else if c = '\\' then go out (.escaped .plain)
      else if c = ' ' ∨ c = '\t' then go out .after
      else go (c :: out) .plain

/-! ## Lines -/

/-- Reads a name. -/
def name? (cs : List Char) : Option (String × List Char) :=
  match cs with
  | [] => none
  | c :: _ =>
    if c.isAlpha || c == '_' then
      let word := cs.takeWhile fun c => c.isAlphanum || c == '_' || c == '.'
      some (String.ofList word, cs.drop word.length)
    else none

/-- The text after an equals sign, with blanks around the sign. -/
def afterEquals? (cs : List Char) : Option (List Char) :=
  match cs.dropWhile isBlank with
  | '=' :: rest => some (rest.dropWhile isBlank)
  | _ => none

/-- The name that a line sets, and the text of its value. The error is what could not be read. -/
def split (cs : List Char) : Except (List Char) (String × List Char) :=
  match name? cs with
  | none => .error cs
  | some (name, rest) =>
    match afterEquals? rest with
    | some value => .ok (name, value)
    | none =>
      if name = "export" then
        let rest := rest.dropWhile isBlank
        match name? rest with
        | none => .error rest
        | some (name, rest) =>
          match afterEquals? rest with
          | some value => .ok (name, value)
          | none => .error (rest.dropWhile isBlank)
      else .error (rest.dropWhile isBlank)

/-- A text without the blanks at its end. -/
def trimmed (cs : List Char) : List Char := (cs.reverse.dropWhile isBlank).reverse

/-- Reads a line: a variable and its value, or nothing. -/
def line (set earlier : Variables) (text : String) :
    Except LineError (Option (String × String)) :=
  let whole := trimmed text.toList
  let cs := whole.dropWhile isBlank
  if cs.isEmpty ∨ cs.head? = some '#' then .ok none
  else
    match split cs with
    | .error rest => .error ⟨text, byteCount whole - byteCount rest⟩
    | .ok (name, value) =>
      if value.isEmpty ∨ value.head? = some '#' then .ok (some (name, ""))
      else
        match valueFrom set earlier (byteCount value - 1) 0 [] .plain value with
        | .ok out => .ok (some (name, String.ofList out))
        | .error place => .error ⟨String.ofList value, place⟩

/-- The lines of a text, without the characters that end them: a line feed, and a carriage return
before it. -/
def linesOf (text : String) : List String :=
  let parts := splitAll (· == '\n') text.toList
  let ended := parts.dropLast.map fun p => if p.getLast? = some '\r' then p.dropLast else p
  let last := parts.getLast?.getD []
  (if last.isEmpty then ended else ended ++ [last]).map String.ofList

/-- Sets a variable that is not set. -/
def setUnset (set : Variables) (name value : String) : Checked Variables :=
  if (set.lookup name).isSome then .ok set
  else if value.toList.contains '\x00' then .error .unsettableVariable
  else .ok (set ++ [(name, value)])

/-- Lets lines take effect, one after the other. -/
def loadLines (set earlier : Variables) :
    List String → Checked (Variables × Option LineError)
  | [] => .ok (set, none)
  | text :: rest =>
    match line set earlier text with
    | .error e => .ok (set, some e)
    | .ok none => loadLines set earlier rest
    | .ok (some (name, value)) => do
      loadLines (← setUnset set name value) ((name, value) :: earlier) rest

/-- Lets a file take effect: the variables after it, and what ended it early. -/
def load (set : Variables) (text : String) : Checked (Variables × Option LineError) :=
  loadLines set [] (linesOf text)

end FeeMarket.EnvFile
