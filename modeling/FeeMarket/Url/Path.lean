import FeeMarket.Text
import FeeMarket.Url.Percent

/-!
# Paths

**Rooted path.** Segments, each after a slash. In a URL with a known scheme a backslash is taken for
a slash.

**Dot segments** (`resolveSegments`). A segment `.` is left out, and `..` takes the segment before
it along, but never the letter of a drive. The path goes on to end with a slash if one of them
stands last.

**Drives** (`filePath`). In the path of a file, a segment of a letter and a colon or a bar is the
letter of a drive. It is written with a colon, and the path is that of a file on this machine.
-/

namespace FeeMarket.Url

/-! ## Segments -/

private def isDot (s : String) : Bool := s == "." || s.toLower == "%2e"

private def isDoubleDot (s : String) : Bool :=
  ["..", ".%2e", "%2e.", "%2e%2e"].contains s.toLower

/-- Whether a text is the letter of a drive or goes on with a mark that ends one. -/
def startsWithDrive : List Char → Bool
  | letter :: mark :: rest =>
    letter.isAlpha && (mark == ':' || mark == '|') && rest.head?.all "/\\?#".toList.contains
  | _ => false

/-- Whether a text is the letter of a drive. -/
def isDrive (cs : List Char) : Bool := cs.length == 2 && startsWithDrive cs

/-- Resolves dot segments. `kept` holds the segments so far, last first. -/
def resolveSegments (kept : List String) : List String → List String
  | [] => kept.reverse
  | s :: rest =>
    if isDoubleDot s then
      let isKept (last : String) : Bool := startsWithDrive last.toList
      let kept := if kept.head?.any isKept then kept else kept.drop 1
      resolveSegments (if rest.isEmpty then "" :: kept else kept) rest
    else if isDot s then resolveSegments (if rest.isEmpty then "" :: kept else kept) rest
    else resolveSegments (s :: kept) rest

/-- Whether a character separates segments. -/
def isSlash (known : Bool) (c : Char) : Bool := c == '/' || (known && c == '\\')

/-- The segments of a path in written form, dots and all. -/
def segments (known : Bool) (cs : List Char) : List String :=
  let relative :=
    match cs with
    | c :: rest => if isSlash known c then rest else cs
    | [] => []
  (splitAll (isSlash known) relative).map (encodeAll inPath)

/-- The text of segments. -/
def joinSegments (segments : List String) : String := "/" ++ "/".intercalate segments

/-! ## Written forms -/

/-- The written form of a path that starts at the root. -/
def rootedPath (known : Bool) (cs : List Char) : String :=
  joinSegments (resolveSegments [] (segments known cs))

/-- A segment, with a colon after the letter of a drive. -/
def withColon (s : String) : String :=
  if isDrive s.toList then String.ofList (s.toList.take 1 ++ [':']) else s

/-- The written form of the path of a file, and whether it has a drive. Empty segments at its start
are left out. -/
def filePath (cs : List Char) : String × Bool :=
  let given := segments true cs
  let resolved := resolveSegments [] (given.map withColon)
  (joinSegments (resolved.dropWhile String.isEmpty), given.any fun s => isDrive s.toList)

end FeeMarket.Url
