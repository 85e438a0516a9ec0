import FeeMarket.Url.Authority
import FeeMarket.Url.Path

/-!
# URLs

**URL.** A scheme, an authority, a path, a query and a fragment, each in its written form. Reading
a URL and writing it again normalises it.

**Known schemes.** `http`, `https`, `ws`, `wss`, `ftp` and `file`. Their paths start with a slash
and take a backslash for one; all but `file` have a host, and a port that the scheme implies is
left out.

**Normal form.** Scheme and host are in lower case, dot segments of the path are resolved, and
characters that may not stand as they are become the bytes of their UTF-8 form after percent
signs.
-/

namespace FeeMarket

open Url (Authority UrlError)

/-- A URL in normal form. -/
structure Url where
  scheme : String
  authority : Option Authority
  path : String
  query : Option String
  fragment : Option String
deriving DecidableEq

namespace Url

/-! ## Schemes -/

/-- The port that a known scheme implies; nothing for `file`. -/
def impliedPort? (scheme : String) : Option Nat :=
  if scheme = "http" ∨ scheme = "ws" then some 80
  else if scheme = "https" ∨ scheme = "wss" then some 443
  else if scheme = "ftp" then some 21
  else none

/-- Splits a scheme off. -/
def scheme? (cs : List Char) : Option (String × List Char) :=
  let word := cs.takeWhile fun c => c.isAlphanum || c == '+' || c == '-' || c == '.'
  match word, cs.drop word.length with
  | first :: _, ':' :: rest =>
    if first.isAlpha then some (String.ofList (word.map Char.toLower), rest) else none
  | _, _ => none

/-! ## Reading -/

/-- Splits a path from its query and fragment. -/
def splitTail (cs : List Char) : List Char × Option (List Char) × Option (List Char) :=
  let before := cs.takeWhile (· != '#')
  let fragment :=
    match cs.drop before.length with
    | _ :: rest => some rest
    | [] => none
  let path := before.takeWhile (· != '?')
  let query :=
    match before.drop path.length with
    | _ :: rest => some rest
    | [] => none
  (path, query, fragment)

/-- Reads what follows a known scheme other than `file`. Any count of slashes may stand before the
authority. -/
def readKnown (scheme : String) (cs : List Char) : Except UrlError Url := do
  let (authority, rest) ←
    readAuthority true (impliedPort? scheme) (cs.dropWhile (isSlash true))
  let (path, query, fragment) := splitTail rest
  return ⟨scheme, some authority, rootedPath true path, query.map (encodeAll inKnownQuery),
    fragment.map (encodeAll inFragment)⟩

/-- Splits the text of a host off the path of a file. The letter of a drive is no host. -/
def splitFileHost (path : List Char) : List Char × List Char :=
  match path with
  | a :: b :: rest =>
    if isSlash true a ∧ isSlash true b then
      let host := rest.takeWhile (!isSlash true ·)
      if isDrive host then ([], rest) else (host, rest.drop host.length)
    else ([], path)
  | _ => ([], path)

/-- Reads what follows `file:`. A file of this machine has an empty host. -/
def readFile (cs : List Char) : Except UrlError Url := do
  let (before, query, fragment) := splitTail cs
  let (hostText, rest) := splitFileHost before
  let host ← if hostText.isEmpty then pure "" else readHost hostText
  let (path, hasDrive) := filePath rest
  let host := if hasDrive ∨ host = "localhost" then "" else host
  return ⟨"file", some (.ofHost host), path, query.map (encodeAll inKnownQuery),
    fragment.map (encodeAll inFragment)⟩

/-- Reads what follows a scheme that is not known. Without a slash at its start, the path is a text
that is kept as it is. -/
def readUnknown (scheme : String) (cs : List Char) : Except UrlError Url := do
  let (authority, rest) ←
    match cs with
    | '/' :: '/' :: rest => (readAuthority false none rest).map fun (a, rest) => (some a, rest)
    | _ => pure (none, cs)
  let (before, query, fragment) := splitTail rest
  let rooted := before.head? = some '/' ∨ (authority.isSome ∧ !before.isEmpty)
  let path := if rooted then rootedPath false before else encodeAll "" before
  return ⟨scheme, authority, path, query.map (encodeAll inQuery),
    fragment.map (encodeAll inFragment)⟩

/-- Reads a URL. Control characters and spaces around it, and tabs and line breaks within it, do
not count. -/
def read (text : String) : Except UrlError Url :=
  let isEdge (c : Char) : Bool := c.toNat ≤ 0x20
  let trimmed := ((text.toList.dropWhile isEdge).reverse.dropWhile isEdge).reverse
  let cs := trimmed.filter fun c => c != '\t' && c != '\n' && c != '\r'
  match scheme? cs with
  | none => .error .relative
  | some (scheme, rest) =>
    if scheme = "file" then readFile rest
    else if (impliedPort? scheme).isSome then readKnown scheme rest
    else readUnknown scheme rest

/-- Reads a URL, without a reason if there is none. -/
def read? (text : String) : Option Url := (read text).toOption

/-! ## Writing -/

/-- What stands between scheme and path. Without an authority, a path that starts with two slashes
has a dot segment before it, so that it is not taken for one. -/
def authorityText (u : Url) : String :=
  match u.authority with
  | some authority => "//" ++ authority.write
  | none => if u.path.startsWith "//" then "/." else ""

/-- The path with its query, as a server is asked for it. -/
def target (u : Url) : String :=
  u.path ++ (match u.query with
    | some q => "?" ++ q
    | none => "")

/-- The text of a URL. -/
def write (u : Url) : String :=
  u.scheme ++ ":" ++ u.authorityText ++ u.target ++ (match u.fragment with
    | some f => "#" ++ f
    | none => "")

/-- The port to connect to at an authority of the URL. -/
def effectivePort (u : Url) (a : Authority) : Nat :=
  a.port.getD ((impliedPort? u.scheme).getD 80)

end Url

end FeeMarket
