import FeeMarket.Url

/-!
# HTTP messages

**Target.** Where a text is posted to: a host, a port and a path. Only a URL with the scheme `http`
and without credentials gives one.

**Request.** The text with its length, over a connection that is closed after the response.

**Response.** A head, which ends at an empty line, and a body. The body is cut into chunks, each
after a line with its size and the last of size zero, if the head says so; it is as long as the
head says, if it says that; else it is all that comes until the connection is closed.
-/

namespace FeeMarket.Http

/-- Where a text is posted to. -/
structure Target where
  host : String
  port : UInt16
  path : String

/-- The target of a URL. -/
def Target.ofUrl? (u : Url) : Option Target :=
  match u.authority with
  | some a =>
    if u.scheme = "http" ∧ !a.hasCredentials then
      some ⟨a.host, UInt16.ofNat (u.effectivePort a), u.target⟩
    else none
  | none => none

/-- The host as it is looked up, without the brackets of an address of version 6. -/
def Target.address (t : Target) : String :=
  String.ofList (t.host.toList.filter fun c => c != '[' && c != ']')

/-- The message that posts a JSON text. -/
def post (t : Target) (body : String) : String :=
  "\r\n".intercalate
    ["POST " ++ t.path ++ " HTTP/1.1",
      "Host: " ++ t.host ++ ":" ++ Numeral.decimal t.port.toNat,
      "Content-Type: application/json",
      "Content-Length: " ++ Numeral.decimal body.utf8ByteSize,
      "Connection: close", "", body]

/-! ## Heads -/

/-- Drops the carriage return that comes last. The bytes are given last first. -/
def line (reversed : List UInt8) : List UInt8 :=
  match reversed with
  | 0x0D :: rest => rest.reverse
  | _ => reversed.reverse

/-- The lines up to an empty one, and the bytes after it. `seen` holds the bytes of the line so
far, last first. -/
def headFrom (seen : List UInt8) : List UInt8 → Option (List (List UInt8) × List UInt8)
  | [] => none
  | 0x0A :: rest =>
    let text := line seen
    if text.isEmpty then some ([], rest)
    else (headFrom [] rest).map fun (lines, body) => (text :: lines, body)
  | b :: rest => headFrom (b :: seen) rest

/-- The characters of bytes, in lower case. -/
def lowered (bytes : List UInt8) : List Char :=
  bytes.map fun b => (Char.ofNat b.toNat).toLower

/-- The value of a field of a head, in lower case. -/
def field? (name : String) (lines : List (List UInt8)) : Option (List Char) :=
  lines.findSome? fun bytes =>
    let cs := lowered bytes
    let before := cs.takeWhile (· != ':')
    if String.ofList before = name then
      some ((((cs.drop (before.length + 1)).dropWhile isBlank).reverse.dropWhile isBlank).reverse)
    else none

/-! ## Bodies -/

/-- Where the next byte of a body in chunks stands. -/
inductive ChunkPlace where
  /-- In a line with a size; the bytes of the line so far, last first. -/
  | size (seen : List UInt8)
  /-- In a chunk that has this many bytes left. -/
  | data (left : Nat)
  /-- In the line break after a chunk. -/
  | gap

/-- The size that a line says. -/
def chunkSize? (bytes : List UInt8) : Option Nat :=
  Numeral.read? 16 ((lowered bytes).takeWhile fun c => c != ';' && !isBlank c)

/-- Joins chunks. `out` holds the bytes so far, last first. -/
def joinFrom (out : List UInt8) : ChunkPlace → List UInt8 → Option (List UInt8)
  | _, [] => none
  | .size seen, b :: rest =>
    if b = 0x0A then
      match chunkSize? (line seen) with
      | none => none
      | some 0 => some out.reverse
      | some n => joinFrom out (.data n) rest
    else joinFrom out (.size (b :: seen)) rest
  | .data left, b :: rest =>
    joinFrom (b :: out) (if left ≤ 1 then .gap else .data (left - 1)) rest
  | .gap, b :: rest => joinFrom out (if b = 0x0A then .size [] else .gap) rest

/-- The body of a response. -/
def body? (bytes : List UInt8) : Option (List UInt8) := do
  let (lines, rest) ← headFrom [] bytes
  if field? "transfer-encoding" lines = some "chunked".toList then joinFrom [] (.size []) rest
  else
    match field? "content-length" lines with
    | none => return rest
    | some digits =>
      let size ← Numeral.read? 10 digits
      if rest.length < size then none else return rest.take size

/-- The text of the body of a response. -/
def bodyText? (response : ByteArray) : Option String := do
  let bytes ← body? response.toList
  String.fromUTF8? ⟨bytes.toArray⟩

end FeeMarket.Http
