import FeeMarket.Text
import FeeMarket.Url.Name
import FeeMarket.Url.Percent

/-!
# Hosts

**Host.** A domain name, an IPv4 address or an IPv6 address, each with one written form. A name
whose last label is a number has to be an IPv4 address, of up to four parts in decimal, octal or
hexadecimal. An IPv6 address stands between brackets; its first longest run of zero pieces is left
out.

**Opaque host.** The host of a URL with an unknown scheme is an IPv6 address or a text that is
kept as it is.
-/

namespace FeeMarket.Url

/-- Why a text is no URL. -/
inductive UrlError where
  | relative
  | emptyHost
  | invalidPort
  | invalidIpv4
  | invalidIpv6
  | invalidDomain
  | international
deriving DecidableEq

def UrlError.message : UrlError → String
  | .relative => "relative URL without a base"
  | .emptyHost => "empty host"
  | .invalidPort => "invalid port number"
  | .invalidIpv4 => "invalid IPv4 address"
  | .invalidIpv6 => "invalid IPv6 address"
  | .invalidDomain => "invalid domain character"
  | .international => "invalid international domain name"

/-! ## IPv4 -/

/-- Reads a part of an IPv4 address: hexadecimal after `0x`, octal after `0`. -/
def ipv4Part? : List Char → Option Nat
  | '0' :: 'x' :: rest => if rest.isEmpty then some 0 else Numeral.read? 16 rest
  | '0' :: 'X' :: rest => if rest.isEmpty then some 0 else Numeral.read? 16 rest
  | '0' :: d :: rest => Numeral.read? 8 (d :: rest)
  | digits => Numeral.read? 10 digits

/-- The labels of a name, without an empty one at its end. -/
def labels (name : List Char) : List (List Char) :=
  let parts := splitAll (· == '.') name
  if parts.length > 1 ∧ parts.getLast? = some [] then parts.dropLast else parts

/-- Whether the last label is a number. -/
def endsInNumber (name : List Char) : Bool :=
  match (labels name).getLast? with
  | some last =>
    (!last.isEmpty && last.all Char.isDigit)
      || (match last with
        | '0' :: 'x' :: _ => (ipv4Part? last).isSome
        | '0' :: 'X' :: _ => (ipv4Part? last).isSome
        | _ => false)
  | none => false

/-- The number of an IPv4 address. All parts but the last are bytes; the last one fills the rest
of the address. -/
def ipv4? (name : List Char) : Option Nat := do
  let parts := labels name
  if parts.length > 4 then none
  let numbers ← parts.mapM ipv4Part?
  let last ← numbers.getLast?
  let front := numbers.dropLast
  if front.any fun n => n > 255 then none
  if last ≥ 1 <<< (8 * (5 - numbers.length)) then none
  let (value, _) := front.foldl
    (fun (value, weight) n => (value + n <<< (8 * weight), weight - 1)) (last, 3)
  return value

/-- The written form of an IPv4 address. -/
def writeIpv4 (n : Nat) : String :=
  ".".intercalate ([n >>> 24, (n >>> 16) % 256, (n >>> 8) % 256, n % 256].map Numeral.decimal)

/-! ## IPv6 -/

/-- Reads pieces between colons; the last piece may be a dotted IPv4 address. -/
def ipv6Pieces? : List (List Char) → Option (List Nat)
  | [] => some []
  | [last] =>
    if last.contains '.' then
      let parts := splitAll (· == '.') last
      let plain (p : List Char) : Bool :=
        p.all Char.isDigit && (p.length = 1 || (p.length ≤ 3 && p.head? != some '0'))
      if parts.length = 4 ∧ parts.all plain then do
        let numbers ← parts.mapM (Numeral.read? 10)
        match numbers with
        | [a, b, c, d] =>
          if numbers.all (· ≤ 255) then some [256 * a + b, 256 * c + d] else none
        | _ => none
      else none
    else if last.length ≤ 4 then (Numeral.read? 16 last).map ([·])
    else none
  | piece :: rest =>
    if piece.length ≤ 4 then do
      let n ← Numeral.read? 16 piece
      let later ← ipv6Pieces? rest
      return n :: later
    else none

/-- Splits at the first double colon. -/
def atDoubleColon? : List Char → Option (List Char × List Char)
  | ':' :: ':' :: rest => some ([], rest)
  | c :: rest => (atDoubleColon? rest).map fun (before, after) => (c :: before, after)
  | [] => none

/-- Reads a list of pieces, which may be empty. -/
def ipv6Side? (side : List Char) : Option (List Nat) :=
  if side.isEmpty then some [] else ipv6Pieces? (splitAll (· == ':') side)

/-- The eight pieces of an IPv6 address. -/
def ipv6? (text : List Char) : Option (List Nat) :=
  match atDoubleColon? text with
  | none => do
    let pieces ← ipv6Side? text
    if pieces.length = 8 then some pieces else none
  | some (before, after) => do
    if before.contains '.' then none
    let front ← ipv6Side? before
    let back ← ipv6Side? after
    if front.length + back.length ≤ 7 then
      some (front ++ List.replicate (8 - front.length - back.length) 0 ++ back)
    else none

/-- The length of the run of zeros at the start. -/
def zeroRun (pieces : List Nat) : Nat := (pieces.takeWhile (· == 0)).length

/-- Where the first longest run of zeros starts, and its length. -/
def longestZeroRun (pieces : List Nat) : Nat × Nat :=
  (List.range pieces.length).foldl (fun best i =>
    let run := zeroRun (pieces.drop i)
    if run > best.2 then (i, run) else best) (0, 0)

/-- The written form of an IPv6 address. -/
def writeIpv6 (pieces : List Nat) : String :=
  let joined (ps : List Nat) : String :=
    ":".intercalate (ps.map fun p => String.ofList (Numeral.write 16 p))
  let (start, run) := longestZeroRun pieces
  if run < 2 then "[" ++ joined pieces ++ "]"
  else "[" ++ joined (pieces.take start) ++ "::" ++ joined (pieces.drop (start + run)) ++ "]"

/-! ## Hosts -/

/-- Reads an address whose opening bracket is read. -/
def readIpv6 (text : List Char) : Except UrlError String :=
  if text.getLast? = some ']' then
    match ipv6? text.dropLast with
    | some pieces => .ok (writeIpv6 pieces)
    | none => .error .invalidIpv6
  else .error .invalidIpv6

/-- Reads a domain name or an IPv4 address. -/
def readName (text : List Char) : Except UrlError String := do
  let some decoded := String.fromUTF8? ⟨(percentDecode text).toArray⟩ | throw .international
  let some name := Name.toAscii? decoded.toList | throw .international
  if name.isEmpty then throw .emptyHost
  if endsInNumber name then
    match ipv4? name with
    | some n => return writeIpv4 n
    | none => throw .invalidIpv4
  return String.ofList name

/-- The written form of the host of a URL with a known scheme. -/
def readHost : List Char → Except UrlError String
  | '[' :: rest => readIpv6 rest
  | text => readName text

/-- The characters that an opaque host may not have. -/
def forbiddenInOpaque : String := "\x00\t\n\r #/:<>?@[\\]^|"

/-- The written form of the host of a URL with an unknown scheme. It may be empty. -/
def readOpaqueHost : List Char → Except UrlError String
  | '[' :: rest => readIpv6 rest
  | text =>
    if text.any forbiddenInOpaque.toList.contains then .error .invalidDomain
    else .ok (encodeAll "" text)

end FeeMarket.Url
