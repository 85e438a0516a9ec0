import FeeMarket.Url.Host

/-!
# Authorities

**Authority.** The host of a URL, with the credentials of a user before it and a port after it. It
ends at the first slash, question mark or number sign, and in a URL with a known scheme at the
first backslash too.

**Credentials** (`readCredentials`). They reach to the last `@` of the authority.

**Port** (`readPort`). It is left out where it is empty or the one that the scheme implies.
-/

namespace FeeMarket.Url

/-- A host, who asks for what it has, and the port to reach it. -/
structure Authority where
  user : String
  password : String
  host : String
  port : Option Nat
deriving DecidableEq

namespace Authority

/-- The authority of a host alone. -/
def ofHost (host : String) : Authority := ⟨"", "", host, none⟩

/-- Whether a user or a password is given. -/
def hasCredentials (a : Authority) : Bool := !a.user.isEmpty || !a.password.isEmpty

end Authority

/-! ## Reading -/

/-- Whether a character ends an authority. -/
def endsAuthority (known : Bool) (c : Char) : Bool :=
  c == '/' || c == '?' || c == '#' || (known && c == '\\')

/-- Reads a user and a password. -/
def readCredentials (known : Bool) (cs : List Char) :
    Except UrlError (String × String × List Char) :=
  match splitLast '@' (cs.takeWhile (!endsAuthority known ·)) with
  | none => .ok ("", "", cs)
  | some (before, _) =>
    let rest := cs.drop (before.length + 1)
    if before.isEmpty && rest.head?.any (endsAuthority known) then .error .emptyHost
    else
      let user := before.takeWhile (· != ':')
      .ok (encodeAll inCredentials user, encodeAll inCredentials (before.drop (user.length + 1)),
        rest)

/-- Splits the text of a host off. Colons between brackets belong to it. -/
def splitHost (known bracketed : Bool) : List Char → List Char × List Char
  | [] => ([], [])
  | c :: rest =>
    if endsAuthority known c || (c == ':' && !bracketed) then ([], c :: rest)
    else
      let (host, after) := splitHost known (c == '[' || (bracketed && c != ']')) rest
      (c :: host, after)

/-- Reads a port, if there is one. -/
def readPort (implied : Option Nat) : List Char → Except UrlError (Option Nat × List Char)
  | ':' :: cs =>
    let digits := cs.takeWhile Char.isDigit
    let rest := cs.drop digits.length
    let port := Numeral.read? 10 digits
    if port.any (· > 65535) || !rest.head?.all (endsAuthority true) then .error .invalidPort
    else .ok (if port = implied then none else port, rest)
  | cs => .ok (none, cs)

/-- Reads an authority. A host may only be empty in a URL with an unknown scheme, and only where
nothing else of the authority is given. -/
def readAuthority (known : Bool) (implied : Option Nat) (cs : List Char) :
    Except UrlError (Authority × List Char) := do
  let (user, password, rest) ← readCredentials known cs
  let (hostText, rest) := splitHost known false rest
  if hostText.isEmpty ∧ (known ∨ rest.head? = some ':') then throw .emptyHost
  let host ← if known then readHost hostText else readOpaqueHost hostText
  let (port, rest) ← readPort implied rest
  let authority : Authority := ⟨user, password, host, port⟩
  if host.isEmpty ∧ authority.hasCredentials then throw .emptyHost
  return (authority, rest)

/-! ## Writing -/

/-- The text of an authority. -/
def Authority.write (a : Authority) : String :=
  let password := if a.password.isEmpty then "" else ":" ++ a.password
  let credentials := if a.hasCredentials then a.user ++ password ++ "@" else ""
  credentials ++ a.host ++ (match a.port with
    | some n => ":" ++ Numeral.decimal n
    | none => "")

end FeeMarket.Url
