import FeeMarket.Numeral

/-!
# Percent signs

**Encoding.** Two hexadecimal digits after a percent sign stand for a byte. A character that may
not stand as it is becomes the bytes of its UTF-8 form, each written in this way. Which characters
these are depends on the part of a URL; control characters and all beyond ASCII may stand nowhere.

**Decoding** (`percentDecode`). A percent sign without two digits after it stands for itself.
-/

namespace FeeMarket.Url

/-- The bytes of a text in which percent signs stand for bytes. -/
def percentDecode : List Char → List UInt8
  | [] => []
  | '%' :: a :: b :: rest =>
    match Numeral.digitValue? 16 a, Numeral.digitValue? 16 b with
    | some x, some y => UInt8.ofNat (16 * x + y) :: percentDecode rest
    | _, _ => 0x25 :: percentDecode (a :: b :: rest)
  | c :: rest => (String.singleton c).toUTF8.toList ++ percentDecode rest

private def upperDigit (n : Nat) : Char := (Numeral.digit n).toUpper

/-- The bytes of a character, each after a percent sign. -/
def percentEncode (c : Char) : List Char :=
  (String.singleton c).toUTF8.toList.flatMap fun b =>
    ['%', upperDigit (b.toNat / 16), upperDigit (b.toNat % 16)]

/-- Encodes the characters that may not stand in some part of a URL. -/
def encodeAll (reserved : String) (cs : List Char) : String :=
  String.ofList <| cs.flatMap fun c =>
    if c.toNat < 0x20 ∨ c.toNat > 0x7E ∨ reserved.toList.contains c then percentEncode c else [c]

/-! ## What is reserved -/

def inFragment : String := " \"<>`"

def inQuery : String := " \"#<>"

/-- In the query of a URL with a known scheme. -/
def inKnownQuery : String := " \"#<>'"

def inPath : String := " \"#<>?`\x7b\x7d"

/-- In the name of a user or in a password. -/
def inCredentials : String := " \"#<>?`\x7b\x7d/:;=@[\\]^|"

end FeeMarket.Url
