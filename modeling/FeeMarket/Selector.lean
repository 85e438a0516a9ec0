import FeeMarket.Json.Decode

/-!
# Block selectors

**Selector.** Names the block that a query ends at: a number, or one of the words `latest`,
`pending` and `finalized`.

**Text.** A number is read from decimal digits, or from hexadecimal digits after `0x`; one plus
sign may stand before the digits. It is written in decimal where a reader sees it and as a
hexadecimal quantity in JSON.
-/

namespace FeeMarket

/-- Identifies a block. -/
inductive Selector where
  | number (n : UInt64)
  | latest
  | pending
  | finalized
deriving DecidableEq

/-- A text that is no selector. -/
structure InvalidSelector where
  text : String
deriving DecidableEq

def InvalidSelector.message (e : InvalidSelector) : String := "Invalid block selector: " ++ e.text

namespace Selector

instance : Inhabited Selector := ⟨.latest⟩

/-- The selected number, if the selector is one. -/
def asNumber? : Selector → Option UInt64
  | .number n => some n
  | _ => none

/-- Reads a number in either base. -/
def readNumber? : List Char → Option UInt64
  | '0' :: 'x' :: digits => Word.read? 16 digits
  | digits => Word.read? 10 digits

/-- Reads a selector. -/
def read? (text : String) : Option Selector :=
  if text = "latest" then some .latest
  else if text = "pending" then some .pending
  else if text = "finalized" then some .finalized
  else (readNumber? text.toList).map .number

/-- Reads a selector; a text that is none is the error. -/
def parse (text : String) : Except InvalidSelector Selector :=
  match read? text with
  | some s => .ok s
  | none => .error ⟨text⟩

/-- The text of a selector for a reader, its number in decimal. -/
def display : Selector → String
  | .number n => Word.toDecimal n
  | .latest => "latest"
  | .pending => "pending"
  | .finalized => "finalized"

/-- The text of a selector in JSON, its number as a quantity. -/
def jsonText : Selector → String
  | .number n => Word.toHex n
  | s => s.display

def encode (s : Selector) : Json := .string s.jsonText

/-- A string that is no selector is an error of its own. -/
def decode : Json → Decoded Selector
  | .string text => (parse text).mapError fun e => .selector e.text
  | _ => .error .malformed

end Selector

end FeeMarket
