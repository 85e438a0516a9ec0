import FeeMarket.Json
import FeeMarket.Quantity

/-!
# Decoding JSON values

**Decoder.** A function from JSON values that gives a value or the reason it does not.

**Leaves.** A word is a whole number below `2 ^ 64`; amounts and hashes are hexadecimal texts; a
double is any number.

**Records.** The fields of a record are visited in the order of their names, and the first wrong
value is the error. Only when no value is wrong is a missing field reported, the first one in
the order in which the record lists its fields. Unknown fields are passed over. An array stands
for the record with those field values in the order of its list; then a missing field has no
name.
-/

namespace FeeMarket

/-- Why a JSON value does not decode. -/
inductive DecodeError where
  | missing (field : String)
  | selector (text : String)
  | malformed
deriving DecidableEq

/-- A decoded value, or why there is none. -/
abbrev Decoded := Except DecodeError

/-- The text that goes with an error, if it has one. -/
def DecodeError.message? : DecodeError → Option String
  | .missing field => some s!"missing field `{field}`"
  | .selector text => some s!"Invalid block selector: {text}"
  | .malformed => none

namespace Decode

/-! ## Leaves -/

/-- A decoder of strings that reads their text. -/
def text {α : Type} (read? : String → Option α) : Json → Decoded α
  | .string s =>
    match read? s with
    | some a => .ok a
    | none => .error .malformed
  | _ => .error .malformed

/-- Decodes a string. -/
def string : Json → Decoded String := text some

/-- Decodes a word. -/
def word : Json → Decoded UInt64
  | .number (.whole (.ofNat n)) =>
    match Word.ofNat? n with
    | some w => .ok w
    | none => .error .malformed
  | _ => .error .malformed

/-- Decodes an amount of wei. -/
def wei : Json → Decoded Wei := text Wei.ofHex?

/-- Decodes a hash. -/
def hash : Json → Decoded Hash := text Hash.ofHex?

/-- Decodes a word written as a hexadecimal quantity. -/
def quantity : Json → Decoded UInt64 := text Word.ofHex?

/-- Decodes a truth value. -/
def bool : Json → Decoded Bool
  | .bool b => .ok b
  | _ => .error .malformed

/-- Decodes any number to a double. -/
def double : Json → Decoded Float
  | .number (.whole n) => .ok (Float.ofInt n)
  | .number (.double f) => .ok f
  | _ => .error .malformed

/-- Decodes null to nothing. -/
def nullable {α : Type} (decode : Json → Decoded α) : Json → Decoded (Option α)
  | .null => .ok none
  | v => (decode v).map some

/-- Decodes the items of an array, and stops at the first wrong one. -/
def list {α : Type} (decode : Json → Decoded α) : Json → Decoded (List α)
  | .array items => items.mapM decode
  | _ => .error .malformed

/-! ## Records -/

/-- What a value offers for the fields of a record. -/
structure Record where
  fields : List (String × Json)
  named : Bool

/-- Decodes a record from its fields. An array with more items than the record has fields is an
error, once the fields are right. -/
def record {α : Type} (names : List String) (decode : Record → Decoded α) : Json → Decoded α
  | .object fields => decode ⟨fields, true⟩
  | .array items => do
    let a ← decode ⟨names.zip items, false⟩
    if items.length ≤ names.length then .ok a else .error .malformed
  | _ => .error .malformed

namespace Record

/-- Visits a field: a wrong value is an error, an absent one is not. -/
def visit {α : Type} (r : Record) (name : String) (decode : Json → Decoded α) :
    Decoded (Option α) :=
  match r.fields.lookup name with
  | some v => (decode v).map some
  | none => .ok none

/-- The value of a visited field that may not be absent. -/
def require {α : Type} (r : Record) (name : String) : Option α → Decoded α
  | some a => .ok a
  | none => .error (if r.named then .missing name else .malformed)

end Record

end Decode

end FeeMarket
