import FeeMarket.Decimal

/-!
# JSON values

**Number.** A literal without point and exponent is a whole number as long as it fits a signed
or unsigned 64-bit word; every other literal, and the literal `-0`, is a double.

**Object.** Fields with distinct names, kept in the order of their names. A name that occurs
twice has its last value.
-/

namespace FeeMarket

/-- A number of a JSON text. -/
inductive Number where
  | whole (value : Int)
  | double (value : Float)
deriving DecidableEq

/-- A JSON value. -/
inductive Json where
  | null
  | bool (value : Bool)
  | number (value : Number)
  | string (value : String)
  | array (items : List Json)
  | object (fields : List (String × Json))

namespace Json

instance : Inhabited Json := ⟨.null⟩

/-- The number of a word. -/
def word (w : UInt64) : Json := .number (.whole w.toNat)

/-- The number of a count. -/
def count (n : Nat) : Json := .number (.whole n)

/-- A value, or null in its absence. -/
def nullable {α : Type} (encode : α → Json) : Option α → Json
  | some a => encode a
  | none => .null

/-- The values of a list, in order. -/
def list {α : Type} (encode : α → Json) (items : List α) : Json := .array (items.map encode)

/-- The value of a field; absent also where the value is no object. -/
def field? (name : String) : Json → Option Json
  | .object fields => fields.lookup name
  | _ => none

/-- The value of a field, null where it is absent. -/
def field (name : String) (v : Json) : Json := (v.field? name).getD .null

/-- Adds a field in the place of its name; a field of that name is replaced. -/
def insertField (name : String) (value : Json) : List (String × Json) → List (String × Json)
  | [] => [(name, value)]
  | (other, kept) :: rest =>
    if name < other then (name, value) :: (other, kept) :: rest
    else if name = other then (name, value) :: rest
    else (other, kept) :: insertField name value rest

/-- Puts fields into the order of their names. -/
def sortFields (fields : List (String × Json)) : List (String × Json) :=
  fields.foldl (fun sorted field => insertField field.1 field.2 sorted) []

/-- The object with the given fields. -/
def ofFields (fields : List (String × Json)) : Json := .object (sortFields fields)

end Json

end FeeMarket
