import FeeMarket.Fault
import FeeMarket.Scalar
import FeeMarket.Settings.Path

/-!
# Trees of settings

**Setting.** Nothing, a scalar, an array or a table. It remembers where it comes from, such as the
file it was written in, unless merging made it.

**Merging.** Tables are merged field by field, and a later value takes the place of an earlier one,
but an empty table never takes the place of anything.

**Path.** The keys of a source are paths. A setting put at a path makes the tables and arrays on its
way, in place of whatever stood there, and fills an array up to its index with nothing.
-/

namespace FeeMarket

/-- What a setting is. -/
inductive Setting where
  | nothing (origin : Option String)
  | scalar (value : Scalar) (origin : Option String)
  | array (items : List Setting) (origin : Option String)
  | table (fields : List (String × Setting)) (origin : Option String)

/-- The fields of a table. -/
abbrev SettingFields := List (String × Setting)

namespace Setting

instance : Inhabited Setting := ⟨.nothing none⟩

/-- Where a setting comes from. -/
def origin? : Setting → Option String
  | .nothing origin => origin
  | .scalar _ origin => origin
  | .array _ origin => origin
  | .table _ origin => origin

/-! ## Merging -/

/-- Replaces a field, or adds it at the end. -/
def setField (name : String) (s : Setting) : SettingFields → SettingFields
  | [] => [(name, s)]
  | (other, kept) :: rest =>
    if name = other then (name, s) :: rest else (other, kept) :: setField name s rest

mutual

/-- What a field becomes when a later source gives it too. -/
def mergeOver (incoming : Setting) (present : Option Setting) : Setting :=
  match incoming with
  | .table fields _ =>
    match present with
    | none => .table (mergeFields fields []) none
    | some (.table under origin) => .table (mergeFields fields under) origin
    | some other => if fields.isEmpty then other else .table (mergeFields fields []) none
  | .nothing origin => .nothing origin
  | .scalar value origin => .scalar value origin
  | .array items origin => .array items origin

/-- Merges the fields of a later source into those of earlier ones. -/
def mergeFields (incoming under : SettingFields) : SettingFields :=
  match incoming with
  | [] => under
  | (name, s) :: rest => mergeFields rest (setField name (s.mergeOver (under.lookup name)) under)

end

/-- How many items an array may be filled up to. -/
def maxItems : Nat := 1 <<< 24

/-- The place of an index in an array of some length; a fault if it is before the start. -/
def position (index : Int) (length : Nat) : Checked Nat :=
  if 0 ≤ index then
    if index.toNat < maxItems then .ok index.toNat else .error .overflow
  else if index.natAbs ≤ length then .ok (length - index.natAbs)
  else .error .overflow

/-- Fills an array up with nothing, so that it has a place. -/
def filled (items : List Setting) (place : Nat) : List Setting :=
  items ++ List.replicate (place + 1 - items.length) (.nothing none)

/-- What stands in the place of a setting once another is put at a path from it. -/
def putAt (s : Setting) : List Settings.Step → Option Setting → Checked Setting
  | [], present => .ok (s.mergeOver present)
  | .name name :: rest, present => do
    let (fields, origin) :=
      match present with
      | some (.table fields origin) => (fields, origin)
      | _ => ([], none)
    let inner ← putAt s rest (fields.lookup name)
    return .table (setField name inner fields) origin
  | .index index :: rest, present => do
    let (items, origin) :=
      match present with
      | some (.array items origin) => (items, origin)
      | _ => ([], none)
    let place ← position index items.length
    let items := filled items place
    let inner ← if rest.isEmpty then pure s else putAt s rest items[place]?
    return .array (items.set place inner) origin

/-- Puts a setting at the path of its key. -/
def put (fields : SettingFields) (key : String) (s : Setting) : Checked SettingFields := do
  match ← putAt s (Settings.path key) (some (.table fields none)) with
  | .table fields _ => return fields
  | _ => return fields

/-- Merges the settings of a source into those of earlier ones. -/
def mergeSource (source fields : SettingFields) : Checked SettingFields :=
  source.foldlM (fun fields (key, s) => put fields key s) fields

end Setting

end FeeMarket
