import FeeMarket.Ini
import FeeMarket.Json
import FeeMarket.Settings.Tree
import FeeMarket.Toml
import FeeMarket.Yaml

/-!
# Settings of documents

The values of TOML, JSON, YAML and INI documents are settings, with the file as their origin.

**YAML.** A mapping is a table if its keys are strings or integers. With any other key reading
breaks down. A real has to be written without the point before `inf` and `nan`.

**INI.** All values are strings. The entries of the section without a name are settings of the
file, and every other section is a table; of sections with one name the last one counts.
-/

namespace FeeMarket

/-- Why a document gives no settings. -/
inductive DocumentError where
  | unreadable (problem : String)
  | broken (fault : Fault)
deriving DecidableEq

namespace Setting

/-! ## TOML -/

mutual

/-- The setting that a value of a TOML document is. -/
def ofToml (origin : String) : Toml → Setting
  | .scalar value => .scalar value origin
  | .array items => .array (ofTomlItems origin items) origin
  | .table fields => .table (ofTomlFields origin fields) origin

/-- The settings that the items of an array are. -/
def ofTomlItems (origin : String) : List Toml → List Setting
  | [] => []
  | item :: rest => ofToml origin item :: ofTomlItems origin rest

/-- The settings that the fields of a table are. -/
def ofTomlFields (origin : String) : List (String × Toml) → SettingFields
  | [] => []
  | (name, value) :: rest => (name, ofToml origin value) :: ofTomlFields origin rest

end

/-! ## JSON -/

/-- The scalar that a number is; a whole number of more than 64 bits is a double. -/
def ofNumber : Number → Scalar
  | .whole n => if Scalar.fits n then .integer n else .double (Float.ofInt n)
  | .double f => .double f

mutual

/-- The setting that a JSON value is. -/
def ofJson (origin : String) : Json → Setting
  | .null => .nothing origin
  | .bool b => .scalar (.bool b) origin
  | .number n => .scalar (ofNumber n) origin
  | .string s => .scalar (.string s) origin
  | .array items => .array (ofJsonItems origin items) origin
  | .object fields => .table (ofJsonFields origin fields) origin

/-- The settings that the items of an array are. -/
def ofJsonItems (origin : String) : List Json → List Setting
  | [] => []
  | item :: rest => ofJson origin item :: ofJsonItems origin rest

/-- The settings that the fields of an object are. -/
def ofJsonFields (origin : String) : List (String × Json) → SettingFields
  | [] => []
  | (name, value) :: rest => (name, ofJson origin value) :: ofJsonFields origin rest

end

/-! ## YAML -/

open Yaml in
/-- The setting that a leaf is. -/
def ofLeaf (origin : String) : Leaf → Except DocumentError Setting
  | .unfit => .ok (.nothing origin)
  | .null => .ok (.nothing origin)
  | .bool b => .ok (.scalar (.bool b) origin)
  | .integer n => .ok (.scalar (.integer n) origin)
  | .string s => .ok (.scalar (.string s) origin)
  | .real text =>
    match Decimal.read? text with
    | some f => .ok (.scalar (.double f) origin)
    | none => .error (.unreadable ("Parsing " ++ text ++ " as floating point number failed"))

/-- The name that a key is. -/
def nameOfKey : Yaml.Node → Except DocumentError String
  | .leaf (.string s) => .ok s
  | .leaf (.integer n) => .ok (Scalar.integerText n)
  | _ => .error (.broken .unnamedSetting)

mutual

/-- The setting that a node is. -/
def ofNode (origin : String) : Yaml.Node → Except DocumentError Setting
  | .leaf value => ofLeaf origin value
  | .sequence items => do return .array (← ofNodeItems origin items) origin
  | .mapping entries => do return .table (← ofNodeEntries origin [] entries) origin

/-- The settings that the items of a sequence are. -/
def ofNodeItems (origin : String) : List Yaml.Node → Except DocumentError (List Setting)
  | [] => .ok []
  | item :: rest => do return (← ofNode origin item) :: (← ofNodeItems origin rest)

/-- The settings that the entries of a mapping are, after those that are there. -/
def ofNodeEntries (origin : String) (there : SettingFields) :
    List (Yaml.Node × Yaml.Node) → Except DocumentError SettingFields
  | [] => .ok there
  | (key, value) :: rest => do
    let name ← nameOfKey key
    let s ← ofNode origin value
    ofNodeEntries origin (setField name s there) rest

end

/-- The setting that the documents of a text are: there may be one at most. -/
def ofNodes (origin : String) : List Yaml.Node → Except DocumentError Setting
  | [] => .ok (.table [] origin)
  | [n] => ofNode origin n
  | nodes =>
    .error (.unreadable ("Got " ++ Numeral.decimal nodes.length ++ " YAML documents, expected 1"))

/-! ## INI -/

/-- Puts the entries of a section over those that are there. -/
def withEntries (origin : String) (there : SettingFields) (entries : List (String × String)) :
    SettingFields :=
  entries.foldl (fun fields (key, text) =>
    setField key (.scalar (.string text) origin) fields) there

/-- The settings that the sections of a file are. -/
def ofSections (origin : String) (sections : List IniSection) : SettingFields :=
  sections.foldl (fun fields s =>
    match s.name with
    | none => withEntries origin fields s.entries
    | some name => setField name (.table (withEntries origin [] s.entries) origin) fields) []

end Setting

end FeeMarket
