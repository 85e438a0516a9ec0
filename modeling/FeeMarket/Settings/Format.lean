import FeeMarket.Json.Reader
import FeeMarket.Json5
import FeeMarket.Ron
import FeeMarket.Settings.Document
import FeeMarket.Text.Quoted

/-!
# Formats of settings files

**Format.** The language of a file of settings, which its extension tells: TOML, JSON, YAML, INI, RON
or JSON5.

**Reading** (`Format.read`). The fields of a file, each of which remembers the file. A file holds a
table of settings, and nothing else.
-/

namespace FeeMarket

namespace Setting

/-- What an error calls a setting. -/
def found : Setting → String
  | .nothing _ => "unit value"
  | .scalar (.bool b) _ => "boolean `" ++ Scalar.truthText b ++ "`"
  | .scalar (.integer n) _ => "integer 64 bit `" ++ Scalar.integerText n ++ "`"
  | .scalar (.double f) _ => "floating point `" ++ Decimal.plain f ++ "`"
  | .scalar (.string s) _ => "string " ++ Text.quoted s
  | .array _ _ => "sequence"
  | .table _ _ => "map"

end Setting

/-- A language of settings files. -/
inductive Format where
  | toml
  | json
  | yaml
  | ini
  | ron
  | json5
deriving DecidableEq

namespace Format

/-- The format of the files with an extension. -/
def ofExtension? : String → Option Format
  | "toml" => some .toml
  | "json" => some .json
  | "yaml" => some .yaml
  | "yml" => some .yaml
  | "ini" => some .ini
  | "ron" => some .ron
  | "json5" => some .json5
  | _ => none

/-- The extensions of settings files. -/
def extensions : List String := ["toml", "json", "yaml", "yml", "ini", "ron", "json5"]

/-- The fields of a setting that has to be a table. -/
def root (file : String) : Setting → Except DocumentError SettingFields
  | .table fields _ => .ok fields
  | other =>
    .error (.unreadable ("invalid type: " ++ other.found ++ ", expected a map in " ++ file))

/-- A value that was read, or the problem that prevented it. -/
def readable {α : Type} : Except String α → Except DocumentError α
  | .ok a => .ok a
  | .error problem => .error (.unreadable problem)

/-- Reads the text of a file. -/
def read (f : Format) (file text : String) : Except DocumentError SettingFields := do
  match f with
  | .toml => return Setting.ofTomlFields file (← readable (Toml.read text))
  | .json =>
    let v ← readable ((Json.read text).mapError fun e => e.message text)
    root file (.ofJson file v)
  | .yaml =>
    let nodes ← readable ((Yaml.read text).mapError Yaml.YamlError.message)
    root file (← Setting.ofNodes file nodes)
  | .ini => return Setting.ofSections file (← readable (Ini.read text))
  | .ron => root file (.ofJson file (← readable (Ron.read text)))
  | .json5 => root file (.ofJson file (← readable (Json5.read text)))

end Format

end FeeMarket
