import FeeMarket.Config
import FeeMarket.Duration
import FeeMarket.Settings.Environment
import FeeMarket.Settings.Format
import FeeMarket.Text.Case
import FeeMarket.Url

/-!
# Settings of the program

**Settings.** Whether logs are JSON lines, the parameters of the chain, the limits of queries, and
how to reach a node. All but the URL of the node have defaults.

**Sources.** Files in the order in which they are named, then the environment; a later source
overrides an earlier one, key by key. Keys that are not known do not count.

**Section.** A group of settings, given as a table, or as an array with the settings in the order in
which the group lists them.

**Conversions.** A whole number is also read from a truth value, a double or a text; a truth value
also from a number or one of the words `true`, `on`, `yes`, `false`, `off` and `no`; and a text
also from any single value.

**Loading** (`Settings.load`). Reads the sources and checks the parameters.
-/

namespace FeeMarket

/-- How to reach a node. -/
structure NodeConfig where
  httpUrl : Url
  timeout : Duration
deriving DecidableEq

/-- The settings of the program. -/
structure Settings where
  jsonLogs : Bool
  chain : ChainConfig
  oracle : OracleConfig
  node : NodeConfig
deriving DecidableEq

/-- Why the sources give no settings. -/
inductive SettingsError where
  | fileMissing (name : String)
  | unknownFormat (name : String)
  | unreadable (problem file : String)
  | missing (field : String)
  | tooShort (length : Nat) (expected : String)
  | wrongType (found expected key : String) (origin : Option String)
  | wrongShape (found expected : String)
  | invalidUrl (text : String) (error : Url.UrlError)
  | invalidDuration (text : String)
deriving DecidableEq

namespace SettingsError

def message : SettingsError → String
  | .fileMissing name => "configuration file \"" ++ name ++ "\" not found"
  | .unknownFormat name =>
    "configuration file \"" ++ name ++ "\" is not of a registered file format"
  | .unreadable problem file => problem ++ " in " ++ file
  | .missing field => s!"missing field `{field}`"
  | .tooShort length expected =>
    "invalid length " ++ Numeral.decimal length ++ ", expected " ++ expected
  | .wrongType found expected key origin =>
    let place :=
      match origin with
      | some origin => " in " ++ origin
      | none => ""
    s!"invalid type: {found}, expected {expected} for key `{key}`" ++ place
  | .wrongShape found expected => s!"invalid type: {found}, expected {expected}"
  | .invalidUrl text error => error.message ++ ": " ++ Text.quoted text
  | .invalidDuration text =>
    "invalid value: string " ++ Text.quoted text ++ ", expected a duration"

end SettingsError

/-- Why settings cannot be loaded. -/
inductive LoadError where
  | unreadable (error : SettingsError)
  | refused (error : ConfigError)
  | crashed (fault : Fault)
deriving DecidableEq

/-- A file of settings: its name, and its format and text or why it cannot be had. -/
structure SettingsFile where
  name : String
  content : Except SettingsError (Format × String)

namespace Settings

/-- The time that a call to a node may take, unless it is set. -/
def defaultTimeout : Duration := .ofSeconds 30

def validate (s : Settings) : Except ConfigError Unit := do
  s.chain.validate
  s.oracle.validate

/-! ## Single values -/

/-- The error for a setting that is not of a type. -/
def mistyped {α : Type} (s : Setting) (expected key : String) : Except SettingsError α :=
  .error (.wrongType s.found expected key s.origin?)

/-- A whole number. -/
def word (key : String) (s : Setting) : Except SettingsError UInt64 :=
  match s with
  | .scalar (.integer n) _ =>
    if 0 ≤ n then .ok (UInt64.ofNat n.toNat)
    else mistyped s "an unsigned 64 bit or less integer" key
  | .scalar (.bool b) _ => .ok (if b then 1 else 0)
  | .scalar (.double f) _ => .ok f.round.toUInt64
  | .scalar (.string text) _ =>
    let lower := Text.lower text
    if ["true", "on", "yes"].contains lower then .ok 1
    else if ["false", "off", "no"].contains lower then .ok 0
    else
      match Word.read? 10 text.toList with
      | some w => .ok w
      | none => mistyped s "an integer" key
  | _ => mistyped s "an integer" key

/-- A whole number, or nothing where nothing is given. -/
def optionalWord (key : String) : Setting → Except SettingsError (Option UInt64)
  | .nothing _ => .ok none
  | s => (word key s).map some

/-- A truth value. -/
def truth (key : String) (s : Setting) : Except SettingsError Bool :=
  match s with
  | .scalar (.bool b) _ => .ok b
  | .scalar (.integer n) _ => .ok (n != 0)
  | .scalar (.double f) _ => .ok (f != 0)
  | .scalar (.string text) origin =>
    let lower := Text.lower text
    if ["1", "true", "on", "yes"].contains lower then .ok true
    else if ["0", "false", "off", "no"].contains lower then .ok false
    else mistyped (.scalar (.string lower) origin) "a boolean" key
  | _ => mistyped s "a boolean" key

/-- A text. -/
def text (key : String) : Setting → Except SettingsError String
  | .scalar value _ => .ok value.text
  | s => mistyped s "a string" key

def url (key : String) (s : Setting) : Except SettingsError Url := do
  let text ← text key s
  match Url.read text with
  | .ok u => return u
  | .error e => throw (.invalidUrl text e)

def duration (key : String) (s : Setting) : Except SettingsError Duration := do
  let text ← text key s
  match Duration.read? text with
  | some d => return d
  | none => throw (.invalidDuration text)

/-! ## Sections -/

/-- What an error calls a value where a section should be. Doubles always have a point there. -/
def misplaced : Setting → String
  | .scalar (.integer n) _ => "integer `" ++ Scalar.integerText n ++ "`"
  | .scalar (.double f) _ =>
    let digits := Decimal.plain f
    let pointed := if f.isFinite ∧ !digits.toList.contains '.' then digits ++ ".0" else digits
    "floating point `" ++ pointed ++ "`"
  | s => s.found

/-- A setting of a section: its name, the path that errors call it by, and the setting. -/
structure Part where
  name : String
  path : String
  setting : Setting

/-- A group of settings. Only in a table do the settings have names. -/
structure Section where
  expected : String
  names : List String
  named : Bool
  parts : List Part

namespace Section

/-- The section with the given names that a setting is; it has no part if it is absent. -/
def ofSetting (path expected : String) (names : List String) :
    Option Setting → Except SettingsError Section
  | none => .ok ⟨expected, names, true, []⟩
  | some (.table fields _) =>
    .ok ⟨expected, names, true, fields.map fun (name, s) => ⟨name, path ++ "." ++ name, s⟩⟩
  | some (.array items _) =>
    .ok ⟨expected, names, false, (names.zip items).zipIdx.map fun ((name, s), i) =>
      ⟨name, path ++ "[" ++ Numeral.decimal i ++ "]", s⟩⟩
  | some s => .error (.wrongShape (misplaced s) ("struct " ++ expected))

/-- A setting that is read if it is there. -/
def visit {α : Type} (s : Section) (name : String)
    (read : String → Setting → Except SettingsError α) : Except SettingsError (Option α) :=
  match s.parts.find? fun p => p.name == name with
  | some p => (read p.path p.setting).map some
  | none => .ok none

/-- A setting that has to be there. -/
def need {α : Type} (s : Section) (name : String) : Option α → Except SettingsError α
  | some a => .ok a
  | none =>
    if s.named then .error (.missing name)
    else
      .error (.tooShort (s.names.idxOf name)
        ("struct " ++ s.expected ++ " with " ++ Numeral.decimal s.names.length ++ " elements"))

end Section

def jsonLogsOf (section? : Option Setting) : Except SettingsError Bool := do
  let s ← Section.ofSetting "service" "ServiceConfig" ["json_logs"] section?
  return (← s.visit "json_logs" truth).getD false

def chainOf (section? : Option Setting) : Except SettingsError ChainConfig := do
  let s ← Section.ofSetting "chain" "ChainConfig"
    ["eip1559_block", "elasticity_multiplier", "base_fee_change_denominator"] section?
  let unset : ChainConfig := {}
  let fork ← s.visit "eip1559_block" optionalWord
  let elasticity ← s.visit "elasticity_multiplier" word
  let denominator ← s.visit "base_fee_change_denominator" word
  return ⟨fork.getD unset.forkBlock, elasticity.getD unset.elasticity,
    denominator.getD unset.denominator⟩

def oracleOf (section? : Option Setting) : Except SettingsError OracleConfig := do
  let s ← Section.ofSetting "oracle" "OracleConfig"
    ["max_percentiles", "max_header_history", "max_block_history", "max_block_fetchers"] section?
  let unset : OracleConfig := {}
  let percentiles ← s.visit "max_percentiles" word
  let headerHistory ← s.visit "max_header_history" word
  let blockHistory ← s.visit "max_block_history" word
  let fetchers ← s.visit "max_block_fetchers" word
  return ⟨percentiles.getD unset.maxPercentiles, headerHistory.getD unset.maxHeaderHistory,
    blockHistory.getD unset.maxBlockHistory, fetchers.getD unset.maxBlockFetchers⟩

def nodeOf (given : Setting) : Except SettingsError NodeConfig := do
  let s ← Section.ofSetting "rpc" "RpcConfig" ["http_url", "timeout"] (some given)
  let httpUrl ← s.visit "http_url" url
  let timeout ← s.visit "timeout" duration
  return ⟨← s.need "http_url" httpUrl, timeout.getD defaultTimeout⟩

/-- The settings that a tree gives. -/
def ofFields (fields : SettingFields) : Except SettingsError Settings := do
  let jsonLogs ← jsonLogsOf (fields.lookup "service")
  let chain ← chainOf (fields.lookup "chain")
  let oracle ← oracleOf (fields.lookup "oracle")
  match fields.lookup "rpc" with
  | some given => return ⟨jsonLogs, chain, oracle, ← nodeOf given⟩
  | none => throw (.missing "rpc")

/-! ## Loading -/

/-- The settings of a source, over those of earlier ones. -/
def mergeSource (source fields : SettingFields) : Except LoadError SettingFields :=
  match Setting.mergeSource source fields with
  | .ok fields => .ok fields
  | .error fault => .error (.crashed fault)

/-- Puts a file over the settings of earlier ones. -/
def withFile (fields : SettingFields) (file : SettingsFile) : Except LoadError SettingFields :=
  match file.content with
  | .error e => .error (.unreadable e)
  | .ok (format, text) =>
    match format.read file.name text with
    | .ok source => mergeSource source fields
    | .error (.unreadable problem) => .error (.unreadable (.unreadable problem file.name))
    | .error (.broken fault) => .error (.crashed fault)

/-- The settings of files and of the environment, once they are checked. -/
def load (files : List SettingsFile) (environment : List (String × String)) :
    Except LoadError Settings := do
  let fields ← files.foldlM withFile []
  let fields ← mergeSource (ofEnvironment environment) fields
  match ofFields fields with
  | .error e => throw (.unreadable e)
  | .ok s =>
    match s.validate with
    | .error e => throw (.refused e)
    | .ok () => return s

/-! ## JSON -/

def encode (s : Settings) : Json :=
  .object [("service", .object [("json_logs", .bool s.jsonLogs)]), ("chain", s.chain.encode),
    ("oracle", s.oracle.encode),
    ("rpc", .object [("http_url", .string s.node.httpUrl.write),
      ("timeout", .string s.node.timeout.write)])]

private def decodeService : Json → Decoded Bool :=
  Decode.record ["json_logs"] fun r => do
    return (← r.visit "json_logs" Decode.bool).getD false

private def decodeNode : Json → Decoded NodeConfig :=
  Decode.record ["http_url", "timeout"] fun r => do
    let httpUrl ← r.visit "http_url" (Decode.text Url.read?)
    let timeout ← r.visit "timeout" (Decode.text Duration.read?)
    return ⟨← r.require "http_url" httpUrl, timeout.getD defaultTimeout⟩

/-- Missing sections have their defaults, all but that of the node. In an array the section of the
service comes first, and is the first to be wrong. -/
def decode : Json → Decoded Settings :=
  Decode.record ["service", "chain", "oracle", "rpc"] fun r => do
    if !r.named then discard (r.visit "service" decodeService)
    let chain ← r.visit "chain" ChainConfig.decode
    let oracle ← r.visit "oracle" OracleConfig.decode
    let node ← r.visit "rpc" decodeNode
    let jsonLogs ← r.visit "service" decodeService
    return ⟨jsonLogs.getD false, chain.getD {}, oracle.getD {}, ← r.require "rpc" node⟩

end Settings

end FeeMarket
