import FeeMarket.Decimal
import FeeMarket.Selector
import FeeMarket.Text

/-!
# The command line

**Options.** Files of settings and of variables, how many blocks a query covers, the block it ends
at, and its percentiles, each with a value; and whether an estimate is asked for. The files
and the percentiles may be given more than once. Nothing else is taken.

**Value.** It follows the option as an argument of its own, which does not start with a hyphen, or
after an equals sign, or right after a short option. Percentiles are cut at commas.

**Reading.** Arguments are read from left to right, and the first that is refused ends it, as does
a request for help or for the version.
-/

namespace FeeMarket

/-- What the command line asks for. -/
structure Arguments where
  settingsFiles : List String := []
  variableFiles : List String := []
  blockCount : Option UInt64 := none
  lastBlock : Option Selector := none
  percentiles : List Float := []
  estimate : Bool := false

/-- Why arguments are refused. -/
inductive UsageError where
  | unexpected (argument : String)
  | valueMissing (option : String)
  | valueInvalid (option value : String)
  | valueUnexpected (option value : String)
  | repeated (option : String)
deriving DecidableEq

def UsageError.message : UsageError → String
  | .unexpected argument => "unexpected argument '" ++ argument ++ "' found"
  | .valueMissing option => "a value is required for '" ++ option ++ "' but none was supplied"
  | .valueInvalid option value => "invalid value '" ++ value ++ "' for '" ++ option ++ "'"
  | .valueUnexpected option value =>
    "unexpected value '" ++ value ++ "' for '" ++ option ++ "' found; no more were expected"
  | .repeated option => "the argument '" ++ option ++ "' cannot be used multiple times"

namespace CommandLine

/-- An option that has a value. -/
inductive ValueOption where
  | config
  | envFile
  | blockCount
  | lastBlock
  | percentiles
deriving DecidableEq

/-- What stops the reading of arguments early. -/
inductive Interruption where
  | help
  | version
  | refused (error : UsageError)
deriving DecidableEq

abbrev Reading := Except Interruption

def refuse {α : Type} (e : UsageError) : Reading α := .error (.refused e)

namespace ValueOption

def name : ValueOption → String
  | .config => "--config"
  | .envFile => "--env-file"
  | .blockCount => "--block-count"
  | .lastBlock => "--last-block"
  | .percentiles => "--percentiles"

def long? (text : String) : Option ValueOption :=
  [.config, .envFile, .blockCount, .lastBlock, .percentiles].find? fun o => o.name = "--" ++ text

def short? : Char → Option ValueOption
  | 'c' => some .config
  | 'e' => some .envFile
  | 'b' => some .blockCount
  | 'l' => some .lastBlock
  | 'p' => some .percentiles
  | _ => none

/-- Takes a value that was read. -/
def settle {α : Type} (o : ValueOption) (value : String) : Option α → Reading α
  | some a => .ok a
  | none => refuse (.valueInvalid o.name value)

/-- Takes the value of an option. -/
def take (o : ValueOption) (value : String) (a : Arguments) : Reading Arguments := do
  match o with
  | .config =>
    let file ← o.settle value (if value.isEmpty then none else some value)
    return { a with settingsFiles := a.settingsFiles ++ [file] }
  | .envFile =>
    let file ← o.settle value (if value.isEmpty then none else some value)
    return { a with variableFiles := a.variableFiles ++ [file] }
  | .blockCount =>
    if a.blockCount.isSome then refuse (.repeated o.name)
    let count ← o.settle value (Word.read? 10 value.toList)
    return { a with blockCount := some count }
  | .lastBlock =>
    if a.lastBlock.isSome then refuse (.repeated o.name)
    let last ← o.settle value (Selector.read? value)
    return { a with lastBlock := some last }
  | .percentiles =>
    let parts := (splitAll (· == ',') value.toList).map String.ofList
    let values ← parts.mapM fun part => o.settle part (Decimal.read? part)
    return { a with percentiles := a.percentiles ++ values }

end ValueOption

/-- Whether an argument can only be an option, or the end of the options. -/
def isOption (argument : String) : Bool :=
  match argument.toList with
  | '-' :: _ :: _ => true
  | _ => false

/-- Takes the estimate flag. -/
def takeEstimate (a : Arguments) : Reading Arguments :=
  if a.estimate then refuse (.repeated "--estimate") else .ok { a with estimate := true }

/-- Reads arguments. `pending` is an option that waits for its value. -/
def readFrom (pending : Option ValueOption) (a : Arguments) : List String → Reading Arguments
  | [] =>
    match pending with
    | some o => refuse (.valueMissing o.name)
    | none => .ok a
  | argument :: rest =>
    match pending with
    | some o =>
      if isOption argument then refuse (.valueMissing o.name)
      else do
        let a ← o.take argument a
        readFrom none a rest
    | none =>
      match argument.toList with
      | ['-', '-'] =>
        match rest with
        | [] => .ok a
        | extra :: _ => refuse (.unexpected extra)
      | '-' :: '-' :: long =>
        let word := long.takeWhile (· != '=')
        let name := String.ofList word
        let value? :=
          match long.drop word.length with
          | _ :: value => some (String.ofList value)
          | [] => none
        match ValueOption.long? name, value? with
        | some o, some value => do
          let a ← o.take value a
          readFrom none a rest
        | some o, none => readFrom (some o) a rest
        | none, some value =>
          if name = "estimate" ∨ name = "help" ∨ name = "version" then
            refuse (.valueUnexpected ("--" ++ name) value)
          else refuse (.unexpected ("--" ++ name))
        | none, none =>
          if name = "estimate" then do
            let a ← takeEstimate a
            readFrom none a rest
          else if name = "help" then .error .help
          else if name = "version" then .error .version
          else refuse (.unexpected argument)
      | '-' :: short :: attached =>
        match ValueOption.short? short, attached with
        | some o, [] => readFrom (some o) a rest
        | some o, '=' :: value => do
          let a ← o.take (String.ofList value) a
          readFrom none a rest
        | some o, value => do
          let a ← o.take (String.ofList value) a
          readFrom none a rest
        | none, _ =>
          if short = 'h' then .error .help
          else if short = 'V' then .error .version
          else refuse (.unexpected (String.ofList ['-', short]))
      | _ => refuse (.unexpected argument)

/-- Reads a command line. -/
def read (arguments : List String) : Reading Arguments := readFrom none {} arguments

/-- The answer to a request for the version. -/
def versionText : String := "fee-oracle 0.1.0"

/-- The answer to a request for help. -/
def helpText : String :=
  "\n".intercalate
    ["Usage: fee-oracle [OPTIONS]", "", "Options:",
      "  -c, --config <CONFIG>            [default: config.toml]",
      "  -e, --env-file <ENV_FILE>        ",
      "  -b, --block-count <BLOCK_COUNT>  Number of blocks to query [default: 10]",
      "  -l, --last-block <LAST_BLOCK>    Last block of the range: a number, `latest`, "
        ++ "`pending` or `finalized` [default: latest]",
      "  -p, --percentiles <PERCENTILES>  Reward percentiles, comma separated",
      "      --estimate                   Print a fee estimate instead of the raw history",
      "  -h, --help                       Print help",
      "  -V, --version                    Print version"]

end CommandLine

namespace Arguments

/-- The files of settings; `config.toml` unless others are named. -/
def effectiveSettingsFiles (a : Arguments) : List String :=
  if a.settingsFiles.isEmpty then ["config.toml"] else a.settingsFiles

/-- How many blocks are asked for; ten unless it is said. -/
def effectiveBlockCount (a : Arguments) : UInt64 := a.blockCount.getD 10

/-- The block to end at; the latest unless it is said. -/
def effectiveLastBlock (a : Arguments) : Selector := a.lastBlock.getD .latest

end Arguments

end FeeMarket
