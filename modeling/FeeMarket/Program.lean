import FeeMarket.Chain.Node
import FeeMarket.CommandLine
import FeeMarket.EnvFile
import FeeMarket.Estimate
import FeeMarket.Oracle
import FeeMarket.Settings

/-!
# The program

**Run.** The command line is read; a file `.env` and the files of variables that are named take
effect, without overriding a variable that is set; the settings are loaded and checked; a node
is asked; and the history, or the estimate after it, is printed as indented JSON.

**Exit.** What ends a run without an answer: a refused command line, with status 2, or anything
that failed later, with status 1 and a message.
-/

namespace FeeMarket.Program

/-- What opening a file gives. -/
inductive FileOutcome where
  | text (text : String)
  /-- Something that is read like a file but is none. -/
  | device (text : String)
  | missing
  | directory
  | behindFile
deriving DecidableEq

namespace FileOutcome

/-- The text of a file. -/
def text? : FileOutcome → Option String
  | .text t => some t
  | _ => none

/-- What can be read, or why nothing can. -/
def reading : FileOutcome → Except String String
  | .text t => .ok t
  | .device t => .ok t
  | .missing => .error "No such file or directory (os error 2)"
  | .directory => .error "Is a directory (os error 21)"
  | .behindFile => .error "Not a directory (os error 20)"

end FileOutcome

/-- What a run starts from. -/
structure World where
  arguments : List String
  environment : EnvFile.Variables
  file : String → FileOutcome

/-- What ends a run without an answer. -/
inductive Exit where
  | help
  | version
  | usage (error : UsageError)
  | failed (message : String)
  | crashed (fault : Fault)
deriving DecidableEq

def Exit.status : Exit → Nat
  | .help => 0
  | .version => 0
  | .usage _ => 2
  | .failed _ => 1
  | .crashed _ => 101

/-- What goes with a failure. -/
def Exit.message? : Exit → Option String
  | .failed message => some message
  | _ => none

/-- A run that is ready to ask a node. -/
structure Plan where
  arguments : Arguments
  settings : Settings
  oracle : Oracle

/-- Lets a file of variables take effect: the variables after it, and what ended it early. -/
def withVariables (w : World) (set : EnvFile.Variables) (name : String) :
    Except Exit (EnvFile.Variables × Option String) :=
  match (w.file name).reading with
  | .error problem => .ok (set, some problem)
  | .ok text =>
    match EnvFile.load set text with
    | .ok (set, ending) => .ok (set, ending.map EnvFile.LineError.message)
    | .error fault => .error (.crashed fault)

/-- The variables after `.env`, which may be missing or end early, and the named files. -/
def variablesOf (w : World) (a : Arguments) : Except Exit EnvFile.Variables := do
  let (first, _) ← withVariables w w.environment ".env"
  a.variableFiles.foldlM (fun set name => do
    match ← withVariables w set name with
    | (set, none) => return set
    | (_, some problem) => throw (.failed problem)) first

/-- The extension of a file name. -/
def extension? (name : String) : Option String :=
  let last := (splitLast '/' name.toList).elim name.toList Prod.snd
  (splitLast '.' last).bind fun (before, after) =>
    if before.isEmpty then none else some (String.ofList after)

/-- A path as errors show it: without steps that stay in a directory. -/
def shownPath (name : String) : String :=
  let parts := (splitAll (· == '/') name.toList).map String.ofList
  let relative := "/".intercalate (parts.filter fun p => !p.isEmpty && p != ".")
  if name.startsWith "/" then "/" ++ relative else relative

/-- The names that a name without its extension may stand for, each with its extension. -/
def extended (name : String) : List (String × String) :=
  let shown := shownPath name
  let last := (splitLast '/' shown.toList).elim shown.toList Prod.snd
  if last.isEmpty ∨ last = ['.', '.'] then []
  else Format.extensions.map fun extension => (shown ++ "." ++ extension, extension)

/-- Finds a file of settings. The extension may be left out. -/
def settingsFile (w : World) (name : String) : SettingsFile :=
  match w.file name with
  | .text text =>
    match (extension? name).bind Format.ofExtension? with
    | some format => ⟨shownPath name, .ok (format, text)⟩
    | none => ⟨name, .error (.unknownFormat name)⟩
  | _ =>
    let found? := (extended name).findSome? fun (full, extension) => do
      let text ← (w.file full).text?
      let format ← Format.ofExtension? extension
      return (⟨full, .ok (format, text)⟩ : SettingsFile)
    found?.getD ⟨name, .error (.fileMissing name)⟩

/-- The settings of a run. -/
def settingsOf (w : World) (a : Arguments) : Except Exit Settings := do
  let environment ← variablesOf w a
  match Settings.load (a.effectiveSettingsFiles.map (settingsFile w)) environment with
  | .ok s => return s
  | .error (.unreadable e) => throw (.failed e.message)
  | .error (.refused e) => throw (.failed e.message)
  | .error (.crashed fault) => throw (.crashed fault)

/-- The names of all files that a run may open. -/
def fileNames (arguments : List String) : List String :=
  match CommandLine.read arguments with
  | .error _ => []
  | .ok a =>
    ".env" :: a.variableFiles
      ++ a.effectiveSettingsFiles.flatMap fun name => name :: (extended name).map Prod.fst

/-- All that comes before a node is asked. -/
def plan (w : World) : Except Exit Plan := do
  let arguments ←
    match CommandLine.read w.arguments with
    | .ok a => pure a
    | .error .help => throw .help
    | .error .version => throw .version
    | .error (.refused e) => throw (.usage e)
  let settings ← settingsOf w arguments
  match Oracle.build settings.chain settings.oracle with
  | .ok oracle => return ⟨arguments, settings, oracle⟩
  | .error e => throw (.failed e.message)

/-- The query of a run. -/
def Plan.query (p : Plan) : Query FeeHistory :=
  p.oracle.feeHistory p.arguments.effectiveBlockCount p.arguments.effectiveLastBlock
    p.arguments.percentiles

/-- What a run answers with. -/
inductive Answer where
  | history (h : FeeHistory)
  | estimate (e : FeesEstimate)

def Answer.encode : Answer → Json
  | .history h => h.encode
  | .estimate e => e.encode

/-- The answer after the outcome of the query. -/
def Plan.answer (p : Plan) : Except Stop FeeHistory → Except Exit Answer
  | .error (.refused e) => .error (.failed e.message)
  | .error (.crashed fault) => .error (.crashed fault)
  | .ok history =>
    if p.arguments.estimate then
      match FeesEstimate.ofHistory history with
      | .ok e => .ok (.estimate e)
      | .error e => .error (.failed e.message)
    else .ok (.history history)

/-- Asks a node and answers. -/
def Plan.run {m : Type → Type} [Monad m] (p : Plan) (send : NodeRequest → m NodeReply)
    (record : Notice → m Unit) : m (Except Exit Answer) := do
  let outcome ← p.query.run.runIn (Node.reply send record) record
  return p.answer outcome

end FeeMarket.Program
