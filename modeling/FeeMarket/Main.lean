import FeeMarket.Chain.Envelope
import FeeMarket.Http
import FeeMarket.Program
import Std.Async.DNS
import Std.Async.TCP
import Std.Async.Timer

/-!
# Entry point

Reads the arguments, the environment and the files that a run may open, sends requests to a node
over HTTP, and prints the answer. Everything else is decided by `Program.plan` and `Plan.run`.
Errors of the log and the reason of a failure go to the standard error stream.
-/

namespace FeeMarket.Terminal

open Std.Async (Async)
open Std.Async.TCP.Socket (Client)

/-- What opening files gives. -/
def readFiles (names : List String) : IO (List (String × Program.FileOutcome)) := do
  let mut outcomes := []
  for name in names do
    try outcomes := (name, .text (← IO.FS.readFile name)) :: outcomes
    catch
      | .inappropriateType _ code _ =>
        outcomes := (name, if code = 20 then .behindFile else .directory) :: outcomes
      | _ => pure ()
  return outcomes

/-- The socket address of a host. -/
def socketAddress (port : UInt16) : Std.Net.IPAddr → Std.Net.SocketAddress
  | .v4 addr => .v4 ⟨addr, port⟩
  | .v6 addr => .v6 ⟨addr, port⟩

/-- Connects to the first address that accepts. -/
def connect (port : UInt16) : List Std.Net.IPAddr → Async Client
  | [] => throw (IO.userError "no address accepts a connection")
  | address :: others => do
    let client ← Client.mk
    try
      client.connect (socketAddress port address)
      return client
    catch _ => connect port others

/-- Receives until the connection is closed. -/
partial def receive (client : Client) (received : ByteArray) : Async ByteArray := do
  match ← client.recv? 65536 with
  | some bytes => receive client (received ++ bytes)
  | none => return received

/-- Posts a text and reads the text of the response. -/
def exchange (target : Http.Target) (text : String) : Async NodeReply := do
  try
    let addresses ← Std.Async.DNS.getAddrInfo target.address ""
    let client ← connect target.port addresses.toList
    client.send (Http.post target text).toUTF8
    match Http.bodyText? (← receive client .empty) with
    | some reply => return .ofEnvelope reply
    | none => return .failed
  catch _ => return .failed

/-- Says after a time that the time is up. -/
def timeOut (millis : Nat) : Async NodeReply := do
  Std.Async.sleep (.ofNat millis)
  return .timedOut

instance : Inhabited NodeReply := ⟨.failed⟩

/-- Sends a request to a node. -/
def send (node : NodeConfig) (identifiers : IO.Ref Nat) (request : NodeRequest) : IO NodeReply := do
  match Http.Target.ofUrl? node.httpUrl with
  | none => return .failed
  | some target =>
    let id ← identifiers.modifyGet fun n => (n, n + 1)
    (Async.race (exchange target (request.envelope id)) (timeOut node.timeout.toMillis)).block

/-- Prints an entry of the log that is an error. -/
def record (jsonLogs : Bool) (notice : Notice) : IO Unit := do
  match notice.event? with
  | none => return
  | some event =>
    if event.level = .error then
      if jsonLogs then IO.eprintln event.encode.compact
      else
        let values := event.fields.map fun (name, value) => " " ++ name ++ "=" ++ value
        IO.eprintln (event.level.name ++ " " ++ event.message ++ String.join values)

/-- Prints what ends a run without an answer. -/
def report : Program.Exit → IO Unit
  | .help => IO.println CommandLine.helpText
  | .version => IO.println CommandLine.versionText
  | .usage error => IO.eprintln ("error: " ++ error.message)
  | .failed message => IO.eprintln ("Error: " ++ message)
  | .crashed _ => IO.eprintln "Error: the calculation broke down"

/-- Runs the program up to its answer. -/
def run (arguments : List String) : IO (Except Program.Exit Program.Answer) := do
  let environment ← Std.Internal.UV.System.osEnviron
  let files ← readFiles (Program.fileNames arguments)
  let file (name : String) : Program.FileOutcome := (files.lookup name).getD .missing
  match Program.plan ⟨arguments, environment.toList, file⟩ with
  | .error e => return .error e
  | .ok plan =>
    let identifiers ← IO.mkRef 0
    plan.run (send plan.settings.node identifiers) (record plan.settings.jsonLogs)

end FeeMarket.Terminal

/-- Prints the answer of a run, or why there is none, and gives its status. -/
def main (arguments : List String) : IO UInt32 := do
  match ← FeeMarket.Terminal.run arguments with
  | .ok answer =>
    IO.println answer.encode.indented
    return 0
  | .error e =>
    FeeMarket.Terminal.report e
    return UInt32.ofNat e.status
