import FeeMarket.Chain.Node
import FeeMarket.Json.Printer
import FeeMarket.Json.Reader

/-!
# JSON-RPC envelopes

**Request.** An object with the version `2.0`, an identifier, the method and its parameters.

**Reply.** An object with the version and a result. Every other text, also one that reports an
error, says that the request failed.
-/

namespace FeeMarket

/-- The text of a request. -/
def NodeRequest.envelope (id : Nat) (r : NodeRequest) : String :=
  Json.compact <| .object [("id", .count id), ("jsonrpc", .string "2.0"),
    ("method", .string r.method), ("params", r.params)]

/-- What the text of a reply says. -/
def NodeReply.ofEnvelope (text : String) : NodeReply :=
  match Json.read? text with
  | none => .failed
  | some v =>
    match v.field? "jsonrpc", v.field? "result" with
    | some (.string "2.0"), some value => .result value
    | _, _ => .failed

end FeeMarket
