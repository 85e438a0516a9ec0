import FeeMarket.FeeHistoryError

/-!
# Notices

**Notice.** Something worth recording that happens while a query runs or a chain changes. A notice
is either an event of the log, with a level, a message and named values, or a measurement:
a counter raised or a value of a distribution.
-/

namespace FeeMarket

/-- Something worth recording. -/
inductive Notice where
  | queryReceived
  | queryAnswered (blocks : Nat)
  | queryFailed (category : ErrorCategory)
  | countTruncated (requested truncated : UInt64)
  | rangeResolved (oldest last : UInt64) (pending : Bool)
  | fetchersSpawned (oldest last : UInt64) (workers : Nat)
  | fetchersCancelled (workers : Nat)
  | historyTruncated (firstMissing : UInt64)
  | blockMissing (number : UInt64)
  | receiptsMissing (number : UInt64) (transactions : Nat) (receipts : Option Nat)
  | chainRewound (head : UInt64) (removed : Nat)
  | pendingUnavailable
deriving DecidableEq

/-- How much an event of the log matters. -/
inductive Level where
  | debug
  | info
  | warning
  | error
deriving DecidableEq

def Level.name : Level → String
  | .debug => "DEBUG"
  | .info => "INFO"
  | .warning => "WARN"
  | .error => "ERROR"

/-- An entry of the log. The fields are in the order of their names. -/
structure Event where
  level : Level
  message : String
  fields : List (String × String)
deriving DecidableEq

def Event.encode (e : Event) : Json :=
  .object [("fields", .object (e.fields.map fun (name, value) => (name, .string value))),
    ("level", .string e.level.name), ("message", .string e.message)]

namespace Notice

private def truth : Bool → String
  | true => "true"
  | false => "false"

private def optionalCount : Option Nat → String
  | some n => "Some(" ++ Numeral.decimal n ++ ")"
  | none => "None"

/-- The entry of the log, if the notice is one. -/
def event? : Notice → Option Event
  | .countTruncated requested truncated =>
    some ⟨.warning, "Sanitizing fee history length",
      [("requested", Word.toDecimal requested), ("truncated", Word.toDecimal truncated)]⟩
  | .rangeResolved oldest last pending =>
    some ⟨.debug, "Resolved fee history range",
      [("last_block", Word.toDecimal last), ("oldest_block", Word.toDecimal oldest),
        ("pending", truth pending)]⟩
  | .fetchersSpawned oldest last workers =>
    some ⟨.debug, "Spawning block fee fetchers",
      [("last_block", Word.toDecimal last), ("num_workers", Numeral.decimal workers),
        ("oldest_block", Word.toDecimal oldest)]⟩
  | .fetchersCancelled workers =>
    some ⟨.debug, "Cancelling block fee fetchers", [("workers", Numeral.decimal workers)]⟩
  | .historyTruncated firstMissing =>
    some ⟨.debug, "Truncating fee history at missing block",
      [("first_missing", Word.toDecimal firstMissing)]⟩
  | .blockMissing number =>
    some ⟨.error, "Block is missing while reward percentiles are requested",
      [("block_number", Word.toDecimal number)]⟩
  | .receiptsMissing number transactions receipts =>
    some ⟨.error, "Receipts are missing while reward percentiles are requested",
      [("block_number", Word.toDecimal number), ("receipts", optionalCount receipts),
        ("transactions", Numeral.decimal transactions)]⟩
  | .chainRewound head removed =>
    some ⟨.info, "Rewound chain",
      [("head", Word.toDecimal head), ("removed", Numeral.decimal removed)]⟩
  | .pendingUnavailable => some ⟨.debug, "Pending block unavailable", []⟩
  | .queryReceived | .queryAnswered _ | .queryFailed _ => none

/-- The measurement, if the notice is one. -/
def metric? : Notice → Option String
  | .queryReceived => some "counter fee_history_requests +1"
  | .queryAnswered blocks => some ("histogram fee_history_blocks " ++ Numeral.decimal blocks)
  | .queryFailed category =>
    some ("counter fee_history_errors\x7bcategory=" ++ category.name ++ "\x7d +1")
  | _ => none

end Notice

end FeeMarket
