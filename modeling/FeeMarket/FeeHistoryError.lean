import FeeMarket.Percentile
import FeeMarket.Selector

/-!
# Errors of a fee history query

**Stages.** A query checks its percentiles, resolves its range, and fetches blocks. Each stage has
errors of its own, and the category of an error is the stage that it comes from.
-/

namespace FeeMarket

/-- The stage of a query that an error comes from. -/
inductive ErrorCategory where
  | validation
  | range
  | fetch
deriving DecidableEq

def ErrorCategory.name : ErrorCategory → String
  | .validation => "validation"
  | .range => "range"
  | .fetch => "fetch"

/-- Why a fee history query has no answer. -/
inductive FeeHistoryError where
  | percentiles (error : PercentileError)
  /-- The last block lies above the head. -/
  | beyondHead (requested head : UInt64)
  /-- The chain has no block for a selector. -/
  | unresolved (selector : Selector)
  /-- Chain data could not be retrieved. -/
  | fetch (reason : String)
deriving DecidableEq

namespace FeeHistoryError

def category : FeeHistoryError → ErrorCategory
  | .percentiles _ => .validation
  | .beyondHead _ _ => .range
  | .unresolved _ => .range
  | .fetch _ => .fetch

def message : FeeHistoryError → String
  | .percentiles error => error.message
  | .beyondHead requested head =>
    "requested block " ++ Word.toDecimal requested ++ " is beyond head " ++ Word.toDecimal head
  | .unresolved selector => "could not resolve " ++ selector.display ++ " block"
  | .fetch reason => reason

/-- Whether the error is about the percentiles. -/
def isValidation (e : FeeHistoryError) : Bool := e.category = .validation

/-- Whether the error is about the range. -/
def isRange (e : FeeHistoryError) : Bool := e.category = .range

/-- Whether chain data could not be retrieved. -/
def isFetch (e : FeeHistoryError) : Bool := e.category = .fetch

end FeeHistoryError

end FeeMarket
