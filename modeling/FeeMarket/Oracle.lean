import FeeMarket.FeeHistory
import FeeMarket.Window

/-!
# Answering fee history queries

**Oracle.** Valid parameters of a chain and valid limits.

**Stages of a query.** A query for no block has the empty answer. Otherwise the percentiles are
checked; the count is cut to the longest window for headers, or for full blocks if percentiles
are asked for; the window is resolved; its blocks are fetched; and the blocks before the first
missing one make up the answer. The first stage that fails ends the query.

**Fetching.** The consumer has enough when it has received one deposit for each block of the
window, or a failed one, which is then the error. If the workers stop before that, the error
says why.
-/

namespace FeeMarket

/-- The parameters of a chain and the limits of a query, all valid. -/
structure Oracle where
  chain : ChainConfig
  limits : OracleConfig
  chain_valid : chain.Valid
  limits_valid : limits.Valid

namespace Oracle

/-- An oracle, or the first reason against its parameters. -/
def build (chain : ChainConfig) (limits : OracleConfig) : Except ConfigError Oracle :=
  match hc : chain.validate, hl : limits.validate with
  | .ok (), .ok () =>
    .ok ⟨chain, limits, ChainConfig.validate_eq_ok.1 hc, OracleConfig.validate_eq_ok.1 hl⟩
  | .error e, _ => .error e
  | .ok (), .error e => .error e

/-- The longest window of a query with these percentiles. -/
def longestWindow (o : Oracle) (percentiles : List Float) : UInt64 :=
  if percentiles.isEmpty then o.limits.maxHeaderHistory else o.limits.maxBlockHistory

theorem longestWindow_eq (o : Oracle) (percentiles : List Float) :
    o.longestWindow percentiles =
      if percentiles = [] then o.limits.maxHeaderHistory else o.limits.maxBlockHistory := by
  cases percentiles <;> rfl

/-- Whether a consumer that waits for `count` deposits has enough. -/
def satisfied (count : Nat) (received : List Deposit) : Bool :=
  count ≤ received.length || received.any fun d => d.failure?.isSome

/-- The job of fetching a window, and the pool that begins to work on it. -/
def start (o : Oracle) (window : Window) (percentiles : List Float) :
    Query (FetchJob × FetchPool) := do
  let oldest ← Query.checked window.oldest
  Query.notice (.rangeResolved oldest window.last window.pending.isSome)
  let job : FetchJob := ⟨o.chain, percentiles, window.pending, oldest, window.last⟩
  let pool ← job.spawn o.limits.maxBlockFetchers
  return (job, pool)

/-- The fees of a window, block by block, empty where a block was not available, once the
consumer waits no longer. -/
def gather (oldest : UInt64) (count : Nat) (pool : FetchPool) :
    Query (List (Option ProcessedFees)) := do
  match pool.received.findSome? Deposit.failure? with
  | some reason =>
    FetchPool.release pool.workers.length
    Query.refuse (.fetch reason)
  | none =>
    if pool.received.length < count then
      let (reason, left) := pool.explain
      FetchPool.release left
      Query.refuse (.fetch reason)
    else
      FetchPool.release pool.workers.length
      return FeeHistory.slots oldest count pool.received

/-- The history over the blocks before the first missing one. -/
def assemble (oldest : UInt64) (percentiles : List Float) (slots : List (Option ProcessedFees)) :
    Query FeeHistory := do
  let fees := FeeHistory.leading slots
  if fees.isEmpty then return .empty
  else
    if fees.length < slots.length then
      Query.notice (.historyTruncated (oldest + UInt64.ofNat fees.length))
    return .ofFees oldest fees (!percentiles.isEmpty)

/-- The history that a consumer of `count` deposits takes from a pool that it does not wait for
any longer. -/
def conclude (job : FetchJob) (count : Nat) (pool : FetchPool) : Query FeeHistory := do
  let slots ← gather job.oldest count pool
  assemble job.oldest job.percentiles slots

/-- The history over a window that is not empty. -/
def cover (o : Oracle) (window : Window) (percentiles : List Float) : Query FeeHistory := do
  let count := window.count.toNat
  let (job, pool) ← o.start window percentiles
  let pool ← job.drive (satisfied count) pool
  conclude job count pool

/-- The window of a query. The query for no block has the empty one, whatever else it asks. -/
def plan (o : Oracle) (count : UInt64) (last : Selector) (percentiles : List Float) :
    Query Window :=
  if count = 0 then return .empty
  else
    match Percentile.check o.limits.maxPercentiles.toNat percentiles with
    | .error e => Query.refuse (.percentiles e)
    | .ok () => do
      let longest := o.longestWindow percentiles
      if longest < count then Query.notice (.countTruncated count longest)
      Window.resolve last (min count longest)

/-- The stages of a query, one after the other. -/
def collect (o : Oracle) (count : UInt64) (last : Selector) (percentiles : List Float) :
    Query FeeHistory := do
  let window ← o.plan count last percentiles
  if window.isEmpty then return .empty
  else o.cover window percentiles

/-- The fee history of up to `count` blocks that end with `last`, with rewards at the
percentiles. The query and its outcome are counted. -/
def feeHistory (o : Oracle) (count : UInt64) (last : Selector) (percentiles : List Float) :
    Query FeeHistory := ExceptT.mk do
  Dialogue.notice .queryReceived
  let outcome ← (o.collect count last percentiles).run
  match outcome with
  | .ok history => Dialogue.notice (.queryAnswered history.length)
  | .error (.refused e) => Dialogue.notice (.queryFailed e.category)
  | .error (.crashed _) => pure ()
  return outcome

end Oracle

end FeeMarket
