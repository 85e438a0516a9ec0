import FeeMarket.BlockFees
import FeeMarket.Dialogue

/-!
# Fetching the blocks of a range

**Job.** An inclusive range of block numbers, the percentiles to compute, and the pending block,
which stands for the lookup of its own number.

**Pool.** Workers that share a counter. A worker looks whether the job was cancelled, claims the
next number, looks the block up, processes it and deposits the outcome in a queue. A number
above the range ends the worker. A fault ends it too, and the number it had claimed is lost;
a failed lookup is an outcome like any other.

**Moves** (`FetchPool.step`). A worker takes a turn, the consumer receives the first deposit of
the queue, or the job is cancelled. A turn is one such step of a worker, so the moves of several
workers interleave in every order, and the chain may look different at each turn.

**Drive** (`FetchJob.drive`). One particular order of the moves: the consumer receives whatever is
queued, until it has enough; then the first worker that has not ended takes its turn.
-/

namespace FeeMarket

/-- A range to fetch, and what each of its blocks is processed with. -/
structure FetchJob where
  config : ChainConfig
  percentiles : List Float
  pending : Option FullBlock
  oldest : UInt64
  last : UInt64
deriving DecidableEq

/-- What was learnt about one block. -/
structure Sample where
  header : Option Header
  /-- Looked up only if percentiles are asked for. -/
  block : Option Block
  receipts : Option (List Receipt)
  /-- Absent if the block was not available. -/
  fees : Option ProcessedFees
deriving DecidableEq

/-- The outcome for a claimed number: a sample, or why a lookup failed. -/
structure Deposit where
  number : UInt64
  outcome : Except String Sample

namespace Deposit

/-- Why the lookup failed, if it did. -/
def failure? (d : Deposit) : Option String :=
  match d.outcome with
  | .ok _ => none
  | .error reason => some reason

/-- The fees that were computed, if the block was available. -/
def fees? (d : Deposit) : Option ProcessedFees :=
  match d.outcome with
  | .ok sample => sample.fees
  | .error _ => none

end Deposit

/-- Where a worker stands. -/
inductive Worker where
  /-- About to look whether the job was cancelled. -/
  | idle
  /-- About to claim a number. -/
  | cleared
  | awaitsHeader (number : UInt64)
  | awaitsBlock (number : UInt64)
  | awaitsReceipts (number : UInt64) (block : Block)
  /-- About to deposit. -/
  | holds (deposit : Deposit)
  | finished
  /-- Ended by a fault. -/
  | dead

namespace Worker

/-- Whether the worker takes no more turns. -/
def stopped : Worker → Bool
  | .finished => true
  | .dead => true
  | _ => false

/-- Whether a fault ended the worker. -/
def isDead : Worker → Bool
  | .dead => true
  | _ => false

end Worker

/-- What is recorded about a basis that yields no rewards. -/
def RewardBasis.notice? (number : UInt64) : RewardBasis → Option Notice
  | .blockMissing => some (.blockMissing number)
  | .receiptsMissing transactions receipts =>
    some (.receiptsMissing number transactions receipts)
  | .notRequested => none
  | .present _ _ => none

namespace FetchJob

/-- How many blocks the range has. -/
def length (job : FetchJob) : Checked UInt64 := do
  let span ← Word.sub job.last job.oldest
  Word.add span 1

/-- The worker after it has learnt all it looks up. A header is processed; without one there is
nothing to process. -/
def conclude (job : FetchJob) (number : UInt64) (header : Option Header) (block : Option Block)
    (receipts : Option (List Receipt)) : Dialogue Worker :=
  match header with
  | none => pure (.holds ⟨number, .ok ⟨none, block, receipts, none⟩⟩)
  | some h =>
    let basis := RewardBasis.of block receipts job.percentiles
    match processBasis job.config h basis job.percentiles with
    | .error _ => pure .dead
    | .ok fees => do
      if let some n := basis.notice? h.number then Dialogue.notice n
      return .holds ⟨number, .ok ⟨some h, block, receipts, some fees⟩⟩

/-- The worker after it has claimed a number. -/
def begin (job : FetchJob) (number : UInt64) : Dialogue Worker :=
  if job.last < number then pure .finished
  else
    let lookup : Worker :=
      if job.percentiles.isEmpty then .awaitsHeader number else .awaitsBlock number
    match job.pending with
    | some pending =>
      if pending.number = number then
        job.conclude number (some pending.block.header) (some pending.block)
          (some pending.receipts)
      else pure lookup
    | none => pure lookup

/-- The worker after a header lookup. -/
def hearHeader (job : FetchJob) (number : UInt64) : Lookup Header → Dialogue Worker
  | .absent => job.conclude number none none none
  | .found header => job.conclude number (some header) none none
  | .failed reason => pure (.holds ⟨number, .error reason⟩)
  | .broken => pure .dead

/-- The worker after a block lookup. -/
def hearBlock (job : FetchJob) (number : UInt64) : Lookup Block → Dialogue Worker
  | .absent => job.conclude number none none none
  | .found block => pure (.awaitsReceipts number block)
  | .failed reason => pure (.holds ⟨number, .error reason⟩)
  | .broken => pure .dead

/-- The worker after a receipts lookup. -/
def hearReceipts (job : FetchJob) (number : UInt64) (block : Block) :
    Lookup (List Receipt) → Dialogue Worker
  | .absent => job.conclude number (some block.header) (some block) none
  | .found receipts => job.conclude number (some block.header) (some block) (some receipts)
  | .failed reason => pure (.holds ⟨number, .error reason⟩)
  | .broken => pure .dead

end FetchJob

/-- The workers of a job, the counter and the queue that they share, and what the consumer has
received, in the order of arrival. -/
structure FetchPool where
  next : UInt64
  cancelled : Bool
  workers : List Worker
  queue : List Deposit
  received : List Deposit

namespace FetchPool

/-- Workers that have not begun. -/
def start (job : FetchJob) (workers : Nat) : FetchPool :=
  ⟨job.oldest, false, List.replicate workers .idle, [], []⟩

/-- The pool with a worker in place of the one at an index. -/
def put (p : FetchPool) (i : Nat) (w : Worker) : FetchPool :=
  { p with workers := p.workers.set i w }

/-- The turn of a worker at an index. -/
def turn (job : FetchJob) (p : FetchPool) (i : Nat) : Worker → Dialogue FetchPool
  | .idle => pure (p.put i (if p.cancelled then .finished else .cleared))
  | .cleared => do
    let w ← job.begin p.next
    return { p.put i w with next := p.next + 1 }
  | .awaitsHeader number => do
    let reply ← Dialogue.call (.header (.number number))
    let w ← job.hearHeader number reply
    return p.put i w
  | .awaitsBlock number => do
    let reply ← Dialogue.call (.block (.number number))
    let w ← job.hearBlock number reply
    return p.put i w
  | .awaitsReceipts number block => do
    let reply ← Dialogue.call (.receipts block.hash)
    let w ← job.hearReceipts number block reply
    return p.put i w
  | .holds deposit => pure { p.put i .idle with queue := p.queue ++ [deposit] }
  | .finished => pure p
  | .dead => pure p

/-- The consumer receives the first deposit of the queue. -/
def receive? (p : FetchPool) : Option FetchPool :=
  match p.queue with
  | [] => none
  | d :: rest => some { p with queue := rest, received := p.received ++ [d] }

/-! ## Interleaved moves -/

/-- One move of the system. A worker's turn sees the chain as it is then. -/
inductive Move where
  | turn (index : Nat) (view : View)
  | receive
  | cancel

/-- The pool after a move, if the move is possible. -/
def step (job : FetchJob) (p : FetchPool) : Move → Option FetchPool
  | .turn i view =>
    match p.workers[i]? with
    | some w => if w.stopped then none else some ((turn job p i w).run view).value
    | none => none
  | .receive => p.receive?
  | .cancel => some { p with cancelled := true }

/-! ## Driving a pool -/

/-- The first worker that has not stopped, and its index. -/
def firstActive? (p : FetchPool) : Option (Nat × Worker) :=
  (p.workers.findIdx? fun w => !w.stopped).bind fun i => p.workers[i]?.map fun w => (i, w)

end FetchPool

/-- The longest queue that can be made: `2 ^ 61 - 1`. -/
def maxQueueLength : Nat := 0x1FFFFFFFFFFFFFFF

namespace FetchJob

/-- Starts at most `maxFetchers` workers, and not more than there are blocks. -/
def spawn (job : FetchJob) (maxFetchers : UInt64) : Query FetchPool := do
  let length ← Query.checked job.length
  if maxQueueLength < length.toNat then throw (.crashed .queueTooLong)
  let workers := (min maxFetchers length).toNat
  Query.notice (.fetchersSpawned job.oldest job.last workers)
  return .start job workers

/-- Lets a pool move until the consumer has enough or nothing can move. -/
def driveFor (job : FetchJob) (enough : List Deposit → Bool) : Nat → FetchPool → Dialogue FetchPool
  | 0, p => pure p
  | moves + 1, p =>
    if enough p.received then pure p
    else
      match p.receive? with
      | some p => job.driveFor enough moves p
      | none =>
        match p.firstActive? with
        | some (i, w) => do
          let p ← p.turn job i w
          job.driveFor enough moves p
        | none => pure p

/-- The most moves that a pool makes: to look for cancellation and to claim, once for each number
and once more for each worker, and then at most two lookups, a deposit and a receipt for each
number. -/
def moveBound (job : FetchJob) (workers : Nat) : Nat :=
  6 * (job.last.toNat + 1 - job.oldest.toNat) + 2 * workers + 1

/-- Lets a fresh pool move until the consumer has enough or nothing can move. -/
def drive (job : FetchJob) (enough : List Deposit → Bool) (p : FetchPool) : Dialogue FetchPool :=
  job.driveFor enough (job.moveBound p.workers.length) p

end FetchJob

namespace FetchPool

/-- Waits for the workers one after the other, and stops at the first that was ended by a fault:
why the range was not covered, and how many workers are left. -/
def explain (p : FetchPool) : String × Nat :=
  match p.workers.findIdx? Worker.isDead with
  | some i => ("Block fee fetcher failed", p.workers.length - (i + 1))
  | none => ("Block fee fetchers stopped before completing the range", 0)

/-- Gives up a pool with so many workers left. -/
def release (workers : Nat) : Dialogue Unit :=
  if workers = 0 then pure () else Dialogue.notice (.fetchersCancelled workers)

end FetchPool

end FeeMarket
