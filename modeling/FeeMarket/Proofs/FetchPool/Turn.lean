import FeeMarket.FetchPool
import FeeMarket.Proofs.Outcome

/-!
# What a turn can do

A worker's turn is one of six things: it passes the look at the flag, or is dismissed by it; it
claims a number of the range, or a number above it; it hears the reply to a lookup; or it
deposits an outcome. `turned_of_step` says so once, with all that the turn leaves behind: the
pool, and the deed that goes into the history. Everything about a run of turns follows from it.

**Findings.** What the lookups for one number found. **Deed.** What a turn adds to the history:
a claim, a reply, or a number that is lost because its worker died.
-/

namespace FeeMarket

/-! ## Findings -/

/-- What the lookups for a number found. -/
structure Findings where
  header : Header
  block : Option Block
  receipts : Option (List Receipt)

namespace FullBlock

/-- What there is to find of a full block. -/
def findings (b : FullBlock) : Findings := ⟨b.block.header, some b.block, some b.receipts⟩

end FullBlock

namespace Lookup

variable {α β : Type}

/-- What a lookup found, seen through a function. -/
def map (f : α → β) : Lookup α → Lookup β
  | .absent => .absent
  | .found a => .found (f a)
  | .failed reason => .failed reason
  | .broken => .broken

/-- The receipts of a block complete what was found of it. Receipts may be absent. -/
def withBlock (block : Block) : Lookup (List Receipt) → Lookup Findings
  | .absent => .found ⟨block.header, some block, none⟩
  | .found receipts => .found ⟨block.header, some block, some receipts⟩
  | .failed reason => .failed reason
  | .broken => .broken

end Lookup

namespace FetchJob

variable (job : FetchJob) (view : View)

/-- The worker once the lookups for a number have come to an end. -/
def settle (number : UInt64) : Lookup Findings → Worker
  | .absent => .holds ⟨number, .ok ⟨none, none, none, none⟩⟩
  | .found f =>
    match processBlock job.config f.header f.block f.receipts job.percentiles with
    | .error _ => .dead
    | .ok fees => .holds ⟨number, .ok ⟨some f.header, f.block, f.receipts, some fees⟩⟩
  | .failed reason => .holds ⟨number, .error reason⟩
  | .broken => .dead

/-- The pending block, if it has this number. -/
def substitute? (number : UInt64) : Option FullBlock :=
  job.pending.filter fun b => b.number = number

/-- The worker once it has claimed a number of the range. -/
def take (number : UInt64) : Worker :=
  match job.substitute? number with
  | some b => job.settle number (.found b.findings)
  | none => if job.percentiles.isEmpty then .awaitsHeader number else .awaitsBlock number

/-- The worker once it has the reply to its lookup. -/
def hear : Worker → Worker
  | .awaitsHeader n => job.settle n ((view (.header (.number n))).map fun h => ⟨h, none, none⟩)
  | .awaitsBlock n =>
    match view (.block (.number n)) with
    | .absent => job.settle n .absent
    | .found block => .awaitsReceipts n block
    | .failed reason => job.settle n (.failed reason)
    | .broken => job.settle n .broken
  | .awaitsReceipts n block => job.settle n ((view (.receipts block.hash)).withBlock block)
  | w => w

/-! ## Values of the model's steps -/

theorem value_conclude_some (number : UInt64) (f : Findings) :
    (job.conclude number (some f.header) f.block f.receipts).value view =
      job.settle number (.found f) := by
  simp only [conclude, settle, processBlock]
  cases processBasis job.config f.header (.of f.block f.receipts job.percentiles)
    job.percentiles with
  | error e => rfl
  | ok fees =>
    cases RewardBasis.notice? f.header.number (.of f.block f.receipts job.percentiles) <;> rfl

theorem value_begin (number : UInt64) :
    (job.begin number).value view =
      if job.last < number then .finished else job.take number := by
  unfold begin take substitute?
  split
  · rfl
  · cases job.pending with
    | none => rfl
    | some b =>
      by_cases hb : b.number = number
      · simp only [hb, if_true, Option.filter_some, decide_true]
        exact value_conclude_some job view number b.findings
      · simp only [hb, if_false, Option.filter_some, decide_false, Bool.false_eq_true]
        rfl

theorem value_hearHeader (number : UInt64) (l : Lookup Header) :
    (job.hearHeader number l).value view =
      job.settle number (l.map fun h => ⟨h, none, none⟩) := by
  cases l with
  | found h => exact value_conclude_some job view number ⟨h, none, none⟩
  | _ => rfl

theorem value_hearBlock (number : UInt64) :
    (job.hearBlock number (view (.block (.number number)))).value view =
      job.hear view (.awaitsBlock number) := by
  rw [hear]
  cases view (.block (.number number)) <;> rfl

theorem value_hearReceipts (number : UInt64) (block : Block) (l : Lookup (List Receipt)) :
    (job.hearReceipts number block l).value view = job.settle number (l.withBlock block) := by
  cases l with
  | absent => exact value_conclude_some job view number ⟨block.header, some block, none⟩
  | found rs => exact value_conclude_some job view number ⟨block.header, some block, some rs⟩
  | _ => rfl

/-! ## Calls of the model's steps

What follows a reply asks nothing more.
-/

theorem calls_conclude (number : UInt64) (header : Option Header) (block : Option Block)
    (receipts : Option (List Receipt)) :
    ((job.conclude number header block receipts).run view).calls = [] := by
  cases header with
  | none => rfl
  | some h =>
    simp only [conclude]
    cases processBasis job.config h (.of block receipts job.percentiles) job.percentiles with
    | error e => rfl
    | ok fees => cases RewardBasis.notice? h.number (.of block receipts job.percentiles) <;> rfl

theorem calls_begin (number : UInt64) : ((job.begin number).run view).calls = [] := by
  unfold begin
  split
  · rfl
  · cases job.pending with
    | none => rfl
    | some b =>
      simp only
      split
      · exact job.calls_conclude view number _ _ _
      · rfl

theorem calls_hearHeader (number : UInt64) (l : Lookup Header) :
    ((job.hearHeader number l).run view).calls = [] := by
  cases l with
  | absent => exact job.calls_conclude view number none none none
  | found h => exact job.calls_conclude view number (some h) none none
  | failed reason | broken => rfl

theorem calls_hearBlock (number : UInt64) (l : Lookup Block) :
    ((job.hearBlock number l).run view).calls = [] := by
  cases l with
  | absent => exact job.calls_conclude view number none none none
  | found block | failed reason | broken => rfl

theorem calls_hearReceipts (number : UInt64) (block : Block) (l : Lookup (List Receipt)) :
    ((job.hearReceipts number block l).run view).calls = [] := by
  cases l with
  | absent => exact job.calls_conclude view number (some block.header) (some block) none
  | found rs => exact job.calls_conclude view number (some block.header) (some block) (some rs)
  | failed reason | broken => rfl

end FetchJob

/-! ## Deeds -/

/-- A number, and the index of the worker that claimed it. -/
structure Claim where
  worker : Nat
  number : UInt64
deriving DecidableEq

/-- A lookup for a number, and the reply to it. -/
structure Heard where
  number : UInt64
  call : Call
  reply : Reply call

/-- What a turn adds to the history of a pool. -/
structure Deed where
  claim : Option Claim := none
  heard : Option Heard := none
  /-- The number whose worker died. -/
  lost : Option UInt64 := none

namespace Worker

/-- Whether the worker has nothing left to do. -/
def isFinished : Worker → Bool
  | .finished => true
  | _ => false

/-- The number that the worker looks up. -/
def awaited? : Worker → Option UInt64
  | .awaitsHeader n => some n
  | .awaitsBlock n => some n
  | .awaitsReceipts n _ => some n
  | _ => none

/-- The number that is in flight with the worker: looked up, or not yet deposited. -/
def number? : Worker → Option UInt64
  | .holds d => some d.number
  | w => w.awaited?

/-- The lookup that the worker makes on its turn, and the reply of a view. -/
def heard? (view : View) : Worker → Option Heard
  | .awaitsHeader n => some ⟨n, .header (.number n), view (.header (.number n))⟩
  | .awaitsBlock n => some ⟨n, .block (.number n), view (.block (.number n))⟩
  | .awaitsReceipts n block => some ⟨n, .receipts block.hash, view (.receipts block.hash)⟩
  | _ => none

/-- The number that the worker's turn is about, if the counter stands at `next`. -/
def subject? (next : UInt64) : Worker → Option UInt64
  | .cleared => some next
  | w => w.number?

/-- The deed of a turn that makes of this worker the worker `w'`. -/
def deed (w : Worker) (i : Nat) (next : UInt64) (view : View) (w' : Worker) : Deed where
  claim := match w with
    | .cleared => some ⟨i, next⟩
    | _ => none
  heard := w.heard? view
  lost := if w'.isDead then w.subject? next else none

/-- The worker works on a number, or died over it. -/
inductive WorksOn (n : UInt64) : Worker → Prop
  | dead : WorksOn n .dead
  | busy {w} : w.number? = some n → WorksOn n w

end Worker

/-- What the workers of a pool have done so far, in the order of the turns. -/
structure History where
  moves : Nat := 0
  claims : List Claim := []
  heard : List Heard := []
  lost : List UInt64 := []

namespace History

/-- The history after one more move. -/
def add (h : History) (d : Deed) : History where
  moves := h.moves + 1
  claims := h.claims ++ d.claim.toList
  heard := h.heard ++ d.heard.toList
  lost := h.lost ++ d.lost.toList

theorem moves_add (h : History) (d : Deed) : (h.add d).moves = h.moves + 1 := rfl

theorem heard_add (h : History) (d : Deed) : (h.add d).heard = h.heard ++ d.heard.toList := rfl

end History

namespace FetchPool

/-- The deed of the turn of worker `i` that leads from one pool to another. -/
def deed (p : FetchPool) (i : Nat) (view : View) (q : FetchPool) : Deed :=
  match p.workers[i]?, q.workers[i]? with
  | some w, some w' => w.deed i p.next view w'
  | _, _ => {}

/-- What the turn of worker `i` over a view can lead to, and by which deed. -/
inductive Turned (job : FetchJob) (p : FetchPool) (i : Nat) (view : View) :
    Deed → FetchPool → Prop
  | cleared (hw : p.workers[i]? = some .idle) (hc : p.cancelled = false) :
      Turned job p i view {} (p.put i .cleared)
  | dismissed (hw : p.workers[i]? = some .idle) (hc : p.cancelled = true) :
      Turned job p i view {} (p.put i .finished)
  | overshot (hw : p.workers[i]? = some .cleared) (hn : job.last < p.next) :
      Turned job p i view { claim := some ⟨i, p.next⟩ }
        { p.put i .finished with next := p.next + 1 }
  | claimed (hw : p.workers[i]? = some .cleared) (hn : p.next ≤ job.last) :
      Turned job p i view
        { claim := some ⟨i, p.next⟩
          lost := if (job.take p.next).isDead then some p.next else none }
        { p.put i (job.take p.next) with next := p.next + 1 }
  | heard {w n x} (hw : p.workers[i]? = some w) (hn : w.awaited? = some n)
      (hx : w.heard? view = some x) :
      Turned job p i view
        { heard := some x, lost := if (job.hear view w).isDead then some n else none }
        (p.put i (job.hear view w))
  | deposited {d} (hw : p.workers[i]? = some (.holds d)) :
      Turned job p i view {} { p.put i .idle with queue := p.queue ++ [d] }

end FetchPool

namespace FetchJob

variable (job : FetchJob) (view : View)

theorem worksOn_settle (number : UInt64) (l : Lookup Findings) :
    (job.settle number l).WorksOn number := by
  cases l with
  | absent => exact .busy rfl
  | failed reason => exact .busy rfl
  | broken => exact .dead
  | found f =>
    rw [settle]
    split
    · exact .dead
    · exact .busy rfl

theorem worksOn_take (number : UInt64) : (job.take number).WorksOn number := by
  unfold take
  split
  · exact job.worksOn_settle number _
  · split <;> exact .busy rfl

theorem worksOn_hear {w : Worker} {number : UInt64} (hw : w.awaited? = some number) :
    (job.hear view w).WorksOn number := by
  cases w with
  | awaitsHeader n =>
    obtain rfl : n = number := Option.some.inj hw
    exact job.worksOn_settle n _
  | awaitsBlock n =>
    obtain rfl : n = number := Option.some.inj hw
    rw [hear]
    split
    · exact job.worksOn_settle n _
    · exact .busy rfl
    · exact job.worksOn_settle n _
    · exact job.worksOn_settle n _
  | awaitsReceipts n block =>
    obtain rfl : n = number := Option.some.inj hw
    exact job.worksOn_settle n _
  | idle | cleared | holds d | finished | dead => simp [Worker.awaited?] at hw

end FetchJob

namespace FetchPool

variable {job : FetchJob} {p q : FetchPool} {i : Nat} {view : View}

@[simp] theorem workers_put (p : FetchPool) (i : Nat) (w : Worker) :
    (p.put i w).workers = p.workers.set i w := rfl

@[simp] theorem next_put (p : FetchPool) (i : Nat) (w : Worker) : (p.put i w).next = p.next := rfl

@[simp] theorem cancelled_put (p : FetchPool) (i : Nat) (w : Worker) :
    (p.put i w).cancelled = p.cancelled := rfl

@[simp] theorem queue_put (p : FetchPool) (i : Nat) (w : Worker) :
    (p.put i w).queue = p.queue := rfl

@[simp] theorem received_put (p : FetchPool) (i : Nat) (w : Worker) :
    (p.put i w).received = p.received := rfl

theorem deed_of_set {w w' : Worker} (hw : p.workers[i]? = some w)
    (hq : q.workers = p.workers.set i w') : p.deed i view q = w.deed i p.next view w' := by
  obtain ⟨hi, -⟩ := List.getElem?_eq_some_iff.1 hw
  rw [deed, hw, hq, List.getElem?_set_self hi]

theorem value_turn_of_awaited {w : Worker} {n : UInt64} (hn : w.awaited? = some n) :
    (turn job p i w).value view = p.put i (job.hear view w) := by
  cases w with
  | awaitsHeader m =>
    show Dialogue.value view (job.hearHeader m (view (.header (.number m))) >>= fun w =>
      pure (p.put i w)) = _
    rw [Dialogue.value_bind, Dialogue.value_pure, FetchJob.value_hearHeader, FetchJob.hear]
  | awaitsBlock m =>
    show Dialogue.value view (job.hearBlock m (view (.block (.number m))) >>= fun w =>
      pure (p.put i w)) = _
    rw [Dialogue.value_bind, Dialogue.value_pure, FetchJob.value_hearBlock]
  | awaitsReceipts m block =>
    show Dialogue.value view (job.hearReceipts m block (view (.receipts block.hash)) >>= fun w =>
      pure (p.put i w)) = _
    rw [Dialogue.value_bind, Dialogue.value_pure, FetchJob.value_hearReceipts, FetchJob.hear]
  | idle | cleared | holds d | finished | dead => simp [Worker.awaited?] at hn

theorem value_turn_cleared :
    (turn job p i .cleared).value view =
      { p.put i (if job.last < p.next then .finished else job.take p.next) with
        next := p.next + 1 } := by
  simp only [turn, Dialogue.value_bind, Dialogue.value_pure, FetchJob.value_begin]

/-- **Inversion of a turn.** What a turn leads to, and the deed that goes into the history. -/
theorem turned_of_step (h : p.step job (.turn i view) = some q) :
    Turned job p i view (p.deed i view q) q := by
  unfold step at h
  cases hw : p.workers[i]? with
  | none => simp [hw] at h
  | some w =>
    have awaited {n : UInt64} {x : Heard} (hn : w.awaited? = some n)
        (hx : w.heard? view = some x) (hs : w.stopped = false) :
        Turned job p i view (p.deed i view q) q := by
      simp only [hw, hs, Bool.false_eq_true, if_false, Option.some.injEq] at h
      obtain rfl : p.put i (job.hear view w) = q := (value_turn_of_awaited hn).symm.trans h
      have hd : w.deed i p.next view (job.hear view w) =
          { heard := some x, lost := if (job.hear view w).isDead then some n else none } := by
        cases w <;> simp_all [Worker.deed, Worker.subject?, Worker.number?, Worker.awaited?]
      rw [deed_of_set hw rfl, hd]
      exact .heard hw hn hx
    cases w with
    | finished | dead => simp [hw, Worker.stopped] at h
    | awaitsHeader n => exact awaited rfl rfl rfl
    | awaitsBlock n => exact awaited rfl rfl rfl
    | awaitsReceipts n block => exact awaited rfl rfl rfl
    | idle =>
      simp only [hw, Worker.stopped, Bool.false_eq_true, if_false, Option.some.injEq] at h
      obtain rfl : p.put i (if p.cancelled then .finished else .cleared) = q := h
      rw [deed_of_set hw rfl]
      cases hc : p.cancelled with
      | false => exact .cleared hw hc
      | true => exact .dismissed hw hc
    | cleared =>
      simp only [hw, Worker.stopped, Bool.false_eq_true, if_false, Option.some.injEq] at h
      have hq := value_turn_cleared.symm.trans h
      by_cases hn : job.last < p.next
      · rw [if_pos hn] at hq
        subst hq
        rw [deed_of_set hw rfl]
        exact .overshot hw hn
      · rw [if_neg hn] at hq
        subst hq
        rw [deed_of_set hw rfl]
        exact .claimed hw (UInt64.not_lt.1 hn)
    | holds d =>
      simp only [hw, Worker.stopped, Bool.false_eq_true, if_false, Option.some.injEq] at h
      obtain rfl : { p.put i .idle with queue := p.queue ++ [d] } = q := h
      rw [deed_of_set hw rfl]
      exact .deposited hw

theorem heard_deed_of_step {w : Worker} (hw : p.workers[i]? = some w)
    (h : p.step job (.turn i view) = some q) : (p.deed i view q).heard = w.heard? view := by
  obtain ⟨d, hd⟩ : ∃ d, p.deed i view q = d := ⟨_, rfl⟩
  have ht := turned_of_step h
  rw [hd] at ht ⊢
  cases ht with
  | cleared hv | dismissed hv | overshot hv | claimed hv | deposited hv =>
    obtain rfl := Option.some.inj (hw.symm.trans hv)
    rfl
  | heard hv hn hx =>
    obtain rfl := Option.some.inj (hw.symm.trans hv)
    exact hx.symm

/-- What a turn asks of the chain is what goes into the history. -/
theorem calls_turn (w : Worker) :
    ((turn job p i w).run view).calls = (w.heard? view).toList.map Heard.call := by
  cases w with
  | idle | holds d | finished | dead => rfl
  | cleared =>
    rw [turn, Dialogue.calls_bind, FetchJob.calls_begin]
    rfl
  | awaitsHeader n =>
    show _ :: ((job.hearHeader n (view (.header (.number n))) >>= fun w =>
      pure (p.put i w) : Dialogue FetchPool).run view).calls = _
    rw [Dialogue.calls_bind, FetchJob.calls_hearHeader]
    rfl
  | awaitsBlock n =>
    show _ :: ((job.hearBlock n (view (.block (.number n))) >>= fun w =>
      pure (p.put i w) : Dialogue FetchPool).run view).calls = _
    rw [Dialogue.calls_bind, FetchJob.calls_hearBlock]
    rfl
  | awaitsReceipts n block =>
    show _ :: ((job.hearReceipts n block (view (.receipts block.hash)) >>= fun w =>
      pure (p.put i w) : Dialogue FetchPool).run view).calls = _
    rw [Dialogue.calls_bind, FetchJob.calls_hearReceipts]
    rfl

end FetchPool

end FeeMarket
