import FeeMarket.Proofs.FixedChain
import FeeMarket.Proofs.Guarded
import FeeMarket.Proofs.Refusal

/-!
# No query faults

**Unbroken** (`View.Unbroken`). The reader of a chain may fail, but it does not break down.

**Faultless runs** (`FetchPool.Faultless`). No worker died, every deposit that was received has a
slot that can be found by a checked difference, the number of the first missing block is a word, and
what the consumer makes of the pool is an answer or an error.

**Faultless queries** (`Oracle.Faultless`). The parameters of an oracle rule out the divisions by
zero in the base fee rule, and the length of the lists the places that they do not have; the window
of a query rules out the differences below zero. So with room above the window, receipts that are
metered and a reader that does not break down, nothing of a query faults, and no estimate after it
does (`queries_faultless`). The blocks may be of any number, the gas limits zero, the base fees
absent and the receipts of any length.
-/

namespace FeeMarket

/-- No lookup of the chain breaks down. -/
def View.Unbroken (view : View) : Prop := ∀ c, Reply.status c (view c) ≠ .broken

theorem View.Unbroken.header {view : View} (h : view.Unbroken) (selector : Selector) :
    view (.header selector) ≠ .broken := by
  intro hbroken
  refine h (.header selector) ?_
  rw [hbroken]
  rfl

theorem View.Unbroken.finalized {view : View} (h : view.Unbroken) : view .finalized ≠ .broken := by
  intro hbroken
  refine h .finalized ?_
  rw [hbroken]
  rfl

/-- Nothing of a run faults. -/
structure FetchPool.Faultless (p : FetchPool) (job : FetchJob) (count : Nat) : Prop where
  alive : .dead ∉ p.workers
  /-- No number that was received is below the oldest one. -/
  placed : Guarded.slots job.oldest count p.received =
    .ok (FeeHistory.slots job.oldest count p.received)
  missing : Guarded.firstMissing job.oldest (FeeHistory.slots job.oldest count p.received) =
    .ok (job.oldest + UInt64.ofNat
      (FeeHistory.leading (FeeHistory.slots job.oldest count p.received)).length)
  concluded : ∀ view fault, (Oracle.conclude job count p).outcome view ≠ .error (.crashed fault)

open FetchPool (Reached)

theorem FetchPool.Reached.faultless {job : FetchJob} {enough : List Deposit → Bool} {n : Nat}
    {h : History} {p : FetchPool} (valid : job.config.Valid) (hn : 0 < n)
    (hl : job.oldest ≤ job.last) (room : job.last.toNat + n < UInt64.size)
    (hr : Reached job enough (.start job n) h p) (metered : job.Metered h.answers)
    (unbroken : ∀ x ∈ h.heard, x.status ≠ .broken) : p.Faultless job job.size where
  alive := by
    intro hdead
    obtain ⟨x, hx, hbroken⟩ := hr.heard_of_dead valid hl room metered hdead
    exact unbroken x hx hbroken
  placed := by
    refine Guarded.slots_eq _ fun d hd => ?_
    have hmem : d.number ∈ p.deposited :=
      List.mem_map.2 ⟨d, List.mem_append_left _ hd, rfl⟩
    exact (FetchJob.mem_numbers.1 ((Tally.of_reached hl room hr).mem_numbers_of_deposited hmem)).1
  missing := by
    refine Guarded.firstMissing_eq ?_
    have hl' := UInt64.le_iff_toNat_le.1 hl
    rw [FeeHistory.slots, FeeHistory.length_foldl_place, List.length_replicate, FetchJob.size]
    omega
  concluded := by
    intro view fault houtcome
    obtain ⟨reason, hreason⟩ := Oracle.fetch_of_conclude houtcome
    cases hreason

namespace Oracle

/-- There is room for the workers above every window of the query, and for its blocks in a queue. -/
def Roomy (o : Oracle) (count : UInt64) (last : Selector) (percentiles : List Float) (view : View) :
    Prop :=
  ∀ window, (o.plan count last percentiles).outcome view = .ok window →
    window.last.toNat + o.workers window < UInt64.size ∧ window.count.toNat ≤ maxQueueLength

/-- Nothing of a query faults. -/
structure Faultless (o : Oracle) (count : UInt64) (last : Selector) (percentiles : List Float)
    (view : View) : Prop where
  planned : ∀ fault, (o.plan count last percentiles).outcome view ≠ .error (.crashed fault)
  started : ∀ {window}, (o.plan count last percentiles).outcome view = .ok window →
    window.isEmpty = false → ∀ v, (o.start window percentiles).outcome v =
      .ok (o.job window percentiles, .start (o.job window percentiles) (o.workers window))
  processed : ∀ header block {receipts}, (∀ rs, receipts = some rs → gasOf rs < UInt64.size) →
    ∃ fees, Guarded.processBlock o.chain header block receipts percentiles = .ok fees
  /-- The chain may change at every turn, as long as the reader does not break down. -/
  covered : ∀ {window h p}, (o.plan count last percentiles).outcome view = .ok window →
    window.isEmpty = false →
    Reached (o.job window percentiles) (satisfied window.count.toNat)
      (.start (o.job window percentiles) (o.workers window)) h p →
    (o.job window percentiles).Metered h.answers → (∀ x ∈ h.heard, x.status ≠ .broken) →
    p.Faultless (o.job window percentiles) window.count.toNat
  /-- The run of the program over a metered chain. -/
  driven : view.Metered → (∀ b, view .pending = some b → gasOf b.receipts < UInt64.size) →
    ∀ {window}, (o.plan count last percentiles).outcome view = .ok window →
      window.isEmpty = false → ∃ p, p.Faultless (o.job window percentiles) window.count.toNat ∧
        (o.feeHistory count last percentiles).outcome view =
          (conclude (o.job window percentiles) window.count.toNat p).outcome view
  answered : ∀ fault, (o.feeHistory count last percentiles).outcome view ≠ .error (.crashed fault)
  estimated : ∀ history, ∃ result, Guarded.ofHistory history = Guarded.given result

variable {o : Oracle} {count : UInt64} {last : Selector} {percentiles : List Float} {view : View}
  {window : Window} {fault : Fault}

theorem faultless_of_reached {h : History} {p : FetchPool}
    (roomy : o.Roomy count last percentiles view)
    (planned : (o.plan count last percentiles).outcome view = .ok window)
    (nonempty : window.isEmpty = false)
    (hr : Reached (o.job window percentiles) (satisfied window.count.toNat)
      (.start (o.job window percentiles) (o.workers window)) h p)
    (metered : (o.job window percentiles).Metered h.answers)
    (unbroken : ∀ x ∈ h.heard, x.status ≠ .broken) :
    p.Faultless (o.job window percentiles) window.count.toNat := by
  have room : (o.job window percentiles).last.toNat + o.workers window < UInt64.size :=
    (roomy window planned).1
  obtain ⟨-, -, hn, hl, hsize⟩ := startable planned nonempty room
  rw [← hsize] at hr ⊢
  exact hr.faultless o.chain_valid hn hl room metered unbroken

theorem crashed_ne_of_plan (unbroken : view.Unbroken) :
    (o.plan count last percentiles).outcome view ≠ .error (.crashed fault) := by
  intro hcrash
  rcases halts_or_resolves o count last percentiles (unbroken.header .latest)
    unbroken.finalized with ⟨e, asked, halts⟩ | ⟨window, planned⟩
  · cases hcrash.symm.trans halts.plan_eq.1
  · cases hcrash.symm.trans planned

/-- What ends a transcript with a fault came before the workers. -/
theorem crashed_ne_of_unfolds {t : Transcript} (unbroken : view.Unbroken)
    (roomy : o.Roomy count last percentiles view)
    (unfolds : o.Unfolds count last percentiles view t) : t.outcome ≠ .error (.crashed fault) := by
  intro hcrash
  cases unfolds with
  | stopped planned =>
    cases hcrash
    exact crashed_ne_of_plan unbroken planned
  | nothing => cases hcrash
  | unstarted planned nonempty started =>
    obtain ⟨room, fits⟩ := roomy _ planned
    obtain ⟨hc, hlast, -⟩ := startable planned nonempty room
    cases (outcome_start o percentiles nonempty hc hlast fits).symm.trans started
  | covered =>
    obtain ⟨reason, hreason⟩ := fetch_of_conclude hcrash
    cases hreason

end Oracle

open Oracle

/-- **Queries are faultless.** -/
theorem queries_faultless (o : Oracle) (count : UInt64) (last : Selector) (percentiles : List Float)
    {view : View} (unbroken : view.Unbroken) (roomy : o.Roomy count last percentiles view) :
    o.Faultless count last percentiles view where
  planned := fun _ => crashed_ne_of_plan unbroken
  started := by
    intro window planned nonempty v
    obtain ⟨room, fits⟩ := roomy window planned
    obtain ⟨hc, hlast, -⟩ := startable planned nonempty room
    exact outcome_start o percentiles nonempty hc hlast fits
  processed := by
    intro header block receipts hgas
    obtain ⟨fees, hfees⟩ := processBlock_total o.chain_valid header block percentiles hgas
    exact ⟨fees, (Guarded.processBlock_eq ..).trans hfees⟩
  covered := faultless_of_reached roomy
  driven := by
    intro metered hp window planned nonempty
    obtain ⟨room, fits⟩ := roomy window planned
    obtain ⟨h, p, reached, -, follows, houtcome⟩ := feeHistory_reached planned nonempty room fits
    refine ⟨p, faultless_of_reached roomy planned nonempty reached ?_ ?_, houtcome⟩
    · refine FetchJob.metered_of_view metered (fun b hb => ?_) follows
      exact hp b (pending_of_plan planned hb).1
    · intro x hx hbroken
      rw [Heard.status, follows x hx] at hbroken
      exact unbroken x.call hbroken
  answered := by
    intro fault
    obtain ⟨received, unfolds⟩ := unfolds_feeHistory o count last percentiles view
    exact crashed_ne_of_unfolds unbroken roomy unfolds
  estimated := fun history => ⟨_, Guarded.ofHistory_eq history⟩

/-- A chain without gas limits and base fees, whose blocks are all number 7 and lack a receipt. -/
def crooked : View
  | .header .latest => .found ⟨2, 0, 0, 5, none⟩
  | .block (.number _) => .found ⟨⟨7, 0, 0, 5, none⟩, [⟨0, 1⟩, ⟨0, 2⟩]⟩
  | .receipts _ => .found [⟨0, 0xFFFFFFFFFFFFFFFF⟩]
  | c => Reply.nothing c

/-- Its rows cannot be computed, and nothing faults. -/
theorem queries_faultless_over_crooked :
    crooked.Unbroken ∧ standard.Roomy 3 .latest [50] crooked ∧
      standard.Faultless 3 .latest [50] crooked := by
  have unbroken : crooked.Unbroken := by
    intro c hbroken
    rcases c with (n | _ | _ | _) | (n | _ | _ | _) | hash | _ | _ <;> cases hbroken
  have roomy : standard.Roomy 3 .latest [50] crooked := by
    intro window planned
    obtain rfl : ⟨none, 2, 3⟩ = window := Except.ok.inj planned
    decide
  exact ⟨unbroken, roomy, queries_faultless standard 3 .latest [50] unbroken roomy⟩

end FeeMarket
