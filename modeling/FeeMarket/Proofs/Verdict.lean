import FeeMarket.Proofs.FirstFault
import FeeMarket.Proofs.FixedChain

/-!
# The verdict of a range

If no lookup fails, a number of a range has a fault just if the fees of its block cannot be
computed, and whichever worker dies of that, the reason is the same. So all runs come to one thing.

**Verdict** (`FetchJob.verdict`). The reason of the first fault, and the sequential reference
without a fault. A settled run that heard no lookup fail comes to it, whatever its schedule
(`Reached.outcome_conclude`).

So over a chain that does not fail there is one thing that a query comes to: what stopped its plan,
the empty history, or the verdict of its window.
-/

namespace FeeMarket

namespace FetchJob

variable {job : FetchJob} {answers : UInt64 → View} {n : UInt64}

/-- What the answers say of the range. -/
def verdict (job : FetchJob) (answers : UInt64 → View) : Except Stop FeeHistory :=
  match job.firstFault? answers with
  | none => (job.reference answers).mapError .crashed
  | some reason => .error (.refused (.fetch reason))

/-- Why a lookup leaves its number without a sample. -/
def failure? (job : FetchJob) : Lookup Findings → Option String
  | .absent => none
  | .found f =>
    match job.process f with
    | .ok _ => none
    | .error _ => some "Block fee fetcher failed"
  | .failed reason => some reason
  | .broken => some "Block fee fetcher failed"

theorem fault?_eq (job : FetchJob) (answers : UInt64 → View) (n : UInt64) :
    job.fault? answers n = job.failure? (job.lookUp (answers n) n) := by
  cases hl : job.lookUp (answers n) n with
  | absent | failed reason =>
    rw [fault?_of_holds (by rw [hl]; rfl)]
    rfl
  | broken => exact fault?_of_dead (by rw [hl]; rfl)
  | found f =>
    rw [failure?, process]
    rw [fault?, hl, settle]
    cases processBlock job.config f.header f.block f.receipts job.percentiles <;> rfl

theorem reason_of_fault {reason : String} (sound : ∀ c, ¬ (Reply.status c (answers n c)).Fails)
    (h : job.fault? answers n = some reason) : reason = "Block fee fetcher failed" := by
  rw [fault?_eq] at h
  cases hl : job.lookUp (answers n) n with
  | absent =>
    rw [hl] at h
    cases h
  | found f =>
    rw [hl, failure?] at h
    split at h
    · cases h
    · exact (Option.some.inj h).symm
  | failed r | broken =>
    have hfails : (job.lookUp (answers n) n).Fails := by
      rw [hl]
      trivial
    obtain ⟨c, hc⟩ := status_of_lookUp_fails hfails
    refine absurd ?_ (sound c)
    rw [hc, hl]
    trivial

end FetchJob

open FetchPool (Reached)

/-- **All runs come to the verdict.** -/
theorem FetchPool.Reached.outcome_conclude {job : FetchJob} {enough : List Deposit → Bool} {n : Nat}
    {h : History} {p : FetchPool} {answers : UInt64 → View} (hn : 0 < n)
    (hl : job.oldest ≤ job.last) (room : job.last.toNat + n < UInt64.size)
    (hr : Reached job enough (.start job n) h p) (hs : p.Settled (Oracle.satisfied job.size))
    (hf : h.Follows answers) (sound : ∀ n c, ¬ (Reply.status c (answers n c)).Fails) (view : View) :
    (Oracle.conclude job job.size p).outcome view = job.verdict answers := by
  rw [FetchJob.verdict]
  cases hfirst : job.firstFault? answers with
  | none =>
    obtain ⟨history, href, hconclude⟩ := hr.answered_of_faultless hn hl room hs hf hfirst
    rw [hconclude view, href]
    rfl
  | some reason =>
    obtain ⟨m, -, hfault⟩ := List.exists_of_findSome?_eq_some hfirst
    rw [FetchJob.reason_of_fault (sound m) hfault]
    -- The run is short: it is refused, and not because of a lookup that failed.
    have hnone := hr.no_failure hl room (hf.heard_sound sound)
    rcases (Tally.of_reached hl room hr).full_or_dead hn hs hnone with hfull | ⟨hshort, hdead⟩
    · obtain ⟨reason', hrefused⟩ := hr.refused_of_fault hl room hf hfirst
      cases (Oracle.outcome_conclude_of_full hnone hfull).symm.trans (hrefused view)
    · rw [Oracle.outcome_conclude_of_short hnone hshort, FetchPool.explain_of_dead hdead]

namespace Oracle

variable {o : Oracle} {view : View} {count : UInt64} {last : Selector} {percentiles : List Float}
  {window : Window}

theorem comesTo_of_stop {stop : Stop}
    (planned : (o.plan count last percentiles).outcome view = .error stop) :
    o.ComesTo view count last percentiles (.error stop) :=
  ⟨outcome_feeHistory_of_stop planned, yields_iff_of_stop planned⟩

theorem comesTo_empty (planned : (o.plan count last percentiles).outcome view = .ok window)
    (empty : window.isEmpty = true) : o.ComesTo view count last percentiles (.ok .empty) :=
  ⟨(answers_empty planned empty).answered, (answers_empty planned empty).only⟩

/-- **Only the verdict.** -/
theorem comesTo_verdict (planned : (o.plan count last percentiles).outcome view = .ok window)
    (nonempty : window.isEmpty = false)
    (room : window.last.toNat + o.workers window < UInt64.size)
    (fits : window.count.toNat ≤ maxQueueLength)
    (sound : ∀ c, ¬ (Reply.status c (view c)).Fails) :
    o.ComesTo view count last percentiles
      ((o.job window percentiles).verdict fun _ => view) := by
  obtain ⟨-, -, hn, hl, hsize⟩ := startable planned nonempty room
  have room' : (o.job window percentiles).last.toNat + o.workers window < UInt64.size := room
  refine comesTo_of_runs planned nonempty room fits fun hr hs hf => ?_
  rw [← hsize] at hr hs ⊢
  exact hr.outcome_conclude hn hl room' hs hf (fun _ => sound) view

end Oracle

end FeeMarket
