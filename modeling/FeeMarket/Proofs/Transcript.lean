import FeeMarket.Proofs.Schedule

/-!
# What is seen of a query

**Transcript.** The calls that a query makes, in order, the deposits that its consumer receives, and
what the query comes to.

**Unfolds** (`Oracle.Unfolds`). The transcripts that a query can have. The one who asks looks up the
end of the window over one view. Then the workers and the consumer take turns in any order, and the
chain may be another one at every turn. The consumer may stop at any moment, also before it has
enough, so these are more runs than there are; what holds of all of them holds of those.

A query of the program over a chain that does not change has such a transcript
(`unfolds_feeHistory`), however close to the largest word its window ends.
-/

namespace FeeMarket

open FetchPool (Reached)

/-- What is seen of a query. -/
structure Transcript where
  calls : List Call
  received : List Deposit
  outcome : Except Stop FeeHistory

namespace Oracle

/-- The transcripts of a query. The view is that of the one who asks; the workers see the chain as
it is at their turns. -/
inductive Unfolds (o : Oracle) (count : UInt64) (last : Selector) (percentiles : List Float)
    (view : View) : Transcript → Prop
  | stopped {stop} : (o.plan count last percentiles).outcome view = .error stop →
      Unfolds o count last percentiles view
        ⟨(o.plan count last percentiles).calls view, [], .error stop⟩
  | nothing {window} : (o.plan count last percentiles).outcome view = .ok window →
      window.isEmpty = true → Unfolds o count last percentiles view
        ⟨(o.plan count last percentiles).calls view, [], .ok .empty⟩
  | unstarted {window stop} : (o.plan count last percentiles).outcome view = .ok window →
      window.isEmpty = false → (o.start window percentiles).outcome view = .error stop →
      Unfolds o count last percentiles view
        ⟨(o.plan count last percentiles).calls view, [], .error stop⟩
  | covered {window job pool h p} : (o.plan count last percentiles).outcome view = .ok window →
      window.isEmpty = false → (o.start window percentiles).outcome view = .ok (job, pool) →
      Reached job (satisfied window.count.toNat) pool h p →
      Unfolds o count last percentiles view
        ⟨(o.plan count last percentiles).calls view ++ h.heard.map Heard.call, p.received,
          (conclude job window.count.toNat p).outcome view⟩

variable {o : Oracle} {count : UInt64} {last : Selector} {percentiles : List Float}
  {window : Window} {view : View}

/-! ## Stages that ask nothing -/

theorem calls_spawn (job : FetchJob) (maxFetchers : UInt64) :
    (job.spawn maxFetchers).calls view = [] := by
  unfold FetchJob.spawn
  rw [Query.calls_bind, Query.calls_checked, Query.outcome_checked, List.nil_append]
  cases job.length with
  | error fault => rfl
  | ok length =>
    show Query.calls view (if maxQueueLength < length.toNat then _ else _) = _
    split <;> rfl

theorem calls_start (o : Oracle) (window : Window) (percentiles : List Float) :
    (o.start window percentiles).calls view = [] := by
  unfold start
  rw [Query.calls_bind, Query.calls_checked, Query.outcome_checked, List.nil_append]
  cases window.oldest with
  | error fault => rfl
  | ok oldest =>
    simp only [Except.mapError, Query.calls_bind, Query.calls_notice, Query.outcome_notice,
      calls_spawn, Query.calls_pure, List.nil_append]
    split <;> rfl

theorem calls_assemble (oldest : UInt64) (percentiles : List Float)
    (slots : List (Option ProcessedFees)) :
    (assemble oldest percentiles slots).calls view = [] := by
  unfold assemble
  cases FeeHistory.leading slots with
  | nil => rfl
  | cons fees rest =>
    simp only [List.isEmpty_cons, Bool.false_eq_true, if_false]
    split <;> rfl

theorem calls_release (n : Nat) : ((FetchPool.release n).run view).calls = [] := by
  unfold FetchPool.release
  split <;> rfl

theorem calls_gather (oldest : UInt64) (count : Nat) (pool : FetchPool) :
    (gather oldest count pool).calls view = [] := by
  unfold gather
  cases pool.received.findSome? Deposit.failure? with
  | some reason =>
    simp only [Query.calls_bind, Query.calls_monadLift, calls_release, outcome_release,
      Query.calls_refuse, List.nil_append]
  | none =>
    simp only
    split <;>
      simp only [Query.calls_bind, Query.calls_monadLift, calls_release, outcome_release,
        Query.calls_refuse, Query.calls_pure, List.nil_append]

theorem calls_conclude (job : FetchJob) (count : Nat) (pool : FetchPool) :
    (conclude job count pool).calls view = [] := by
  unfold conclude
  rw [Query.calls_bind, calls_gather, List.nil_append]
  cases (gather job.oldest count pool).outcome view with
  | error stop => rfl
  | ok slots => exact calls_assemble _ _ _

/-! ## Starting and stopping -/

theorem crashed_of_spawn {job : FetchJob} {maxFetchers : UInt64} {stop : Stop}
    (h : (job.spawn maxFetchers).outcome view = .error stop) : ∃ fault, stop = .crashed fault := by
  unfold FetchJob.spawn at h
  rw [Query.outcome_bind, Query.outcome_checked] at h
  cases hlength : job.length with
  | error fault =>
    rw [hlength] at h
    exact ⟨fault, (Except.error.inj h).symm⟩
  | ok length =>
    rw [hlength] at h
    simp only [Except.mapError, Except.bind] at h
    split at h
    · exact ⟨.queueTooLong, (Except.error.inj h).symm⟩
    · cases h

theorem crashed_of_start {stop : Stop}
    (h : (o.start window percentiles).outcome view = .error stop) :
    ∃ fault, stop = .crashed fault := by
  unfold start at h
  rw [Query.outcome_bind, Query.outcome_checked] at h
  cases holdest : window.oldest with
  | error fault =>
    rw [holdest] at h
    exact ⟨fault, (Except.error.inj h).symm⟩
  | ok oldest =>
    rw [holdest] at h
    simp only [Except.mapError, Except.bind, Query.outcome_bind, Query.outcome_notice] at h
    split at h
    · rename_i hspawn
      obtain rfl := Except.error.inj h
      exact crashed_of_spawn hspawn
    · cases h

/-- What a window is started with, however close to the largest word it ends. -/
theorem exists_of_start {job : FetchJob} {pool : FetchPool}
    (h : (o.start window percentiles).outcome view = .ok (job, pool)) :
    ∃ oldest n, job = ⟨o.chain, percentiles, window.pending, oldest, window.last⟩ ∧
      pool = .start job n := by
  unfold start at h
  rw [Query.outcome_bind, Query.outcome_checked] at h
  cases holdest : window.oldest with
  | error fault =>
    rw [holdest] at h
    cases h
  | ok oldest =>
    rw [holdest] at h
    simp only [Except.mapError, Except.bind, Query.outcome_bind, Query.outcome_notice] at h
    split at h
    · cases h
    · rename_i spawned hspawn
      obtain ⟨-, -, rfl⟩ := FetchJob.outcome_spawn_eq_ok.1 hspawn
      cases h
      exact ⟨oldest, _, rfl, rfl⟩

theorem fetch_of_conclude {job : FetchJob} {n : Nat} {p : FetchPool} {stop : Stop}
    (h : (conclude job n p).outcome view = .error stop) :
    ∃ reason, stop = .refused (.fetch reason) := by
  cases hfirst : p.received.findSome? Deposit.failure? with
  | some reason =>
    rw [outcome_conclude_of_failure hfirst] at h
    exact ⟨reason, (Except.error.inj h).symm⟩
  | none =>
    rcases Nat.lt_or_ge p.received.length n with hshort | hfull
    · rw [outcome_conclude_of_short hfirst hshort] at h
      exact ⟨_, (Except.error.inj h).symm⟩
    · rw [outcome_conclude_of_full hfirst hfull] at h
      cases h

/-! ## The query of the program -/

theorem calls_feeHistory (o : Oracle) (count : UInt64) (last : Selector)
    (percentiles : List Float) :
    (o.feeHistory count last percentiles).calls view =
      (o.collect count last percentiles).calls view := by
  show (Dialogue.run view (Dialogue.notice .queryReceived >>= fun _ =>
    (o.collect count last percentiles).run >>= _)).calls = _
  rw [Dialogue.calls_bind, Dialogue.calls_bind, Query.calls]
  rcases (o.collect count last percentiles).run.value view with (e | fault) | history <;>
    exact List.append_nil _

theorem calls_cover {job : FetchJob} {pool : FetchPool}
    (started : (o.start window percentiles).outcome view = .ok (job, pool)) :
    (o.cover window percentiles).calls view =
      ((job.drive (satisfied window.count.toNat) pool).run view).calls := by
  unfold cover
  simp only [Query.calls_bind, calls_start, started, Query.calls_monadLift,
    Query.outcome_monadLift, calls_conclude, List.nil_append, List.append_nil]

/-- Covering a window is one way for the workers and the consumer to take turns. -/
theorem unfolds_cover (planned : (o.plan count last percentiles).outcome view = .ok window)
    (nonempty : window.isEmpty = false) :
    ∃ received, o.Unfolds count last percentiles view
      ⟨(o.plan count last percentiles).calls view ++ (o.cover window percentiles).calls view,
        received, (o.cover window percentiles).outcome view⟩ := by
  cases started : (o.start window percentiles).outcome view with
  | error stop =>
    have hcalls : (o.cover window percentiles).calls view = [] := by
      rw [cover, Query.calls_bind, calls_start, started]
      rfl
    have houtcome : (o.cover window percentiles).outcome view = .error stop := by
      rw [cover, Query.outcome_bind, started]
      rfl
    rw [hcalls, houtcome, List.append_nil]
    exact ⟨[], .unstarted planned nonempty started⟩
  | ok pair =>
    obtain ⟨job, pool⟩ := pair
    have nothing : ({} : History).Follows fun _ => view := by simp [History.Follows]
    have begun : Reached job (satisfied window.count.toNat) pool {} pool := .start
    obtain ⟨h, reached, -, hcalls, -⟩ :=
      FetchPool.driveFor_reached (job.moveBound pool.workers.length) begun nothing
    have hdrive : ((job.drive (satisfied window.count.toNat) pool).run view).calls =
        h.heard.map Heard.call := hcalls.symm
    refine ⟨((job.drive (satisfied window.count.toNat) pool).value view).received, ?_⟩
    rw [calls_cover started, outcome_cover started, hdrive]
    exact .covered planned nonempty started reached

/-- **The query of the program has a transcript.** -/
theorem unfolds_feeHistory (o : Oracle) (count : UInt64) (last : Selector)
    (percentiles : List Float) (view : View) :
    ∃ received, o.Unfolds count last percentiles view
      ⟨(o.feeHistory count last percentiles).calls view, received,
        (o.feeHistory count last percentiles).outcome view⟩ := by
  rw [calls_feeHistory, outcome_feeHistory, collect, Query.calls_bind, Query.outcome_bind]
  cases planned : (o.plan count last percentiles).outcome view with
  | error stop =>
    simp only [Except.bind, List.append_nil]
    exact ⟨[], .stopped planned⟩
  | ok window =>
    simp only [Except.bind]
    cases hempty : window.isEmpty with
    | true =>
      simp only [if_true, Query.calls_pure, Query.outcome_pure, List.append_nil]
      exact ⟨[], .nothing planned hempty⟩
    | false =>
      simp only [Bool.false_eq_true, if_false]
      exact unfolds_cover planned hempty

end Oracle

end FeeMarket
