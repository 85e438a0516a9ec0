import FeeMarket.Proofs.FetchPool.Distribution
import FeeMarket.Proofs.FetchPool.Progress
import FeeMarket.Proofs.Reference
import FeeMarket.Proofs.Window

/-!
# The schedule does not matter

A query that covers a window is a run of its workers and its consumer, interleaved in any order,
over a chain that may change at every turn. `schedule_independent` says what all such runs have in
common.

* A run ends. It makes at most so many moves, and while it is not settled a move is possible.
* If no lookup of the run failed, the answer is the sequential reference over the answers.
* If one failed, the query is refused with the reason of a failed lookup, or because a broken reader
  killed a worker.

So the answer is a function of the replies. The proof puts together the tally of the numbers, which
says that a settled run without failures has received every number once; the course of the workers,
which says what each deposit is; and the slots, which do not remember the order of arrival.

The driver is one of these runs, which gives the answer of a whole query over a fixed chain
(`outcome_feeHistory`).
-/

namespace FeeMarket

namespace FetchPool

theorem explain_of_dead {p : FetchPool} (h : .dead ∈ p.workers) :
    p.explain.1 = "Block fee fetcher failed" := by
  unfold explain
  cases hf : p.workers.findIdx? Worker.isDead with
  | some i => rfl
  | none => simpa [Worker.isDead] using List.findIdx?_eq_none_iff.1 hf _ h

end FetchPool

namespace Oracle

variable {view : View} {count : Nat} {p : FetchPool} {job : FetchJob}

/-! ## What the consumer makes of a pool -/

theorem outcome_release (n : Nat) :
    Query.outcome view (monadLift (FetchPool.release n) : Query Unit) = .ok () :=
  Query.outcome_monadLift view _

theorem outcome_assemble (oldest : UInt64) (percentiles : List Float)
    (slots : List (Option ProcessedFees)) :
    (assemble oldest percentiles slots).outcome view =
      .ok (.ofFees oldest (FeeHistory.leading slots) (!percentiles.isEmpty)) := by
  unfold assemble
  cases hfees : FeeHistory.leading slots with
  | nil => rfl
  | cons fees rest =>
    simp only [List.isEmpty_cons, Bool.false_eq_true, if_false]
    split <;> rfl

theorem outcome_conclude_of_failure {reason : String}
    (h : p.received.findSome? Deposit.failure? = some reason) :
    (conclude job count p).outcome view = .error (.refused (.fetch reason)) := by
  unfold conclude gather
  simp only [h, Query.outcome_bind, outcome_release, Query.outcome_refuse, Except.bind]

theorem outcome_conclude_of_short (h : p.received.findSome? Deposit.failure? = none)
    (hshort : p.received.length < count) :
    (conclude job count p).outcome view = .error (.refused (.fetch p.explain.1)) := by
  unfold conclude gather
  simp only [h, if_pos hshort, Query.outcome_bind, outcome_release, Query.outcome_refuse,
    Except.bind]

theorem outcome_conclude_of_full (h : p.received.findSome? Deposit.failure? = none)
    (hfull : count ≤ p.received.length) :
    (conclude job count p).outcome view =
      .ok (.ofFees job.oldest
        (FeeHistory.leading (FeeHistory.slots job.oldest count p.received))
        (!job.percentiles.isEmpty)) := by
  unfold conclude gather
  simp only [h, if_neg (Nat.not_lt.2 hfull), Query.outcome_bind, outcome_release,
    Query.outcome_pure, Except.bind, outcome_assemble]

/-- **Inversion of concluding.** There is an answer only once all was received and nothing failed. -/
theorem outcome_conclude_eq_ok {history : FeeHistory}
    (h : (conclude job count p).outcome view = .ok history) :
    p.received.findSome? Deposit.failure? = none ∧ count ≤ p.received.length ∧
      history = .ofFees job.oldest
        (FeeHistory.leading (FeeHistory.slots job.oldest count p.received))
        (!job.percentiles.isEmpty) := by
  cases hfirst : p.received.findSome? Deposit.failure? with
  | some reason =>
    rw [outcome_conclude_of_failure hfirst] at h
    cases h
  | none =>
    rcases Nat.lt_or_ge p.received.length count with hshort | hfull
    · rw [outcome_conclude_of_short hfirst hshort] at h
      cases h
    · rw [outcome_conclude_of_full hfirst hfull] at h
      exact ⟨rfl, hfull, (Except.ok.inj h).symm⟩

end Oracle

/-! ## Settled runs -/

section Settled

open FetchPool (Reached)

variable {job : FetchJob} {n : Nat} {enough : List Deposit → Bool} {h : History} {p : FetchPool}
  {view : View}

theorem Deposit.failure?_eq_some {d : Deposit} {reason : String} :
    d.failure? = some reason ↔ d.outcome = .error reason := by
  unfold Deposit.failure?
  cases d.outcome <;> simp

theorem FetchPool.Reached.heard_of_failure (hl : job.oldest ≤ job.last)
    (room : job.last.toNat + n < UInt64.size) (hr : Reached job enough (.start job n) h p)
    {d : Deposit} (hd : d ∈ p.received) {reason : String} (hf : d.failure? = some reason) :
    ∃ x ∈ h.heard, x.status = .failed reason := by
  have ho := OnCourse.of_reached hr (Asked.of_reached hl room hr).follows_answers
  have hsettle := ho.deposits d (List.mem_append_left _ hd)
  have hfailed := FetchJob.settle_eq_error hsettle (Deposit.failure?_eq_some.1 hf)
  obtain ⟨x, hx, -, hs⟩ := History.heard_of_lookUp_fails (n := d.number) (by rw [hfailed]; trivial)
  exact ⟨x, hx, hs.trans (by rw [hfailed]; rfl)⟩

theorem FetchPool.Reached.heard_of_dead (valid : job.config.Valid) (hl : job.oldest ≤ job.last)
    (room : job.last.toNat + n < UInt64.size) (hr : Reached job enough (.start job n) h p)
    (hm : job.Metered h.answers) (hdead : .dead ∈ p.workers) :
    ∃ x ∈ h.heard, x.status = .broken := by
  have ho := OnCourse.of_reached hr (Asked.of_reached hl room hr).follows_answers
  obtain ⟨m, hm'⟩ := (Tally.of_reached hl room hr).exists_lost_of_dead hdead
  have hbroken := hm.broken_of_dead valid (ho.lost m hm')
  obtain ⟨x, hx, -, hs⟩ := History.heard_of_lookUp_fails (n := m) (by rw [hbroken]; trivial)
  exact ⟨x, hx, hs.trans (by rw [hbroken]; rfl)⟩

theorem Tally.received_perm (ht : Tally job n h p) (hfull : job.size ≤ p.received.length) :
    (p.received.map Deposit.number).Perm job.numbers := by
  have hplaces := ht.length_places
  have hdeposited : p.deposited.length = p.received.length + p.queue.length := by
    simp [FetchPool.deposited]
  have hlost : h.lost = [] := List.length_eq_zero_iff.1 (by omega)
  have hflight : p.inFlight = [] := List.length_eq_zero_iff.1 (by omega)
  have hqueue : p.queue = [] := List.length_eq_zero_iff.1 (by omega)
  have hmin : min h.claims.length job.size = job.size := by omega
  have hperm := ht.places
  rw [FetchJob.numbers]
  simpa only [hlost, hflight, hmin, FetchPool.deposited, hqueue, List.append_nil,
    List.nil_append] using hperm

theorem FetchPool.Settled.exhausted {count : Nat} (hs : p.Settled (Oracle.satisfied count))
    (hnone : p.received.findSome? Deposit.failure? = none) (hshort : p.received.length < count) :
    p.Exhausted := by
  refine hs.resolve_left fun henough => ?_
  unfold Oracle.satisfied at henough
  simp only [Bool.or_eq_true, decide_eq_true_eq, List.any_eq_true] at henough
  rcases henough with hle | ⟨d, hd, hsome⟩
  · omega
  · rw [List.findSome?_eq_none_iff.1 hnone d hd] at hsome
    cases hsome

/-- A settled run without a failed deposit is short only if a worker died. -/
theorem Tally.full_or_dead (ht : Tally job n h p) (hn : 0 < n)
    (hs : p.Settled (Oracle.satisfied job.size))
    (hnone : p.received.findSome? Deposit.failure? = none) :
    job.size ≤ p.received.length ∨ p.received.length < job.size ∧ .dead ∈ p.workers := by
  refine (Nat.lt_or_ge p.received.length job.size).symm.imp_right fun hshort => ?_
  exact ⟨hshort, ht.dead_of_exhausted hn (hs.exhausted hnone hshort) hshort⟩

/-- Whatever the order in which a full run received its deposits, what is before the first empty slot
are the entries of the range. -/
theorem OnCourse.leading_slots {answers : UInt64 → View} (ho : OnCourse job answers h p)
    (ht : Tally job n h p) (hl : job.oldest ≤ job.last) (hfull : job.size ≤ p.received.length) :
    FeeHistory.leading (FeeHistory.slots job.oldest job.size p.received) = job.entries answers := by
  rw [FeeHistory.slots_eq (f := fun m => job.fees? (job.lookUp (answers m) m))
    (FetchJob.oldest_add_size_le hl)
    (ht.received_perm hfull) fun d hd =>
      FetchJob.fees?_of_settle (ho.deposits d (List.mem_append_left _ hd))]
  rfl

theorem OnCourse.conclude_eq {answers : UInt64 → View} (ho : OnCourse job answers h p)
    (ht : Tally job n h p) (hl : job.oldest ≤ job.last)
    (hnone : p.received.findSome? Deposit.failure? = none)
    (hfull : job.size ≤ p.received.length) :
    ∃ history, job.reference answers = .ok history ∧
      ∀ view, (Oracle.conclude job job.size p).outcome view = .ok history := by
  refine ⟨_, FetchJob.reference_eq_ok ?_, fun view => ?_⟩
  · intro m hm f hf
    obtain ⟨d, hd, rfl⟩ := List.mem_map.1 ((ht.received_perm hfull).symm.subset hm)
    exact FetchJob.process_of_settle (hf ▸ ho.deposits d (List.mem_append_left _ hd))
  · rw [Oracle.outcome_conclude_of_full hnone hfull, ho.leading_slots ht hl hfull]

/-- What the answers of a run decide. -/
structure Determined (job : FetchJob) (start : FetchPool) (h : History) (p : FetchPool) : Prop where
  /-- The replies are those of a table: the chain may change, but no call is made twice for a
  number. -/
  follows : h.Follows h.answers
  bounded : h.moves ≤ 6 * job.size + 2 * p.workers.length
  /-- While the run is not settled, the consumer can receive or some worker can take a turn,
  whatever the chain replies. -/
  next : ¬ p.Settled (Oracle.satisfied job.size) →
    (∃ q, Reached job (Oracle.satisfied job.size) start (h.add {}) q) ∨
      ∃ i, ∀ view, ∃ q,
        Reached job (Oracle.satisfied job.size) start (h.add (p.deed i view q)) q
  /-- If no lookup failed, the answer is the reference over the answers. -/
  answered : p.Settled (Oracle.satisfied job.size) → job.Metered h.answers →
    (∀ x ∈ h.heard, ¬ x.status.Fails) → ∀ answers, h.Follows answers →
      ∃ history, job.reference answers = .ok history ∧
        ∀ view, (Oracle.conclude job job.size p).outcome view = .ok history
  /-- If one failed, that is why there is no answer. -/
  refused : p.Settled (Oracle.satisfied job.size) → job.Metered h.answers →
    (∃ x ∈ h.heard, x.status.Fails) → ∃ reason,
      (∀ view, (Oracle.conclude job job.size p).outcome view =
        .error (.refused (.fetch reason))) ∧
      ((∃ x ∈ h.heard, x.status = .failed reason) ∨
        reason = "Block fee fetcher failed" ∧ ∃ x ∈ h.heard, x.status = .broken)

/-- A run that settles after a lookup failed ends with an error. -/
theorem FetchPool.Reached.refused (valid : job.config.Valid) (hn : 0 < n)
    (hl : job.oldest ≤ job.last) (room : job.last.toNat + n < UInt64.size)
    (hr : Reached job enough (.start job n) h p) (hs : p.Settled (Oracle.satisfied job.size))
    (hm : job.Metered h.answers) (hfails : ∃ x ∈ h.heard, x.status.Fails) :
    ∃ reason, (∀ view, (Oracle.conclude job job.size p).outcome view =
        .error (.refused (.fetch reason))) ∧
      ((∃ x ∈ h.heard, x.status = .failed reason) ∨
        reason = "Block fee fetcher failed" ∧ ∃ x ∈ h.heard, x.status = .broken) := by
  have ht := Tally.of_reached hl room hr
  have ha := Asked.of_reached hl room hr
  have ho := OnCourse.of_reached hr ha.follows_answers
  cases hfirst : p.received.findSome? Deposit.failure? with
  | some reason =>
    obtain ⟨d, hd, hf⟩ := List.exists_of_findSome?_eq_some hfirst
    exact ⟨reason, fun view => Oracle.outcome_conclude_of_failure hfirst,
      .inl (hr.heard_of_failure hl room hd hf)⟩
  | none =>
    rcases ht.full_or_dead hn hs hfirst with hfull | ⟨hshort, hdead⟩
    · -- The number whose lookup failed was received with the rest.
      exfalso
      obtain ⟨x, hx, hxf⟩ := hfails
      have hmem : x.number ∈ job.numbers :=
        countFrom_subset (Nat.min_le_right _ _) (ha.within x hx)
      obtain ⟨d, hd, hdx⟩ := List.mem_map.1 ((ht.received_perm hfull).symm.subset hmem)
      have hsettle := ho.deposits d (List.mem_append_left _ hd)
      rw [hdx] at hsettle
      obtain ⟨l, hl, heq⟩ := ho.failed x hx hxf
      have hholds : job.settle x.number l = .holds d := heq.symm.trans hsettle
      cases l with
      | absent | found f =>
        rw [← hl] at hxf
        exact hxf
      | failed reason =>
        cases hholds
        exact absurd (List.findSome?_eq_none_iff.1 hfirst _ hd) (by simp [Deposit.failure?])
      | broken => cases hholds
    · refine ⟨_, fun view => Oracle.outcome_conclude_of_short hfirst hshort, .inr ⟨?_, ?_⟩⟩
      · exact FetchPool.explain_of_dead hdead
      · exact hr.heard_of_dead valid hl room hm hdead

theorem FetchPool.Reached.no_failure (hl : job.oldest ≤ job.last)
    (room : job.last.toNat + n < UInt64.size) (hr : Reached job enough (.start job n) h p)
    (hfine : ∀ x ∈ h.heard, ¬ x.status.Fails) :
    p.received.findSome? Deposit.failure? = none := by
  refine List.findSome?_eq_none_iff.2 fun d hd => ?_
  cases hd' : d.failure? with
  | none => rfl
  | some reason =>
    obtain ⟨x, hx, hstatus⟩ := hr.heard_of_failure hl room hd hd'
    exact absurd (by rw [hstatus]; trivial) (hfine x hx)

/-- A run that settles with no failed lookup has received every number, and no failed deposit. -/
theorem FetchPool.Reached.full (valid : job.config.Valid) (hn : 0 < n)
    (hl : job.oldest ≤ job.last) (room : job.last.toNat + n < UInt64.size)
    (hr : Reached job enough (.start job n) h p) (hs : p.Settled (Oracle.satisfied job.size))
    (hm : job.Metered h.answers) (hfine : ∀ x ∈ h.heard, ¬ x.status.Fails) :
    p.received.findSome? Deposit.failure? = none ∧ job.size ≤ p.received.length := by
  have hnone : p.received.findSome? Deposit.failure? = none := hr.no_failure hl room hfine
  refine ⟨hnone, ?_⟩
  rcases (Tally.of_reached hl room hr).full_or_dead hn hs hnone with hfull | ⟨-, hdead⟩
  · exact hfull
  · obtain ⟨x, hx, hstatus⟩ := hr.heard_of_dead valid hl room hm hdead
    exact absurd (by rw [hstatus]; trivial) (hfine x hx)

/-- A run that settles with no failed lookup ends with the reference. -/
theorem FetchPool.Reached.answered (valid : job.config.Valid) (hn : 0 < n)
    (hl : job.oldest ≤ job.last) (room : job.last.toNat + n < UInt64.size)
    (hr : Reached job enough (.start job n) h p) (hs : p.Settled (Oracle.satisfied job.size))
    (hm : job.Metered h.answers) (hfine : ∀ x ∈ h.heard, ¬ x.status.Fails)
    {answers : UInt64 → View} (hf : h.Follows answers) :
    ∃ history, job.reference answers = .ok history ∧
      ∀ view, (Oracle.conclude job job.size p).outcome view = .ok history := by
  obtain ⟨hnone, hfull⟩ := hr.full valid hn hl room hs hm hfine
  exact (OnCourse.of_reached hr hf).conclude_eq (Tally.of_reached hl room hr) hl hnone hfull

end Settled

namespace Oracle

variable {o : Oracle} {count : UInt64} {last : Selector} {percentiles : List Float}
  {window : Window} {view : View}

/-! ## Queries over a fixed chain -/

theorem outcome_feeHistory (o : Oracle) (count : UInt64) (last : Selector)
    (percentiles : List Float) :
    (o.feeHistory count last percentiles).outcome view =
      (o.collect count last percentiles).outcome view := by
  show Dialogue.value view (Dialogue.notice .queryReceived >>= fun _ =>
    (o.collect count last percentiles).run >>= _) = _
  rw [Dialogue.value_bind, Dialogue.value_bind, Query.outcome]
  rcases (o.collect count last percentiles).run.value view with (e | fault) | history <;> rfl

theorem outcome_feeHistory_of_stop {stop : Stop}
    (planned : (o.plan count last percentiles).outcome view = .error stop) :
    (o.feeHistory count last percentiles).outcome view = .error stop := by
  rw [outcome_feeHistory, collect, Query.outcome_bind, planned]
  rfl

theorem outcome_collect (planned : (o.plan count last percentiles).outcome view = .ok window)
    (nonempty : window.isEmpty = false) :
    (o.collect count last percentiles).outcome view =
      (o.cover window percentiles).outcome view := by
  unfold collect
  rw [Query.outcome_bind, planned, Except.bind]
  simp only [nonempty, Bool.false_eq_true, if_false]

theorem outcome_cover {job : FetchJob} {pool : FetchPool}
    (started : (o.start window percentiles).outcome view = .ok (job, pool)) :
    (o.cover window percentiles).outcome view =
      (conclude job window.count.toNat
        ((job.drive (satisfied window.count.toNat) pool).value view)).outcome view := by
  unfold cover
  simp only [Query.outcome_bind, started, Except.bind, Query.outcome_monadLift]

/-- A job of the window, its pool, and the facts that every run of it starts from. -/
theorem startable (planned : (o.plan count last percentiles).outcome view = .ok window)
    (nonempty : window.isEmpty = false)
    (room : window.last.toNat + o.workers window < UInt64.size) :
    window.count.toNat ≤ window.last.toNat + 1 ∧ window.last.toNat + 1 < UInt64.size ∧
      0 < o.workers window ∧
      (o.job window percentiles).oldest ≤ (o.job window percentiles).last ∧
      (o.job window percentiles).size = window.count.toNat := by
  have hc := count_le_of_plan planned
  have hn := o.workers_pos nonempty
  have hlast : window.last.toNat + 1 < UInt64.size := by omega
  exact ⟨hc, hlast, hn, oldest_le_last o percentiles nonempty hc hlast,
    size_job o percentiles hc hlast⟩

/-- The query over a fixed chain is one of the runs. -/
theorem feeHistory_reached (planned : (o.plan count last percentiles).outcome view = .ok window)
    (nonempty : window.isEmpty = false)
    (room : window.last.toNat + o.workers window < UInt64.size)
    (fits : window.count.toNat ≤ maxQueueLength) :
    ∃ h p, FetchPool.Reached (o.job window percentiles) (satisfied window.count.toNat)
        (.start (o.job window percentiles) (o.workers window)) h p ∧
      p.Settled (satisfied window.count.toNat) ∧ (h.Follows fun _ => view) ∧
      (o.feeHistory count last percentiles).outcome view =
        (conclude (o.job window percentiles) window.count.toNat p).outcome view := by
  obtain ⟨hc, hlast, -, hl, -⟩ := startable planned nonempty room
  obtain ⟨h, hr, hf, -, hs⟩ :=
    FetchPool.drive_settles (satisfied window.count.toNat) hl room view
  refine ⟨h, _, hr, hs, hf, ?_⟩
  rw [outcome_feeHistory, outcome_collect planned nonempty,
    outcome_cover (outcome_start o percentiles nonempty hc hlast fits)]

/-- **Schedules do not matter.** A query that covers a window starts a job and a pool, and whatever
run of the workers and the consumer follows is determined by the replies that it hears. The query
over a fixed chain is one of these runs. -/
theorem schedule_independent (planned : (o.plan count last percentiles).outcome view = .ok window)
    (nonempty : window.isEmpty = false)
    (room : window.last.toNat + o.workers window < UInt64.size)
    (fits : window.count.toNat ≤ maxQueueLength) :
    ∃ job pool, (∀ v, (o.start window percentiles).outcome v = .ok (job, pool)) ∧
      job.size = window.count.toNat ∧
      (∀ {h p}, FetchPool.Reached job (satisfied window.count.toNat) pool h p →
        Determined job pool h p) ∧
      ∃ h p, FetchPool.Reached job (satisfied window.count.toNat) pool h p ∧
        p.Settled (satisfied window.count.toNat) ∧ (h.Follows fun _ => view) ∧
        (o.feeHistory count last percentiles).outcome view =
          (conclude job window.count.toNat p).outcome view := by
  obtain ⟨hc, hlast, hn, hl, hsize⟩ := startable planned nonempty room
  have room' : (o.job window percentiles).last.toNat + o.workers window < UInt64.size := room
  refine ⟨_, _, fun v => outcome_start o percentiles nonempty hc hlast fits, hsize, ?_,
    feeHistory_reached planned nonempty room fits⟩
  intro h p hr
  rw [← hsize] at hr
  have hworkers := (Tally.of_reached hl room' hr).workers
  refine {
    follows := (Asked.of_reached hl room' hr).follows_answers
    bounded := ?_
    next := FetchPool.exists_move hr
    answered := fun hs hm hfine _ hf => hr.answered o.chain_valid hn hl room' hs hm hfine hf
    refused := fun hs hm hfails => hr.refused o.chain_valid hn hl room' hs hm hfails }
  have hmoves := FetchPool.moves_add_potential_le hl room' hr
  omega

/-- A chain that knows the header of its head and nothing else. -/
def headOnly (number : UInt64) : View
  | .header .latest => .found ⟨number, 0, 30000000, 15000000, some initialBaseFee⟩
  | c => Reply.nothing c

/-- The largest word but one. -/
def nearlyTop : UInt64 := 0xFFFFFFFFFFFFFFFE

/-- The oracle with the standard parameters and limits. -/
def standard : Oracle := ⟨{}, {}, ⟨by decide, by decide⟩, ⟨by decide, by decide⟩⟩

/-- Four workers at most over the blocks 6, 7 and 8. -/
theorem schedule_independent_up_to_eight :
    (standard.plan 3 .latest []).outcome (headOnly 8) = .ok ⟨none, 8, 3⟩ ∧
      ∃ job pool, (∀ v, (standard.start ⟨none, 8, 3⟩ []).outcome v = .ok (job, pool)) ∧
        job.size = 3 ∧
        (∀ {h p}, FetchPool.Reached job (satisfied 3) pool h p → Determined job pool h p) ∧
        ∃ h p, FetchPool.Reached job (satisfied 3) pool h p ∧ p.Settled (satisfied 3) ∧
          (h.Follows fun _ => headOnly 8) ∧
          (standard.feeHistory 3 .latest []).outcome (headOnly 8) =
            (conclude job 3 p).outcome (headOnly 8) := by
  have planned : (standard.plan 3 .latest []).outcome (headOnly 8) = .ok ⟨none, 8, 3⟩ := rfl
  exact ⟨planned, schedule_independent planned rfl (by decide) (by decide)⟩

/-- An oracle that serves very long windows of headers. -/
def farSighted : Oracle :=
  ⟨{}, { maxHeaderHistory := 0x4000000000000000 }, ⟨by decide, by decide⟩,
    ⟨by decide, by decide⟩⟩

/-- A window of `2 ^ 61` blocks has no queue, so there is no answer, although no lookup fails. -/
theorem crash_over_long_window :
    ∃ window, (farSighted.plan 0x2000000000000000 .latest []).outcome
        (headOnly 0x4000000000000000) = .ok window ∧
      window.isEmpty = false ∧ window.last.toNat + farSighted.workers window < UInt64.size ∧
      (∀ c, ¬ (Reply.status c (headOnly 0x4000000000000000 c)).Fails) ∧
      (farSighted.feeHistory 0x2000000000000000 .latest []).outcome
        (headOnly 0x4000000000000000) = .error (.crashed .queueTooLong) := by
  refine ⟨⟨none, 0x4000000000000000, 0x2000000000000000⟩, rfl, rfl, by decide, ?_, rfl⟩
  intro c
  rcases c with (n | _ | _ | _) | selector | hash | _ | _ <;> exact id

end Oracle

end FeeMarket
