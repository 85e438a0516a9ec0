import FeeMarket.Proofs.Schedule

/-!
# The first fault of a range

**Fault** (`FetchJob.fault?`). Why a number has no sample: its lookup failed, or its worker died over
it. **First fault** (`FetchJob.firstFault?`). That of the first number of the range that has one.

A fault is a matter of the number and the answers alone. So whether a run has an answer does not
depend on the schedule: it has one just if no number of the range has a fault
(`Reached.answered_of_faultless`, `Reached.refused_of_fault`). Which of several faults is the reason
against it depends on who is first, and with one worker the first number is (`Reached.refused_alone`).

A worker that is alone deposits the numbers of the range in their order (`InOrder`), so what the
consumer has received are the first of them.
-/

namespace FeeMarket

namespace FetchJob

variable {job : FetchJob} {answers : UInt64 → View} {n : UInt64} {d : Deposit}

/-- Why a number has no sample, if it has none. -/
def fault? (job : FetchJob) (answers : UInt64 → View) (n : UInt64) : Option String :=
  match job.settle n (job.lookUp (answers n) n) with
  | .holds d => d.failure?
  | _ => some "Block fee fetcher failed"

/-- The fault of the first number of the range that has one. -/
def firstFault? (job : FetchJob) (answers : UInt64 → View) : Option String :=
  job.numbers.findSome? (job.fault? answers)

theorem fault?_of_holds (h : job.settle n (job.lookUp (answers n) n) = .holds d) :
    job.fault? answers n = d.failure? := by
  rw [fault?, h]

theorem fault?_of_dead (h : job.settle n (job.lookUp (answers n) n) = .dead) :
    job.fault? answers n = some "Block fee fetcher failed" := by
  rw [fault?, h]

end FetchJob

section Runs

open FetchPool (Reached)

variable {job : FetchJob} {answers : UInt64 → View} {enough : List Deposit → Bool} {n i : Nat}
  {view : View} {h : History} {p q : FetchPool} {d : Deed} {reason : String}

/-- The first failed deposit that was received tells of the first fault among its numbers. -/
theorem OnCourse.findSome?_received (ho : OnCourse job answers h p) :
    (p.received.map Deposit.number).findSome? (job.fault? answers) =
      p.received.findSome? Deposit.failure? := by
  have hfault (d : Deposit) (hd : d ∈ p.received) :
      job.fault? answers d.number = d.failure? :=
    FetchJob.fault?_of_holds (ho.deposits d (List.mem_append_left _ hd))
  generalize p.received = l at hfault
  induction l with
  | nil => rfl
  | cons d rest ih =>
    rw [List.map_cons, List.findSome?_cons, List.findSome?_cons, hfault d List.mem_cons_self,
      ih fun e he => hfault e (List.mem_cons_of_mem d he)]

/-! ## Any number of workers -/

theorem OnCourse.fault_of_dead (ho : OnCourse job answers h p) (ht : Tally job n h p)
    (hdead : .dead ∈ p.workers) :
    ∃ m ∈ job.numbers, job.fault? answers m = some "Block fee fetcher failed" := by
  obtain ⟨m, hm⟩ := ht.exists_lost_of_dead hdead
  have hclaimed := ht.places.subset (List.mem_append_left _ (List.mem_append_left _ hm))
  exact ⟨m, countFrom_subset (Nat.min_le_right _ _) hclaimed, FetchJob.fault?_of_dead (ho.lost m hm)⟩

namespace FetchPool.Reached

/-- Without a fault every run ends with the reference. -/
theorem answered_of_faultless (hn : 0 < n) (hl : job.oldest ≤ job.last)
    (room : job.last.toNat + n < UInt64.size) (hr : Reached job enough (.start job n) h p)
    (hs : p.Settled (Oracle.satisfied job.size)) (hf : h.Follows answers)
    (hnone : job.firstFault? answers = none) :
    ∃ history, job.reference answers = .ok history ∧
      ∀ view, (Oracle.conclude job job.size p).outcome view = .ok history := by
  have ht := Tally.of_reached hl room hr
  have ho := OnCourse.of_reached hr hf
  have faultless : ∀ m ∈ job.numbers, job.fault? answers m = none :=
    List.findSome?_eq_none_iff.1 hnone
  have hreceived : p.received.findSome? Deposit.failure? = none := by
    rw [← ho.findSome?_received, List.findSome?_eq_none_iff]
    intro m hm
    refine faultless m (ht.mem_numbers_of_deposited ?_)
    rw [FetchPool.deposited, List.map_append]
    exact List.mem_append_left _ hm
  rcases ht.full_or_dead hn hs hreceived with hfull | ⟨-, hdead⟩
  · exact ho.conclude_eq ht hl hreceived hfull
  · obtain ⟨m, hm, hfault⟩ := ho.fault_of_dead ht hdead
    cases (faultless m hm).symm.trans hfault

/-- With a fault every run is refused because of a lookup. -/
theorem refused_of_fault (hl : job.oldest ≤ job.last) (room : job.last.toNat + n < UInt64.size)
    (hr : Reached job enough (.start job n) h p) (hf : h.Follows answers)
    (hsome : job.firstFault? answers = some reason) :
    ∃ reason', ∀ view, (Oracle.conclude job job.size p).outcome view =
      .error (.refused (.fetch reason')) := by
  have ht := Tally.of_reached hl room hr
  have ho := OnCourse.of_reached hr hf
  cases hfirst : p.received.findSome? Deposit.failure? with
  | some reason' => exact ⟨reason', fun view => Oracle.outcome_conclude_of_failure hfirst⟩
  | none =>
    rcases Nat.lt_or_ge p.received.length job.size with hshort | hfull
    · exact ⟨_, fun view => Oracle.outcome_conclude_of_short hfirst hshort⟩
    · -- The number that has the fault was received with the rest.
      exfalso
      obtain ⟨m, hm, hfault⟩ := List.exists_of_findSome?_eq_some hsome
      rw [← ho.findSome?_received, List.findSome?_eq_none_iff] at hfirst
      have hnone := hfirst m ((ht.received_perm hfull).symm.subset hm)
      cases hfault.symm.trans hnone

end FetchPool.Reached

/-! ## One worker -/

/-- The numbers claimed so far are in their order: those deposited, the one that is lost, and the one
in flight. -/
def InOrder (job : FetchJob) (h : History) (p : FetchPool) : Prop :=
  p.deposited ++ h.lost ++ p.inFlight = countFrom job.oldest (min h.claims.length job.size)

namespace InOrder

variable {w w' : Worker}

theorem workers_eq (ht : Tally job 1 h p) (hw : p.workers[i]? = some w) :
    p.workers = [w] ∧ i = 0 := by
  obtain ⟨v, hv⟩ := List.length_eq_one_iff.1 ht.workers
  rw [hv] at hw ⊢
  cases i with
  | zero => exact ⟨congrArg (· :: []) (Option.some.inj hw), rfl⟩
  | succ i => cases hw

/-- The turn of the one worker keeps the order if its number and what it deposits do. -/
theorem swap (new : List UInt64) (ho : InOrder job h p) (ht : Tally job 1 h p)
    (hw : p.workers[i]? = some w) (hworkers : q.workers = p.workers.set i w')
    (hnew : countFrom job.oldest (min (h.add d).claims.length job.size) =
      countFrom job.oldest (min h.claims.length job.size) ++ new)
    (hplaces : q.deposited ++ (h.add d).lost ++ w'.number?.toList =
      p.deposited ++ h.lost ++ w.number?.toList ++ new) : InOrder job (h.add d) q := by
  obtain ⟨hone, rfl⟩ := workers_eq ht hw
  have hflight : p.inFlight = w.number?.toList := by
    rw [FetchPool.inFlight, hone, filterMap_cons_eq, List.filterMap_nil, List.append_nil]
  have hflight' : q.inFlight = w'.number?.toList := by
    rw [FetchPool.inFlight, hworkers, hone, List.set_cons_zero, filterMap_cons_eq,
      List.filterMap_nil, List.append_nil]
  rw [InOrder, hflight] at ho
  rw [InOrder, hflight', hplaces, ho, hnew]

theorem lost_eq_nil (ht : Tally job 1 h p) (hw : p.workers[i]? = some w)
    (halive : w.isDead = false) : h.lost = [] := by
  have hdead := ht.dead
  rw [(workers_eq ht hw).1, List.countP_singleton, halive] at hdead
  exact List.length_eq_zero_iff.1 hdead.symm

theorem turn (ho : InOrder job h p) (ht : Tally job 1 h p) (hl : job.oldest ≤ job.last)
    (room : job.last.toNat + 1 < UInt64.size) (hs : FetchPool.Turned job p i view d q) :
    InOrder job (h.add d) q := by
  cases hs with
  | cleared hw hc | dismissed hw hc =>
    refine ho.swap [] ht hw rfl (by simp [History.add]) ?_
    simp [History.add, Worker.number?, Worker.awaited?, FetchPool.deposited]
  | overshot hw hn =>
    refine ho.swap [] ht hw rfl ?_ ?_
    · rw [History.add, Option.toList_some, List.length_append, List.length_singleton,
        Tally.countFrom_overshot (ht.size_le_claims hl room hw hn), List.append_nil]
    · simp [History.add, Worker.number?, Worker.awaited?, FetchPool.deposited]
  | claimed hw hn =>
    refine ho.swap [p.next] ht hw rfl ?_ ?_
    · rw [History.add, Option.toList_some, List.length_append, List.length_singleton,
        ht.countFrom_claim (ht.claims_lt_size hl room hw hn)]
    · rw [History.add, lost_eq_nil ht hw rfl, List.nil_append, List.append_assoc,
        (job.worksOn_take p.next).has_or_lost]
      simp [Worker.number?, Worker.awaited?, FetchPool.deposited]
  | @heard w m x hw hm hx =>
    have halive : w.isDead = false := by
      cases w <;> simp_all [Worker.awaited?, Worker.isDead]
    refine ho.swap [] ht hw rfl (by simp [History.add]) ?_
    rw [History.add, lost_eq_nil ht hw halive, List.nil_append, List.append_assoc,
      (job.worksOn_hear view hm).has_or_lost, Worker.number?_of_awaited? hm]
    simp [FetchPool.deposited]
  | @deposited x hw =>
    refine ho.swap [] ht hw rfl (by simp [History.add]) ?_
    simp [History.add, lost_eq_nil ht hw rfl, Worker.number?, Worker.awaited?,
      FetchPool.deposited]

theorem of_reached (hl : job.oldest ≤ job.last) (room : job.last.toNat + 1 < UInt64.size)
    (hr : Reached job enough (.start job 1) h p) : InOrder job h p := by
  have both : Tally job 1 h p ∧ InOrder job h p := by
    refine hr.invariant (motive := fun h p => Tally job 1 h p ∧ InOrder job h p)
      ⟨.start job 1, rfl⟩ ?_ ?_
    · intro h p i view d q ⟨ht, ho⟩ hs
      exact ⟨ht.turn hl room hs, ho.turn ht hl room hs⟩
    · intro h p x rest ⟨ht, ho⟩ hq _
      refine ⟨ht.receive hq, ?_⟩
      rw [InOrder, FetchPool.deposited, hq] at ho
      simpa [InOrder, History.add, FetchPool.deposited, FetchPool.inFlight] using ho
  exact both.2

end InOrder

/-- **One worker is refused by the first fault.** -/
theorem FetchPool.Reached.refused_alone (hl : job.oldest ≤ job.last)
    (room : job.last.toNat + 1 < UInt64.size) (hr : Reached job enough (.start job 1) h p)
    (hs : p.Settled (Oracle.satisfied job.size)) (hf : h.Follows answers)
    (hsome : job.firstFault? answers = some reason) :
    ∀ view, (Oracle.conclude job job.size p).outcome view = .error (.refused (.fetch reason)) := by
  have ht := Tally.of_reached hl room hr
  have ho := OnCourse.of_reached hr hf
  have horder := InOrder.of_reached hl room hr
  -- What was received are the first numbers of the range; the queue and the worker have the next.
  obtain ⟨rest, hrest⟩ := countFrom_prefix job.oldest (Nat.min_le_right h.claims.length job.size)
  have hnumbers : job.numbers = p.received.map Deposit.number ++
      (p.queue.map Deposit.number ++ h.lost ++ p.inFlight ++ rest) := by
    rw [FetchJob.numbers, ← hrest, ← horder, FetchPool.deposited, List.map_append]
    simp only [List.append_assoc]
  rw [FetchJob.firstFault?, hnumbers, List.findSome?_append, ho.findSome?_received] at hsome
  intro view
  cases hfirst : p.received.findSome? Deposit.failure? with
  | some reason' =>
    rw [hfirst, Option.some_or, Option.some.injEq] at hsome
    rw [Oracle.outcome_conclude_of_failure hfirst, hsome]
  | none =>
    rw [hfirst, Option.none_or] at hsome
    rcases ht.full_or_dead Nat.one_pos hs hfirst with hfull | ⟨hshort, hdead⟩
    · -- Nothing is left beyond what was received.
      have hlength := congrArg List.length hnumbers
      rw [FetchJob.numbers, length_countFrom, List.length_append, List.length_map] at hlength
      have hnil : p.queue.map Deposit.number ++ h.lost ++ p.inFlight ++ rest = [] :=
        List.length_eq_zero_iff.1 (by omega)
      rw [hnil] at hsome
      cases hsome
    · -- The next number is the one over which the worker died.
      obtain ⟨i, hi⟩ := List.mem_iff_getElem?.1 hdead
      have hone := (InOrder.workers_eq ht hi).1
      have hqueue : p.queue = [] := (hs.exhausted hfirst hshort).1
      have hflight : p.inFlight = [] := by rw [FetchPool.inFlight, hone]; rfl
      have hlost := ht.dead
      rw [hone] at hlost
      obtain ⟨m, hm⟩ := List.length_eq_one_iff.1 hlost.symm
      have hfault := FetchJob.fault?_of_dead (ho.lost m (hm ▸ List.mem_singleton_self m))
      rw [hqueue, hflight, hm, List.map_nil, List.nil_append, List.append_nil,
        List.singleton_append, List.findSome?_cons, hfault, Option.some.injEq] at hsome
      rw [Oracle.outcome_conclude_of_short hfirst hshort, FetchPool.explain_of_dead hdead, hsome]

end Runs

end FeeMarket
