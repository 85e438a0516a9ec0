import FeeMarket.Chain.Memory
import FeeMarket.Chain.Scripted
import FeeMarket.Proofs.FetchPool.Lookups

/-!
# Each number once

**Theorem (`distributed_exactly_once`).** However the workers of a spawned pool and the consumer
interleave, and whatever the chain replies, the numbers of the range are claimed in order, each by
one worker; a worker claims at most one number above the range; no number is deposited twice; the
queue has room for every deposit; and when the workers stop without a fault, each number of the
range was deposited once.

The counter overshoots the range by one for each worker that finishes, and the tally says how many
have. What is left is to see that a worker overshoots only once: it has finished then
(`Overshot`).
-/

namespace FeeMarket

/-- A worker claims at most one number above the range, and finishes with it. -/
structure Overshot (job : FetchJob) (h : History) (p : FetchPool) : Prop where
  index : ∀ c ∈ h.claims, c.worker < p.workers.length
  ended : ∀ c ∈ h.claims, job.last < c.number → p.workers[c.worker]? = some .finished
  once : ((h.claims.filter fun c => job.last < c.number).map Claim.worker).Nodup

namespace Overshot

variable {job : FetchJob} {n i : Nat} {view : View} {h : History} {p q : FetchPool} {d : Deed}

theorem start (job : FetchJob) (n : Nat) : Overshot job {} (.start job n) where
  index := by simp
  ended := by simp
  once := .nil

/-- A worker that had not finished has claimed nothing above the range. -/
theorem below {w : Worker} (ho : Overshot job h p) (hw : p.workers[i]? = some w)
    (hstop : w.stopped = false) {c : Claim} (hc : c ∈ h.claims) (hi : c.worker = i) :
    ¬ job.last < c.number := by
  intro hn
  have hend := ho.ended c hc hn
  rw [hi, hw] at hend
  obtain rfl : w = .finished := Option.some.inj hend
  cases hstop

/-- A turn that claims nothing above the range keeps what was claimed above it. -/
theorem swap {w w' : Worker} (ho : Overshot job h p) (hw : p.workers[i]? = some w)
    (hstop : w.stopped = false) (hworkers : q.workers = p.workers.set i w')
    (hclaim : ∀ c ∈ d.claim, c.worker = i ∧ ¬ job.last < c.number) :
    Overshot job (h.add d) q where
  index := by
    intro c hc
    rw [hworkers, List.length_set]
    rcases List.mem_append.1 hc with hc | hc
    · exact ho.index c hc
    · obtain ⟨hi, -⟩ := List.getElem?_eq_some_iff.1 hw
      rw [(hclaim c (by simpa using hc)).1]
      exact hi
  ended := by
    intro c hc hn
    rcases List.mem_append.1 hc with hc | hc
    · have hne : i ≠ c.worker := fun hi => ho.below hw hstop hc hi.symm hn
      rw [hworkers, List.getElem?_set_ne hne]
      exact ho.ended c hc hn
    · exact absurd hn (hclaim c (by simpa using hc)).2
  once := by
    have hnone : d.claim.toList.filter (fun c => job.last < c.number) = [] :=
      List.filter_eq_nil_iff.2 fun c hc => by simpa using (hclaim c (by simpa using hc)).2
    rw [History.add, List.filter_append, hnone, List.append_nil]
    exact ho.once

theorem turn (ho : Overshot job h p) (hs : FetchPool.Turned job p i view d q) :
    Overshot job (h.add d) q := by
  cases hs with
  | cleared hw hc => exact ho.swap hw rfl rfl (by simp)
  | dismissed hw hc => exact ho.swap hw rfl rfl (by simp)
  | claimed hw hn => exact ho.swap hw rfl rfl (by simpa using hn)
  | heard hw hn hx => exact ho.swap hw (Worker.stopped_of_awaited? hn) rfl (by simp)
  | deposited hw => exact ho.swap hw rfl rfl (by simp)
  | overshot hw hn =>
    obtain ⟨hi, -⟩ := List.getElem?_eq_some_iff.1 hw
    refine ⟨fun c hc => ?_, fun c hc hcn => ?_, ?_⟩
    · rw [FetchPool.workers_put, List.length_set]
      rcases List.mem_append.1 hc with hc | hc
      · exact ho.index c hc
      · obtain rfl : c = ⟨i, p.next⟩ := by simpa using hc
        exact hi
    · rcases List.mem_append.1 hc with hc | hc
      · have hne : i ≠ c.worker := fun h => ho.below hw rfl hc h.symm hcn
        rw [FetchPool.workers_put, List.getElem?_set_ne hne]
        exact ho.ended c hc hcn
      · obtain rfl : c = ⟨i, p.next⟩ := by simpa using hc
        rw [FetchPool.workers_put, List.getElem?_set_self hi]
    · have hnew : i ∉ (h.claims.filter fun c => job.last < c.number).map Claim.worker := by
        intro hmem
        obtain ⟨c, hc, hci⟩ := List.mem_map.1 hmem
        obtain ⟨hc, hcn⟩ := List.mem_filter.1 hc
        exact ho.below hw rfl hc hci (by simpa using hcn)
      have hsplit : ((h.add { claim := some ⟨i, p.next⟩ }).claims.filter
          fun c => job.last < c.number).map Claim.worker =
            (h.claims.filter fun c => job.last < c.number).map Claim.worker ++ [i] := by
        simp [History.add, hn]
      rw [hsplit]
      exact List.nodup_append.2 ⟨ho.once, by simp, by
        intro a ha b hb hab
        obtain rfl : b = i := by simpa using hb
        exact hnew (hab ▸ ha)⟩

theorem of_reached {enough : List Deposit → Bool}
    (hr : FetchPool.Reached job enough (.start job n) h p) : Overshot job h p :=
  hr.invariant (.start job n) (fun ho hs => ho.turn hs) fun ho _ _ =>
    ⟨by simpa [History.add] using ho.index, by simpa [History.add] using ho.ended,
      by simpa [History.add] using ho.once⟩

theorem overshoot_le_one (ho : Overshot job h p) (i : Nat) :
    (h.claims.filter fun c => c.worker = i ∧ job.last < c.number).length ≤ 1 := by
  have hcount := List.nodup_iff_count_le_one.1 ho.once i
  rw [List.count_eq_countP, List.countP_map, List.countP_eq_length_filter,
    List.filter_filter] at hcount
  have hsame : (fun c : Claim => decide (c.worker = i ∧ job.last < c.number)) =
      fun c => ((· == i) ∘ Claim.worker) c && decide (job.last < c.number) := by
    funext c
    by_cases hc : c.worker = i <;> simp [hc]
  rwa [hsame]

end Overshot

/-! ## The state of the numbers -/

/-- The state of the numbers of a range in a run of `n` workers. -/
structure Distributed (job : FetchJob) (n : Nat) (h : History) (p : FetchPool) : Prop where
  workers : p.workers.length = n
  /-- The numbers claimed so far are those from the oldest up to the counter. -/
  claims : h.claims.map Claim.number = countFrom job.oldest h.claims.length
  counter : p.next = job.oldest + UInt64.ofNat h.claims.length
  /-- Each of them was claimed by one worker. -/
  once : (h.claims.map Claim.number).Nodup
  index : ∀ c ∈ h.claims, c.worker < n
  /-- A worker claims at most one number above the range. -/
  overshoot : ∀ i, (h.claims.filter fun c => c.worker = i ∧ job.last < c.number).length ≤ 1
  /-- Lookups are made for numbers of the range alone. -/
  lookups : ∀ x ∈ h.heard, x.Named ∧ job.oldest ≤ x.number ∧ x.number ≤ job.last
  /-- No number is deposited twice, and none outside of the range. -/
  deposits : p.deposited.Nodup
  inside : ∀ m ∈ p.deposited, job.oldest ≤ m ∧ m ≤ job.last
  /-- The queue holds at most as many deposits as the range has numbers. -/
  queue : p.queue.length ≤ job.size
  /-- There is room for a deposit that a worker holds. -/
  room : ∀ d, .holds d ∈ p.workers → p.queue.length < job.size
  bound : h.claims.length ≤ job.size + n
  /-- When all workers have stopped without a fault, each number was deposited. -/
  complete : (∀ w ∈ p.workers, w.stopped = true ∧ w.isDead = false) →
    p.deposited.Perm job.numbers
  /-- When nothing is left to receive before that, a fault ended a worker. -/
  short : p.Exhausted → p.received.length < job.size → .dead ∈ p.workers

namespace Worker

theorem finished_of_stopped {w : Worker} (hs : w.stopped = true) (hd : w.isDead = false) :
    w.isFinished = true := by
  cases w <;> simp_all [stopped, isDead, isFinished]

end Worker

namespace Tally

variable {job : FetchJob} {n : Nat} {h : History} {p : FetchPool}

theorem length_claims_le (ht : Tally job n h p) : h.claims.length ≤ job.size + n := by
  have hc := List.countP_le_length (p := Worker.isFinished) (l := p.workers)
  rw [ht.finished, ht.workers] at hc
  omega

theorem length_places (ht : Tally job n h p) :
    h.lost.length + p.inFlight.length + p.deposited.length = min h.claims.length job.size := by
  have hp := ht.places.length_eq
  rwa [List.length_append, List.length_append, length_countFrom] at hp

theorem mem_numbers_of_deposited (ht : Tally job n h p) {m : UInt64} (hm : m ∈ p.deposited) :
    m ∈ job.numbers :=
  countFrom_subset (Nat.min_le_right _ _) (ht.places.subset (List.mem_append_right _ hm))

/-- Once all workers have finished, every number of the range is deposited. -/
theorem deposited_perm (ht : Tally job n h p) (hn : 0 < n)
    (hall : ∀ w ∈ p.workers, w.stopped = true ∧ w.isDead = false) :
    p.deposited.Perm job.numbers := by
  have hfin : p.workers.countP Worker.isFinished = p.workers.length :=
    List.countP_eq_length.2 fun w hw =>
      Worker.finished_of_stopped (hall w hw).1 (hall w hw).2
  have hdead : p.workers.countP Worker.isDead = 0 :=
    List.countP_eq_zero.2 fun w hw => by simp [(hall w hw).2]
  have hlost : h.lost = [] := List.length_eq_zero_iff.1 (ht.dead ▸ hdead)
  have hflight : p.inFlight = [] :=
    List.filterMap_eq_nil_iff.2 fun w hw => by
      have hs := (hall w hw).1
      cases w <;> simp_all [Worker.stopped, Worker.number?, Worker.awaited?]
  have hk : min h.claims.length job.size = job.size := by
    rw [ht.finished, ht.workers] at hfin
    omega
  have hp := ht.places
  rwa [hlost, hflight, hk] at hp

theorem dead_of_exhausted (ht : Tally job n h p) (hn : 0 < n) (he : p.Exhausted)
    (hshort : p.received.length < job.size) : .dead ∈ p.workers := by
  by_contra hdead
  have hall : ∀ w ∈ p.workers, w.stopped = true ∧ w.isDead = false := by
    intro w hw
    refine ⟨he.2 w hw, ?_⟩
    cases w with
    | dead => exact absurd hw hdead
    | _ => rfl
  have hlen := (ht.deposited_perm hn hall).length_eq
  rw [FetchPool.deposited, he.1, FetchJob.numbers, length_countFrom] at hlen
  simp only [List.append_nil, List.length_map] at hlen
  omega

end Tally

/-- **Each number once.** A pool is spawned just if its queue can be made, and has a worker for each
number of its range, up to the most that are allowed. In every pool that is reached from it, by any
turns of the workers over any chain and any receipts of the consumer, the numbers of the range are
claimed, looked up and deposited as `Distributed` says. -/
theorem distributed_exactly_once {job : FetchJob} {maxFetchers : UInt64}
    (fetchers : 1 ≤ maxFetchers) (range : job.oldest ≤ job.last)
    (room : job.last.toNat + min maxFetchers.toNat job.size < UInt64.size) :
    (∀ {view start}, (job.spawn maxFetchers).outcome view = .ok start ↔
      job.size ≤ maxQueueLength ∧ start = .start job (min maxFetchers.toNat job.size)) ∧
    ∀ {enough h p},
      FetchPool.Reached job enough (.start job (min maxFetchers.toNat job.size)) h p →
        Distributed job (min maxFetchers.toNat job.size) h p := by
  refine ⟨?spawned, ?distributed⟩
  case spawned =>
    intro view start
    rw [FetchJob.outcome_spawn_eq_ok, and_iff_right range]
  intro enough h p reached
  have ht := Tally.of_reached range room reached
  have ha := Asked.of_reached range room reached
  have ho := Overshot.of_reached reached
  have hl' := UInt64.le_iff_toNat_le.1 range
  have hn : 0 < min maxFetchers.toNat job.size := by
    have := UInt64.le_iff_toNat_le.1 fetchers
    rw [UInt64.toNat_one] at this
    rw [FetchJob.size]
    omega
  have hbound := ht.length_claims_le
  have hplaces := ht.length_places
  have hqueue : p.queue.length ≤ p.deposited.length := by
    simp [FetchPool.deposited]
  refine {
    workers := ht.workers
    claims := ht.claims
    counter := ht.next
    once := ?once
    index := fun c hc => ht.workers ▸ ho.index c hc
    overshoot := ho.overshoot_le_one
    lookups := ?lookups
    deposits := (ht.nodup_places range).of_append_right
    inside := fun m hm => FetchJob.mem_numbers.1 (ht.mem_numbers_of_deposited hm)
    queue := by omega
    room := ?room
    bound := hbound
    complete := ht.deposited_perm hn
    short := ht.dead_of_exhausted hn }
  case once =>
    rw [ht.claims]
    apply nodup_countFrom
    have hsize : job.size = job.last.toNat + 1 - job.oldest.toNat := rfl
    omega
  case lookups =>
    intro x hx
    exact ⟨ha.named x hx,
      FetchJob.mem_numbers.1 (countFrom_subset (Nat.min_le_right _ _) (ha.within x hx))⟩
  case room =>
    intro d hd
    have hmem : d.number ∈ p.inFlight := List.mem_filterMap.2 ⟨_, hd, rfl⟩
    have hpos := List.length_pos_of_mem hmem
    omega

/-- The job of fetching the headers of the blocks 7 and 8. -/
def sevenAndEight : FetchJob := ⟨{}, [], none, 7, 8⟩

/-- A chain without blocks whose reader breaks down over the number 7. -/
def brokenAtSeven : View := (⟨[], [], [7]⟩ : Hindrance).applyTo MemoryChain.empty.view

/-- The second of two workers claims 7 and dies over it. The first deposits 8, which is received,
claims 9 and finishes. -/
def movesAroundSeven : List FetchPool.Move :=
  [.turn 0 brokenAtSeven, .turn 1 brokenAtSeven, .turn 1 brokenAtSeven, .turn 0 brokenAtSeven,
    .turn 1 brokenAtSeven, .turn 0 brokenAtSeven, .turn 0 brokenAtSeven, .receive,
    .turn 0 brokenAtSeven, .turn 0 brokenAtSeven]

/-- A run that ends with 8 received and 7 lost. -/
theorem distributed_after_a_fault :
    ∃ h p, FetchPool.Reached sevenAndEight (fun _ => false) (.start sevenAndEight 2) h p ∧
      Distributed sevenAndEight 2 h p ∧ p.Exhausted ∧ p.received.map Deposit.number = [8] ∧
      h.lost = [7] := by
  have ended : ((FetchPool.replay sevenAndEight (fun _ => false) movesAroundSeven {}
      (.start sevenAndEight 2)).any fun r => r.2.queue.isEmpty && r.2.workers.all Worker.stopped &&
        r.2.received.map Deposit.number == [8] && r.1.lost == [7]) = true := by
    decide +kernel
  obtain ⟨⟨h, p⟩, hm, hend⟩ := (Option.any_eq_true _ _).1 ended
  simp only [Bool.and_eq_true, List.isEmpty_iff, List.all_eq_true, beq_iff_eq] at hend
  obtain ⟨⟨⟨hq, hs⟩, hr⟩, hl⟩ := hend
  have reached := FetchPool.Reached.start.replay hm
  have distributed :=
    @distributed_exactly_once sevenAndEight 4 (by decide) (by decide) (by decide)
  exact ⟨h, p, reached, distributed.2 reached, ⟨hq, hs⟩, hr, hl⟩

end FeeMarket
