import FeeMarket.Proofs.FetchPool.Turn
import FeeMarket.Proofs.Numbers
import Mathlib.Data.List.Perm.Basic

/-!
# The numbers of a run

**Reached.** A pool that the moves of workers and of a consumer lead to, with the history of what
the workers did. The consumer receives only while it does not have enough; nobody cancels.

**The tally** (`Tally`). The numbers claimed so far are consecutive, and each of the range that is
among them is at one place: lost, in flight with a worker, queued, or received. So the counter
alone says how many workers have finished and how many numbers are on their way.

The proof moves one turn at a time. What a turn does to the workers is a swap of one of them
(`cons_set_perm`), and the places balance.
-/

namespace FeeMarket

/-! ## The range of a job -/

namespace FetchJob

/-- How many numbers the range has. -/
def size (job : FetchJob) : Nat := job.last.toNat + 1 - job.oldest.toNat

/-- The numbers of the range, in ascending order. -/
def numbers (job : FetchJob) : List UInt64 := countFrom job.oldest job.size

theorem mem_numbers {job : FetchJob} {n : UInt64} :
    n ∈ job.numbers ↔ job.oldest ≤ n ∧ n ≤ job.last := by
  have hl := job.last.toNat_lt
  by_cases hr : job.oldest ≤ job.last
  · have hr' := UInt64.le_iff_toNat_le.1 hr
    rw [numbers, mem_countFrom (by rw [size]; simp only [UInt64.size]; omega), size,
      UInt64.le_iff_toNat_le, UInt64.le_iff_toNat_le]
    omega
  · have hr' : job.last.toNat < job.oldest.toNat := by
      simpa [UInt64.le_iff_toNat_le] using hr
    have hz : job.size = 0 := by rw [size]; omega
    simp only [numbers, hz, countFrom, List.range_zero, List.map_nil, List.not_mem_nil,
      false_iff, UInt64.le_iff_toNat_le]
    omega

theorem length_eq_ok {job : FetchJob} {length : UInt64} :
    job.length = .ok length ↔ job.oldest ≤ job.last ∧ length.toNat = job.size := by
  have hl := job.last.toNat_lt
  unfold FetchJob.length Word.sub
  by_cases hr : job.oldest ≤ job.last
  · have hr' := UInt64.le_iff_toNat_le.1 hr
    rw [if_pos hr]
    show Word.add (job.last - job.oldest) 1 = _ ↔ _
    rw [Word.add_eq_ok, UInt64.toNat_sub_of_le _ _ hr, UInt64.toNat_one, size, and_iff_right hr]
    omega
  · rw [if_neg hr]
    simp [bind, Except.bind, hr]

/-- **Spawning.** There is a pool just if the range has a number and not too many of them, and it
has a worker for each number, up to the most that are allowed. -/
theorem outcome_spawn_eq_ok {job : FetchJob} {maxFetchers : UInt64} {view : View}
    {p : FetchPool} :
    (job.spawn maxFetchers).outcome view = .ok p ↔
      job.oldest ≤ job.last ∧ job.size ≤ maxQueueLength ∧
        p = .start job (min maxFetchers.toNat job.size) := by
  unfold spawn
  rw [Query.outcome_bind, Query.outcome_checked]
  cases hlen : job.length with
  | error fault =>
    have hnone : ¬ (job.oldest ≤ job.last ∧ job.size ≤ maxQueueLength) := by
      rintro ⟨hl, hq⟩
      have hw : (UInt64.ofNat job.size).toNat = job.size :=
        UInt64.toNat_ofNat_of_lt' (Nat.lt_of_le_of_lt hq (by decide))
      rw [length_eq_ok.2 ⟨hl, hw⟩] at hlen
      cases hlen
    simp only [Except.mapError, Except.bind, reduceCtorEq, false_iff]
    rintro ⟨hl, hq, -⟩
    exact hnone ⟨hl, hq⟩
  | ok length =>
    obtain ⟨hl, hn⟩ := length_eq_ok.1 hlen
    simp only [Except.mapError, Except.bind]
    by_cases hq : maxQueueLength < length.toNat
    · have hq' : ¬ job.size ≤ maxQueueLength := by omega
      rw [if_pos hq]
      simp [Except.bind, hq']
    · have hq' : job.size ≤ maxQueueLength := by omega
      rw [if_neg hq]
      simp only [Query.outcome_bind, Query.outcome_pure, Query.outcome_notice, Except.bind,
        toNat_min, hn, Except.ok.injEq]
      exact ⟨fun h => ⟨hl, hq', h.symm⟩, fun h => h.2.2.symm⟩

end FetchJob

/-! ## Runs -/

namespace FetchPool

/-- The numbers that are in flight with a worker. -/
def inFlight (p : FetchPool) : List UInt64 := p.workers.filterMap Worker.number?

/-- The numbers whose outcome was deposited, received or not. -/
def deposited (p : FetchPool) : List UInt64 := (p.received ++ p.queue).map Deposit.number

/-- Nothing is queued and no worker is left to deposit: the consumer waits no longer. -/
def Exhausted (p : FetchPool) : Prop := p.queue = [] ∧ ∀ w ∈ p.workers, w.stopped = true

/-- The consumer has enough, or waits no longer. -/
def Settled (enough : List Deposit → Bool) (p : FetchPool) : Prop :=
  enough p.received = true ∨ p.Exhausted

/-- The pools that moves lead to from `start`, with the history of the workers. The consumer
receives only while it does not have enough. -/
inductive Reached (job : FetchJob) (enough : List Deposit → Bool) (start : FetchPool) :
    History → FetchPool → Prop
  | start : Reached job enough start {} start
  | turn {h p i view q} : Reached job enough start h p → p.step job (.turn i view) = some q →
      Reached job enough start (h.add (p.deed i view q)) q
  | receive {h p q} : Reached job enough start h p → enough p.received = false →
      p.step job .receive = some q → Reached job enough start (h.add {}) q

variable {job : FetchJob} {enough : List Deposit → Bool} {start p q : FetchPool} {h : History}

theorem receive_of_step (hs : p.step job .receive = some q) :
    ∃ d rest, p.queue = d :: rest ∧
      q = { p with queue := rest, received := p.received ++ [d] } := by
  change p.receive? = some q at hs
  unfold receive? at hs
  split at hs
  · cases hs
  · rename_i d rest hq
    exact ⟨d, rest, hq, (Option.some.inj hs).symm⟩

/-- **Invariants of runs.** What holds at the start, after a turn and after a receipt holds of
every pool that is reached. -/
theorem Reached.invariant {motive : History → FetchPool → Prop}
    (hr : Reached job enough start h p) (atStart : motive {} start)
    (turn : ∀ {h p i view d q}, motive h p → Turned job p i view d q → motive (h.add d) q)
    (receive : ∀ {h p d rest}, motive h p → p.queue = d :: rest → enough p.received = false →
      motive (h.add {}) { p with queue := rest, received := p.received ++ [d] }) :
    motive h p := by
  induction hr with
  | start => exact atStart
  | turn _ hs ih => exact turn ih (turned_of_step hs)
  | receive _ he hs ih =>
    obtain ⟨d, rest, hq, rfl⟩ := receive_of_step hs
    exact receive ih hq he

/-- Makes moves one after the other. Nothing comes of a move that is not possible, and of
cancellation. -/
def replay (job : FetchJob) (enough : List Deposit → Bool) :
    List Move → History → FetchPool → Option (History × FetchPool)
  | [], h, p => some (h, p)
  | .turn i view :: moves, h, p =>
    (p.step job (.turn i view)).bind fun q => replay job enough moves (h.add (p.deed i view q)) q
  | .receive :: moves, h, p =>
    if enough p.received then none
    else (p.step job .receive).bind fun q => replay job enough moves (h.add {}) q
  | .cancel :: _, _, _ => none

theorem Reached.replay {moves : List Move} {h' : History} {p' : FetchPool}
    (hr : Reached job enough start h p) (hm : replay job enough moves h p = some (h', p')) :
    Reached job enough start h' p' := by
  induction moves generalizing h p with
  | nil =>
    cases hm
    exact hr
  | cons m moves ih =>
    cases m with
    | turn i view =>
      obtain ⟨q, hq, hm⟩ := Option.bind_eq_some_iff.1 hm
      exact ih (hr.turn hq) hm
    | receive =>
      rw [FetchPool.replay] at hm
      split at hm
      · cases hm
      · rename_i he
        obtain ⟨q, hq, hm⟩ := Option.bind_eq_some_iff.1 hm
        exact ih (hr.receive (Bool.eq_false_iff.2 he) hq) hm
    | cancel => cases hm

end FetchPool

/-! ## Swapping a worker -/

theorem cons_set_perm {α : Type} {l : List α} {i : Nat} {a b : α} (h : l[i]? = some a) :
    (a :: l.set i b).Perm (b :: l) := by
  obtain ⟨hi, rfl⟩ := List.getElem?_eq_some_iff.1 h
  calc l[i] :: l.set i b
    _ |>.Perm (l[i] :: b :: l.eraseIdx i) := (List.set_perm_cons_eraseIdx hi b).cons _
    _ |>.Perm (b :: l[i] :: l.eraseIdx i) := .swap _ _ _
    _ |>.Perm (b :: l) := (List.getElem_cons_eraseIdx_perm hi).cons _

theorem countP_set {α : Type} (f : α → Bool) {l : List α} {i : Nat} {a b : α}
    (h : l[i]? = some a) :
    (l.set i b).countP f + (if f a then 1 else 0) = l.countP f + if f b then 1 else 0 := by
  simpa only [List.countP_cons] using (cons_set_perm (b := b) h).countP_eq f

theorem filterMap_cons_eq {α β : Type} (f : α → Option β) (a : α) (l : List α) :
    (a :: l).filterMap f = (f a).toList ++ l.filterMap f := by
  rw [List.filterMap_cons]
  cases f a <;> rfl

theorem filterMap_set_perm {α β : Type} (f : α → Option β) {l : List α} {i : Nat} {a b : α}
    (h : l[i]? = some a) :
    ((f a).toList ++ (l.set i b).filterMap f).Perm ((f b).toList ++ l.filterMap f) := by
  have hp := (cons_set_perm (b := b) h).filterMap f
  rwa [filterMap_cons_eq, filterMap_cons_eq] at hp

/-- Places balance: what the worker had and what is new is what it has, what is lost and what is
deposited. -/
theorem balance {lost flight flight' dep dep' all had has gone given new : List UInt64}
    (h : (lost ++ flight ++ dep).Perm all) (hw : (had ++ flight').Perm (has ++ flight))
    (hd : dep'.Perm (dep ++ given)) (hn : (had ++ new).Perm (gone ++ has ++ given)) :
    ((lost ++ gone) ++ flight' ++ dep').Perm (all ++ new) := by
  rw [List.perm_iff_count] at h hw hd hn ⊢
  intro a
  have h₁ := h a
  have h₂ := hw a
  have h₃ := hd a
  have h₄ := hn a
  simp only [List.count_append] at h₁ h₂ h₃ h₄ ⊢
  omega

/-! ## The tally -/

namespace Worker

variable {w : Worker} {n : UInt64}

theorem WorksOn.not_finished (h : w.WorksOn n) : w.isFinished = false := by
  cases h with
  | dead => rfl
  | busy hw => cases w <;> simp_all [number?, awaited?, isFinished]

theorem WorksOn.has_or_lost (h : w.WorksOn n) :
    (if w.isDead then some n else none : Option UInt64).toList ++ w.number?.toList = [n] := by
  cases h with
  | dead => rfl
  | busy hw =>
    have hd : w.isDead = false := by cases w <;> simp_all [number?, awaited?, isDead]
    rw [hd, hw]
    rfl

theorem length_lost (n : UInt64) (w : Worker) :
    (if w.isDead then some n else none : Option UInt64).toList.length =
      if w.isDead then 1 else 0 := by
  cases w.isDead <;> rfl

theorem WorksOn.number_eq {m : UInt64} (h : w.WorksOn n) (hm : w.number? = some m) : n = m := by
  cases h with
  | dead => cases hm
  | busy hn => exact Option.some.inj (hn.symm.trans hm)

theorem number?_of_awaited? (h : w.awaited? = some n) : w.number? = some n := by
  cases w <;> simp_all [number?, awaited?]

theorem stopped_of_awaited? (h : w.awaited? = some n) : w.stopped = false := by
  cases w <;> simp_all [awaited?, stopped]

end Worker

/-- The numbers of a run of `n` workers: which were claimed, and where they are. -/
structure Tally (job : FetchJob) (n : Nat) (h : History) (p : FetchPool) : Prop where
  workers : p.workers.length = n
  running : p.cancelled = false
  claims : h.claims.map Claim.number = countFrom job.oldest h.claims.length
  next : p.next = job.oldest + UInt64.ofNat h.claims.length
  finished : p.workers.countP Worker.isFinished = h.claims.length - job.size
  dead : p.workers.countP Worker.isDead = h.lost.length
  places : (h.lost ++ p.inFlight ++ p.deposited).Perm
    (countFrom job.oldest (min h.claims.length job.size))

namespace Tally

variable {job : FetchJob} {n i : Nat} {view : View} {h : History} {p q : FetchPool} {d : Deed}

theorem start (job : FetchJob) (n : Nat) : Tally job n {} (.start job n) where
  workers := List.length_replicate
  running := rfl
  claims := rfl
  next := by
    show job.oldest = job.oldest + UInt64.ofNat 0
    simp
  finished := by
    simp [FetchPool.start, Worker.isFinished]
  dead := by
    simp [FetchPool.start, Worker.isDead]
  places := by
    simp [FetchPool.start, FetchPool.inFlight, FetchPool.deposited, countFrom, Worker.number?,
      Worker.awaited?]

/-- A worker that is about to claim has not finished, so the counter is not past its end. -/
theorem toNat_next (ht : Tally job n h p) (hl : job.oldest ≤ job.last)
    (room : job.last.toNat + n < UInt64.size) (hw : p.workers[i]? = some .cleared) :
    job.oldest.toNat + h.claims.length < UInt64.size ∧
      p.next.toNat = job.oldest.toNat + h.claims.length := by
  have hf := countP_set Worker.isFinished (b := .finished) hw
  have hc := List.countP_le_length (p := Worker.isFinished) (l := p.workers.set i .finished)
  rw [List.length_set, ht.workers] at hc
  simp only [Worker.isFinished, Bool.false_eq_true, if_false, if_true, ht.finished] at hf
  have hl' := UInt64.le_iff_toNat_le.1 hl
  have hk : job.oldest.toNat + h.claims.length < UInt64.size := by
    rw [FetchJob.size] at hf
    omega
  refine ⟨hk, ?_⟩
  rw [ht.next, toNat_add_ofNat hk]

theorem claims_lt_size (ht : Tally job n h p) (hl : job.oldest ≤ job.last)
    (room : job.last.toNat + n < UInt64.size) (hw : p.workers[i]? = some .cleared)
    (hn : p.next ≤ job.last) : h.claims.length < job.size := by
  have hnext := (ht.toNat_next hl room hw).2
  have hn' := UInt64.le_iff_toNat_le.1 hn
  rw [FetchJob.size]
  omega

theorem size_le_claims (ht : Tally job n h p) (hl : job.oldest ≤ job.last)
    (room : job.last.toNat + n < UInt64.size) (hw : p.workers[i]? = some .cleared)
    (hn : job.last < p.next) : job.size ≤ h.claims.length := by
  have hnext := (ht.toNat_next hl room hw).2
  have hn' := UInt64.lt_iff_toNat_lt.1 hn
  rw [FetchJob.size]
  omega

/-- A claim in the range adds the number at the counter to those claimed of it. -/
theorem countFrom_claim (ht : Tally job n h p) (hsize : h.claims.length < job.size) :
    countFrom job.oldest (min (h.claims.length + 1) job.size) =
      countFrom job.oldest (min h.claims.length job.size) ++ [p.next] := by
  rw [Nat.min_eq_left hsize, Nat.min_eq_left (Nat.le_of_lt hsize), countFrom_succ, ht.next]

/-- A claim above the range adds nothing to them. -/
theorem countFrom_overshot (hsize : job.size ≤ h.claims.length) :
    countFrom job.oldest (min (h.claims.length + 1) job.size) =
      countFrom job.oldest (min h.claims.length job.size) := by
  rw [Nat.min_eq_right hsize, Nat.min_eq_right (Nat.le_succ_of_le hsize)]

/-- A turn swaps one worker that had not stopped. The tally is kept if the claims stay consecutive
and the places balance. -/
theorem swap {w w' : Worker} (new given : List UInt64) (ht : Tally job n h p)
    (hw : p.workers[i]? = some w) (hstop : w.stopped = false)
    (hworkers : q.workers = p.workers.set i w') (hrun : q.cancelled = p.cancelled)
    (hclaims : (h.add d).claims.map Claim.number = countFrom job.oldest (h.add d).claims.length)
    (hnext : q.next = job.oldest + UInt64.ofNat (h.add d).claims.length)
    (hfinished : (h.add d).claims.length - job.size =
      h.claims.length - job.size + if w'.isFinished then 1 else 0)
    (hdead : d.lost.toList.length = if w'.isDead then 1 else 0)
    (hnew : countFrom job.oldest (min (h.add d).claims.length job.size) =
      countFrom job.oldest (min h.claims.length job.size) ++ new)
    (hgiven : q.deposited.Perm (p.deposited ++ given))
    (hbalance : (w.number?.toList ++ new).Perm (d.lost.toList ++ w'.number?.toList ++ given)) :
    Tally job n (h.add d) q where
  workers := by rw [hworkers, List.length_set, ht.workers]
  running := hrun.trans ht.running
  claims := hclaims
  next := hnext
  finished := by
    have hf := countP_set Worker.isFinished (b := w') hw
    have hwf : w.isFinished = false := by cases w <;> simp_all [Worker.stopped, Worker.isFinished]
    rw [hwf, ht.finished, ← hfinished] at hf
    rw [hworkers]
    simpa using hf
  dead := by
    have hd := countP_set Worker.isDead (b := w') hw
    have hwd : w.isDead = false := by cases w <;> simp_all [Worker.stopped, Worker.isDead]
    rw [hwd, ht.dead, ← hdead] at hd
    rw [hworkers, History.add, List.length_append]
    simpa using hd
  places := by
    have hN := filterMap_set_perm Worker.number? (b := w') hw
    rw [← hworkers] at hN
    rw [hnew]
    exact balance ht.places hN hgiven hbalance

theorem claims_claim (ht : Tally job n h p) (hd : d.claim = some ⟨i, p.next⟩) :
    (h.add d).claims.length = h.claims.length + 1 ∧
      (h.add d).claims.map Claim.number = countFrom job.oldest (h.add d).claims.length ∧
      p.next + 1 = job.oldest + UInt64.ofNat (h.add d).claims.length := by
  have hk : (h.add d).claims.length = h.claims.length + 1 := by
    simp [History.add, hd]
  refine ⟨hk, ?_, ?_⟩
  · rw [hk, countFrom_succ, ← ht.claims, ← ht.next]
    simp [History.add, hd]
  · rw [hk, ht.next, UInt64.ofNat_add, UInt64.add_assoc]
    rfl

theorem turn (ht : Tally job n h p) (hl : job.oldest ≤ job.last)
    (room : job.last.toNat + n < UInt64.size) (hs : FetchPool.Turned job p i view d q) :
    Tally job n (h.add d) q := by
  cases hs with
  | cleared hw hc =>
    exact ht.swap [] [] hw rfl rfl rfl (by simpa [History.add] using ht.claims)
      (by simpa [History.add] using ht.next) (by simp [History.add, Worker.isFinished]) rfl
      (by simp [History.add]) (.of_eq (List.append_nil _).symm) (.refl _)
  | dismissed hw hc =>
    rw [ht.running] at hc
    cases hc
  | overshot hw hn =>
    obtain ⟨hlen, hclaims, hnext'⟩ :=
      ht.claims_claim (d := { claim := some ⟨i, p.next⟩ }) (i := i) rfl
    have hsize := ht.size_le_claims hl room hw hn
    refine ht.swap [] [] hw rfl rfl rfl hclaims hnext' ?_ rfl ?_
      (.of_eq (List.append_nil _).symm) (.refl _)
    · rw [hlen]
      simp only [Worker.isFinished, if_true]
      omega
    · rw [hlen, countFrom_overshot hsize, List.append_nil]
  | claimed hw hn =>
    have hw' := job.worksOn_take p.next
    obtain ⟨hlen, hclaims, hnext'⟩ := ht.claims_claim (i := i) (d := {
      claim := some ⟨i, p.next⟩
      lost := if (job.take p.next).isDead then some p.next else none }) rfl
    have hsize := ht.claims_lt_size hl room hw hn
    refine ht.swap [p.next] [] hw rfl rfl rfl hclaims hnext' ?_ (Worker.length_lost _ _) ?_
      (.of_eq (List.append_nil _).symm) ?_
    · rw [hlen, hw'.not_finished]
      simp only [Bool.false_eq_true, if_false]
      omega
    · rw [hlen, ht.countFrom_claim hsize]
    · rw [List.append_nil, hw'.has_or_lost]
      exact .refl _
  | @heard w m x hw hn hx =>
    have hw' := job.worksOn_hear view hn
    refine ht.swap [] [] hw (Worker.stopped_of_awaited? hn) rfl rfl
      (by simpa [History.add] using ht.claims) (by simpa [History.add] using ht.next) ?_
      (Worker.length_lost _ _) (by simp [History.add])
      (.of_eq (List.append_nil _).symm) ?_
    · simp [History.add, hw'.not_finished]
    · rw [List.append_nil, List.append_nil, hw'.has_or_lost, Worker.number?_of_awaited? hn]
      exact .refl _
  | @deposited x hw =>
    refine ht.swap [] [x.number] hw rfl rfl rfl (by simpa [History.add] using ht.claims)
      (by simpa [History.add] using ht.next) (by simp [History.add, Worker.isFinished]) rfl
      (by simp [History.add]) ?_ (.refl _)
    simp [FetchPool.deposited]

theorem receive {x : Deposit} {rest : List Deposit} (ht : Tally job n h p)
    (hq : p.queue = x :: rest) :
    Tally job n (h.add {}) { p with queue := rest, received := p.received ++ [x] } where
  workers := ht.workers
  running := ht.running
  claims := by simpa [History.add] using ht.claims
  next := by simpa [History.add] using ht.next
  finished := by simpa [History.add] using ht.finished
  dead := by simpa [History.add] using ht.dead
  places := by
    have hp := ht.places
    rw [FetchPool.deposited, hq] at hp
    simpa [History.add, FetchPool.deposited, FetchPool.inFlight] using hp

theorem exists_lost_of_dead (ht : Tally job n h p) (hdead : .dead ∈ p.workers) :
    ∃ m, m ∈ h.lost := by
  have hlost : 0 < h.lost.length := by
    rw [← ht.dead]
    exact List.countP_pos_iff.2 ⟨_, hdead, rfl⟩
  exact List.exists_mem_of_length_pos hlost

/-- **The tally of a run.** -/
theorem of_reached {enough : List Deposit → Bool} (hl : job.oldest ≤ job.last)
    (room : job.last.toNat + n < UInt64.size)
    (hr : FetchPool.Reached job enough (.start job n) h p) : Tally job n h p :=
  hr.invariant (.start job n) (fun ht hs => ht.turn hl room hs)
    fun ht hq _ => ht.receive hq

end Tally

end FeeMarket
