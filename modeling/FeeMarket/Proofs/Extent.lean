import FeeMarket.Proofs.Deposits
import FeeMarket.Proofs.Traffic

/-!
# The extent of a window

**End** (`Window.EndsAt`). The number that a window ends with, for each kind of selector. **At hand**
(`Window.available`). The blocks that may be counted: one less than asked for, if the window should
end with a pending block and there is none.

**Extent** (`Window.Extent`). A window that is not empty counts the blocks at hand, cut at block
zero, and its oldest block lies just so many numbers before the end.

**Sizes.** The length of the queue, the number of slots and what the consumer waits for are one number,
the count of the window (`Oracle.Sized`). So whatever order the workers deposit in, each deposit has a
slot of its own, none is dropped, and the consumer waits for no more than there is
(`FetchPool.Slotted`).

`extent_exact` is for every chain, selector and count. As with the traffic of a query, there must be
room above the window, and a window that is too long has no queue (`extent_at_limits`).
-/

namespace FeeMarket

namespace Window

variable {view : View} {selector : Selector} {count : UInt64} {w : Window}

/-- The number that a window for a selector ends with. -/
inductive EndsAt (view : View) : Selector → UInt64 → Prop
  | number {head requested} (hhead : view (.header .latest) = .found head)
      (hle : requested ≤ head.number) : EndsAt view (.number requested) requested
  | latest {head} (hhead : view (.header .latest) = .found head) : EndsAt view .latest head.number
  | pending {head b} (hhead : view (.header .latest) = .found head) (hb : view .pending = some b) :
      EndsAt view .pending b.number
  | headForPending {head} (hhead : view (.header .latest) = .found head)
      (hb : view .pending = none) : EndsAt view .pending head.number
  | finalized {head block} (hhead : view (.header .latest) = .found head)
      (hblock : view .finalized = .found block) : EndsAt view .finalized block.number

/-- How many blocks may be counted of those that are asked for. -/
def available (view : View) (count : UInt64) (selector : Selector) : Nat :=
  if selector = .pending ∧ view .pending = none then count.toNat - 1 else count.toNat

/-- What a window that is not empty covers. -/
structure Extent (view : View) (count : UInt64) (selector : Selector) (w : Window) : Prop where
  last : EndsAt view selector w.last
  pending : ∀ b, w.pending = some b ↔ selector = .pending ∧ view .pending = some b
  width : w.count.toNat = min (available view count selector) (w.last.toNat + 1)
  oldest : ∃ oldest, w.oldest = .ok oldest ∧ oldest ≤ w.last ∧
    oldest.toNat + w.count.toNat = w.last.toNat + 1 ∧
    (oldest = 0 ↔ w.last.toNat < available view count selector)

theorem ending_eq_empty {pending : Option FullBlock} {last : UInt64} :
    ending pending last count = empty ↔ count = 0 := by
  constructor
  · intro h
    refine Decidable.byContradiction fun hcount => ?_
    have hnonempty := isEmpty_ending pending last hcount
    rw [h] at hnonempty
    cases hnonempty
  · intro h
    exact if_pos h

/-- Whatever the selector, a window is the one that ends where it says, over the blocks at hand. -/
theorem Resolves.exists_ending (h : Resolves view count selector w) :
    ∃ pending last width, w = ending pending last width ∧ EndsAt view selector last ∧
      width.toNat = available view count selector ∧
      ∀ b, pending = some b ↔ selector = .pending ∧ view .pending = some b := by
  cases h with
  | number hhead hle => exact ⟨_, _, _, rfl, .number hhead hle, by simp [available], by simp⟩
  | latest hhead => exact ⟨_, _, _, rfl, .latest hhead, by simp [available], by simp⟩
  | pending hhead hb =>
    exact ⟨_, _, _, rfl, .pending hhead hb, by simp [available, hb], by simp [hb]⟩
  | headForPending hhead hb =>
    refine ⟨_, _, _, rfl, .headForPending hhead hb, ?_, by simp [hb]⟩
    rw [available, if_pos ⟨rfl, hb⟩, Word.toNat_subDownTo, UInt64.toNat_one]
  | finalized hhead hblock =>
    exact ⟨_, _, _, rfl, .finalized hhead hblock, by simp [available], by simp⟩

theorem Resolves.eq_empty_iff (h : Resolves view count selector w) :
    w = .empty ↔ available view count selector = 0 := by
  obtain ⟨pending, last, width, rfl, -, hwidth, -⟩ := h.exists_ending
  rw [ending_eq_empty, ← hwidth, ← UInt64.toNat_inj]
  rfl

/-- **Extent of a window.** -/
theorem Resolves.extent (h : Resolves view count selector w) (nonempty : w.isEmpty = false)
    (hl : w.last.toNat + 1 < UInt64.size) : Extent view count selector w := by
  have hle := h.count_le
  obtain ⟨pending, last, width, rfl, hlast, hwidth, hpending⟩ := h.exists_ending
  obtain ⟨heq, hp⟩ := ending_of_nonempty nonempty
  obtain ⟨hold, htoNat⟩ := oldest_eq_ok hle hl
  have hpos := count_pos nonempty
  have hcount : (ending pending last width).count.toNat =
      min (available view count selector) ((ending pending last width).last.toNat + 1) := by
    have hnext : (Word.addUpTo last 1).toNat = last.toNat + 1 := by
      rw [heq] at hl
      rw [Word.addUpTo, Word.toNat_saturate, UInt64.toNat_one]
      exact Nat.min_eq_left (by omega)
    rw [count_ending, toNat_min, hnext, hwidth, heq]
  refine ⟨?_, ?_, hcount, _, hold, ?_, ?_, ?_⟩
  · rwa [heq]
  · rwa [hp]
  · rw [UInt64.le_iff_toNat_le, htoNat]
    omega
  · omega
  · rw [← UInt64.toNat_inj, htoNat, UInt64.toNat_zero]
    omega

theorem outcome_resolve_eq_empty :
    (resolve selector count).outcome view = .ok .empty ↔
      (∃ w, (resolve selector count).outcome view = .ok w) ∧
        available view count selector = 0 := by
  constructor
  · intro h
    exact ⟨⟨_, h⟩, (resolves_of_outcome h).eq_empty_iff.1 rfl⟩
  · rintro ⟨⟨w, hw⟩, hnone⟩
    rw [hw, (resolves_of_outcome hw).eq_empty_iff.2 hnone]

end Window

/-! ## Runs -/

/-- The deposits of a run, against `count` slots. -/
structure FetchPool.Slotted (job : FetchJob) (count : Nat) (p : FetchPool) : Prop where
  /-- The queue never holds more than there is room for. -/
  length_le : p.received.length + p.queue.length ≤ count
  nodup : (p.received.map Deposit.number).Nodup
  within : ∀ d ∈ p.received, job.oldest ≤ d.number ∧ (d.number - job.oldest).toNat < count
  /-- No deposit is dropped, and none replaces another. -/
  kept : ∀ d ∈ p.received,
    (FeeHistory.slots job.oldest count p.received)[(d.number - job.oldest).toNat]? = some d.fees?
  /-- The consumer gets all that it waits for, unless a lookup failed or a worker died. -/
  drained : p.Settled (Oracle.satisfied count) → (∀ d ∈ p.received, d.failure? = none) →
    .dead ∉ p.workers → p.received.length = count
  answered : ∀ {view history}, (Oracle.conclude job count p).outcome view = .ok history →
    p.received.length = count

section Runs

variable {job : FetchJob} {n count : Nat} {enough : List Deposit → Bool} {h : History}
  {p : FetchPool} {view : View}

theorem Tally.deposited_subperm (ht : Tally job n h p) : p.deposited.Subperm job.numbers := by
  have hclaimed := countFrom_prefix job.oldest (Nat.min_le_right h.claims.length job.size)
  exact (List.sublist_append_right _ _).subperm.trans
    (ht.places.subperm.trans hclaimed.sublist.subperm)

theorem FetchJob.slot_lt (hl : job.oldest ≤ job.last) {m : UInt64} (hm : m ∈ job.numbers) :
    (m - job.oldest).toNat < job.size := by
  have hbounds := (mem_countFrom (oldest_add_size_le hl)).1 hm
  rw [UInt64.toNat_sub_of_le _ _ (mem_numbers.1 hm).1]
  omega

/-- What is received of a number of the range is in its slot: the fees of a number are one thing,
whenever it was deposited. -/
theorem OnCourse.getElem?_slots {answers : UInt64 → View} (ho : OnCourse job answers h p)
    (hl : job.oldest ≤ job.last) (within : ∀ d ∈ p.received, d.number ∈ job.numbers) {d : Deposit}
    (hd : d ∈ p.received) :
    (FeeHistory.slots job.oldest job.size p.received)[(d.number - job.oldest).toNat]? =
      some d.fees? := by
  have hfees : ∀ x ∈ p.received, x.fees? = job.fees? (job.lookUp (answers x.number) x.number) :=
    fun x hx => FetchJob.fees?_of_settle (ho.deposits x (List.mem_append_left _ hx))
  rw [FeeHistory.slots, FeeHistory.getElem?_foldl_place
    (f := fun m => job.fees? (job.lookUp (answers m) m)) ?_ ?_ hfees ?_, add_ofNat_toNat_sub,
    if_pos (List.mem_map.2 ⟨d, hd, rfl⟩), hfees d hd]
  all_goals rw [List.length_replicate]
  · exact FetchJob.oldest_add_size_le hl
  · exact within
  · exact FetchJob.slot_lt hl (within d hd)

/-- **Runs and slots.** -/
theorem FetchPool.Reached.slotted (hn : 0 < n) (hl : job.oldest ≤ job.last)
    (room : job.last.toNat + n < UInt64.size) (hr : Reached job enough (.start job n) h p) :
    p.Slotted job job.size := by
  have ht := Tally.of_reached hl room hr
  have ho := OnCourse.of_reached hr (Asked.of_reached hl room hr).follows_answers
  have hsub := ht.deposited_subperm
  have hlen : p.received.length + p.queue.length ≤ job.size := by
    simpa [FetchPool.deposited, FetchJob.numbers] using hsub.length_le
  have hmem : ∀ d ∈ p.received, d.number ∈ job.numbers := fun d hd =>
    hsub.subset (List.mem_map.2 ⟨d, List.mem_append_left _ hd, rfl⟩)
  refine ⟨hlen, ?_, ?_, fun d => ho.getElem?_slots hl hmem, ?_, ?_⟩
  · obtain ⟨l, hperm, hl'⟩ := hsub
    have hnodup : p.deposited.Nodup :=
      hperm.nodup_iff.1 ((nodup_countFrom (FetchJob.oldest_add_size_le hl)).sublist hl')
    rw [FetchPool.deposited, List.map_append] at hnodup
    exact hnodup.of_append_left
  · intro d hd
    exact ⟨(FetchJob.mem_numbers.1 (hmem d hd)).1, FetchJob.slot_lt hl (hmem d hd)⟩
  · intro hs hfine halive
    have hnone := List.findSome?_eq_none_iff.2 hfine
    rcases ht.full_or_dead hn hs hnone with hfull | ⟨-, hdead⟩
    · omega
    · exact absurd hdead halive
  · intro view history concluded
    have hfull := (Oracle.outcome_conclude_eq_ok concluded).2.1
    omega

end Runs

namespace Oracle

variable {view : View} {selector : Selector} {count : UInt64} {w : Window} {o : Oracle}
  {percentiles : List Float}

/-! ## Sizes -/

/-- The sizes that come of a window. -/
structure Sized (o : Oracle) (w : Window) (percentiles : List Float) : Prop where
  oldest : w.oldest = .ok (o.job w percentiles).oldest
  /-- The length of the queue. -/
  length : (o.job w percentiles).length = .ok w.count
  slots : ∀ deposits, (FeeHistory.slots (o.job w percentiles).oldest w.count.toNat
    deposits).length = w.count.toNat
  started : ∀ view, (o.start w percentiles).outcome view =
    if w.count.toNat ≤ maxQueueLength
    then .ok (o.job w percentiles, .start (o.job w percentiles) (o.workers w))
    else .error (.crashed .queueTooLong)
  /-- The pending block stands for the last number, and for no other one. -/
  begun : ∀ n ∈ (o.job w percentiles).numbers, ∀ view,
    ((o.job w percentiles).begin n).value view =
      match if n = w.last then w.pending else none with
      | some b => (o.job w percentiles).settle n (.found b.findings)
      | none => if percentiles.isEmpty then .awaitsHeader n else .awaitsBlock n

theorem outcome_start_of_long (o : Oracle) (percentiles : List Float)
    (nonempty : w.isEmpty = false) (hc : w.count.toNat ≤ w.last.toNat + 1)
    (hl : w.last.toNat + 1 < UInt64.size) (long : maxQueueLength < w.count.toNat) :
    (o.start w percentiles).outcome view = .error (.crashed .queueTooLong) := by
  have hsize := size_job o percentiles hc hl
  have hlength : (o.job w percentiles).length = .ok w.count :=
    FetchJob.length_eq_ok.2 ⟨oldest_le_last o percentiles nonempty hc hl, hsize.symm⟩
  rw [outcome_start_eq_spawn o percentiles hc hl, FetchJob.spawn, Query.outcome_bind,
    Query.outcome_checked, hlength]
  simp only [Except.mapError, Except.bind, if_pos long]
  rfl

theorem substitute?_job (resolves : Window.Resolves view count selector w) (n : UInt64) :
    (o.job w percentiles).substitute? n = if n = w.last then w.pending else none := by
  show w.pending.filter _ = _
  cases hp : w.pending with
  | none => rw [ite_self, Option.filter_none]
  | some b =>
    rw [Option.filter_some, ← (resolves.pending_eq hp).2]
    by_cases hn : n = w.last
    · simp [hn]
    · simp [hn, Ne.symm hn]

/-- **Sizes of a window.** -/
theorem sized (o : Oracle) (percentiles : List Float)
    (resolves : Window.Resolves view count selector w) (nonempty : w.isEmpty = false)
    (hl : w.last.toNat + 1 < UInt64.size) : o.Sized w percentiles := by
  have hc := resolves.count_le
  have hrange := oldest_le_last o percentiles nonempty hc hl
  refine ⟨(Window.oldest_eq_ok hc hl).1, ?_, fun _ => FeeHistory.length_slots _ _ _, ?_, ?_⟩
  · exact FetchJob.length_eq_ok.2 ⟨hrange, (size_job o percentiles hc hl).symm⟩
  · intro v
    split
    · rename_i fits
      exact outcome_start o percentiles nonempty hc hl fits
    · rename_i long
      exact outcome_start_of_long o percentiles nonempty hc hl (Nat.lt_of_not_le long)
  · intro n hn v
    have hin : ¬ (o.job w percentiles).last < n := UInt64.not_lt.2 (FetchJob.mem_numbers.1 hn).2
    rw [FetchJob.value_begin, if_neg hin, FetchJob.take, substitute?_job resolves]
    rfl

/-- **Extents are exact.** A window is empty just if no block is at hand. Otherwise it covers the
blocks at hand that end where its selector says, all sizes that come of it are its count, and the
deposits of every run fit its slots, those of the program's own run among them. -/
theorem extent_exact (view : View) (count : UInt64) (selector : Selector) :
    ((Window.resolve selector count).outcome view = .ok .empty ↔
      (∃ w, (Window.resolve selector count).outcome view = .ok w) ∧
        Window.available view count selector = 0) ∧
    ∀ {w}, (Window.resolve selector count).outcome view = .ok w → w.isEmpty = false →
      w.last.toNat + 1 < UInt64.size →
        w.Extent view count selector ∧ ∀ (o : Oracle) (percentiles : List Float),
          o.Sized w percentiles ∧
          (w.last.toNat + o.workers w < UInt64.size →
            (∀ {h p}, FetchPool.Reached (o.job w percentiles) (satisfied w.count.toNat)
                (.start (o.job w percentiles) (o.workers w)) h p →
              p.Slotted (o.job w percentiles) w.count.toNat) ∧
            ∀ v, (((o.job w percentiles).drive (satisfied w.count.toNat)
                (.start (o.job w percentiles) (o.workers w))).value v).Slotted
              (o.job w percentiles) w.count.toNat) := by
  refine ⟨Window.outcome_resolve_eq_empty, fun {w} resolved nonempty hl => ?_⟩
  have hresolves := Window.resolves_of_outcome resolved
  have hc := hresolves.count_le
  refine ⟨hresolves.extent nonempty hl, fun o percentiles =>
    ⟨o.sized percentiles hresolves nonempty hl, fun room => ?_⟩⟩
  have hrange := oldest_le_last o percentiles nonempty hc hl
  have runs {h : History} {p : FetchPool}
      (hr : FetchPool.Reached (o.job w percentiles) (satisfied w.count.toNat)
        (.start (o.job w percentiles) (o.workers w)) h p) :
      p.Slotted (o.job w percentiles) w.count.toNat := by
    have hslotted := hr.slotted (o.workers_pos nonempty) hrange room
    rwa [size_job o percentiles hc hl] at hslotted
  refine ⟨runs, fun v => ?_⟩
  obtain ⟨h, hr, -⟩ := FetchPool.drive_settles (satisfied w.count.toNat) hrange room v
  exact runs hr

/-- A block without transactions that is about to follow block 8. -/
def ninth : FullBlock := ⟨⟨⟨9, 0, 30000000, 0, none⟩, []⟩, []⟩

/-- A chain that knows the header of block 8 and the block that is about to follow it. -/
def awaitsNinth : View
  | .pending => some ninth
  | c => headOnly 8 c

/-- The pending block and the two blocks before it. -/
theorem extent_exact_up_to_nine :
    (Window.resolve .pending 3).outcome awaitsNinth = .ok ⟨some ninth, 9, 3⟩ ∧
      Window.Extent awaitsNinth 3 .pending ⟨some ninth, 9, 3⟩ ∧
      standard.Sized ⟨some ninth, 9, 3⟩ [] ∧
      (((standard.job ⟨some ninth, 9, 3⟩ []).drive (satisfied 3)
        (.start (standard.job ⟨some ninth, 9, 3⟩ []) 3)).value awaitsNinth).Slotted
          (standard.job ⟨some ninth, 9, 3⟩ []) 3 := by
  have resolved : (Window.resolve .pending 3).outcome awaitsNinth =
    .ok ⟨some ninth, 9, 3⟩ := rfl
  obtain ⟨extent, sizes⟩ := (extent_exact awaitsNinth 3 .pending).2 resolved rfl (by decide)
  obtain ⟨sized, runs⟩ := sizes standard []
  exact ⟨resolved, extent, sized, (runs (by decide)).2 awaitsNinth⟩

/-- Three workers fetch the last three blocks up to `nearlyTop`. The first keeps its number to itself,
the second deposits the two others and finishes with the largest word, and the third goes on to block
zero. -/
def movesPastSlots : List FetchPool.Move :=
  [0, 0, 1, 1, 1, 1, 1, 1, 1, 1, 1, 1, 2, 2, 2, 2].map
      (FetchPool.Move.turn · (headOnly nearlyTop)) ++
    [.receive, .receive, .receive]

/-- A window of `2 ^ 61` blocks has no queue. Where there is no room above a window, a deposit is
received for which there is no slot, in place of one for which there is. -/
theorem extent_at_limits :
    (∃ w, (Window.resolve .latest 0x2000000000000000).outcome (headOnly 0x4000000000000000) =
        .ok w ∧ w.isEmpty = false ∧ w.last.toNat + 1 < UInt64.size ∧
      ∀ v, (farSighted.start w []).outcome v = .error (.crashed .queueTooLong)) ∧
    ∃ w h p, (Window.resolve .latest 3).outcome (headOnly nearlyTop) = .ok w ∧
      w.isEmpty = false ∧ w.last.toNat + 1 < UInt64.size ∧
      (∀ v, (standard.start w []).outcome v =
        .ok (standard.job w [], .start (standard.job w []) (standard.workers w))) ∧
      FetchPool.Reached (standard.job w []) (satisfied w.count.toNat)
        (.start (standard.job w []) (standard.workers w)) h p ∧
      p.received.length = w.count.toNat ∧
      ∃ d ∈ p.received, d.number = 0 ∧
        w.count.toNat ≤ (d.number - (standard.job w []).oldest).toNat := by
  refine ⟨⟨⟨none, 0x4000000000000000, 0x2000000000000000⟩, rfl, rfl, by decide, fun v => rfl⟩, ?_⟩
  have ended : ((FetchPool.replay (standard.job ⟨none, nearlyTop, 3⟩ []) (satisfied 3)
      movesPastSlots {} (.start (standard.job ⟨none, nearlyTop, 3⟩ []) 3)).any fun r =>
        decide (r.2.received.map Deposit.number = [0xFFFFFFFFFFFFFFFD, nearlyTop, 0])) = true := by
    decide +kernel
  obtain ⟨⟨h, p⟩, hm, hend⟩ := (Option.any_eq_true _ _).1 ended
  have hnumbers := of_decide_eq_true hend
  refine ⟨⟨none, nearlyTop, 3⟩, h, p, rfl, rfl, by decide, fun v => rfl,
    FetchPool.Reached.start.replay hm, ?_, ?_⟩
  · simpa using congrArg List.length hnumbers
  · obtain ⟨d, hd, hzero⟩ : ∃ d ∈ p.received, d.number = 0 := by
      simpa using (hnumbers ▸ by decide : (0 : UInt64) ∈ p.received.map Deposit.number)
    refine ⟨d, hd, hzero, ?_⟩
    rw [hzero]
    decide

end Oracle

end FeeMarket
