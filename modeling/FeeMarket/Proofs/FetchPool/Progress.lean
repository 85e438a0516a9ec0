import FeeMarket.Proofs.FetchPool.Lookups
import Mathlib.Algebra.GroupWithZero.Nat

/-!
# Every run comes to an end

**Weight** (`Worker.weight`). How many moves a worker and its number have still ahead of them, the
receipt of the deposit included. **Potential** (`FetchPool.potential`). The same of a whole pool.

Each move costs potential, so a run makes at most as many moves as it had potential at the start
(`moves_add_potential_le`). While a run is not settled, some move is possible
(`exists_move`). So the driver, which always makes a possible move, settles every pool within its
bound (`drive_settles`): it is one of the runs.
-/

namespace FeeMarket

namespace Worker

/-- How many moves are left to the worker with its number, until its deposit is received and it is
dismissed or claims another one. -/
def weight : Worker → Nat
  | .idle => 2
  | .cleared => 1
  | .awaitsHeader _ => 5
  | .awaitsBlock _ => 6
  | .awaitsReceipts _ _ => 5
  | .holds _ => 4
  | .finished => 0
  | .dead => 0

theorem weight_idle : Worker.idle.weight = 2 := rfl

theorem weight_cleared : Worker.cleared.weight = 1 := rfl

theorem weight_holds (d : Deposit) : (Worker.holds d).weight = 4 := rfl

theorem weight_finished : Worker.finished.weight = 0 := rfl

theorem weight_settle_le (job : FetchJob) (n : UInt64) (l : Lookup Findings) :
    (job.settle n l).weight ≤ 4 := by
  cases l with
  | absent | failed reason | broken => simp [FetchJob.settle, weight]
  | found f =>
    rw [FetchJob.settle]
    split <;> simp [weight]

theorem weight_take_le (job : FetchJob) (n : UInt64) : (job.take n).weight ≤ 6 := by
  unfold FetchJob.take
  split
  · exact Nat.le_trans (weight_settle_le job n _) (by decide)
  · split <;> simp [weight]

theorem weight_hear_lt (job : FetchJob) (view : View) {w : Worker} {n : UInt64}
    (hn : w.awaited? = some n) : (job.hear view w).weight < w.weight := by
  cases w with
  | awaitsHeader m => exact Nat.lt_succ_of_le (weight_settle_le job m _)
  | awaitsReceipts m block => exact Nat.lt_succ_of_le (weight_settle_le job m _)
  | awaitsBlock m =>
    have hsettle (l : Lookup Findings) : (job.settle m l).weight < 6 :=
      Nat.lt_of_le_of_lt (weight_settle_le job m l) (by decide)
    show (job.hear view (.awaitsBlock m)).weight < 6
    rw [FetchJob.hear]
    split
    · exact hsettle _
    · exact (by decide : 5 < 6)
    · exact hsettle _
    · exact hsettle _
  | idle | cleared | holds d | finished | dead => simp [awaited?] at hn

end Worker

namespace FetchPool

variable {job : FetchJob} {enough : List Deposit → Bool} {n : Nat} {h : History}
  {p q : FetchPool}

/-! ## The bound on the moves -/

/-- How many moves are left to a pool, in which so many numbers have been claimed. -/
def potential (job : FetchJob) (claimed : Nat) (p : FetchPool) : Nat :=
  6 * (job.size - claimed) + (p.workers.map Worker.weight).sum + p.queue.length

theorem potential_start (job : FetchJob) (n : Nat) :
    (start job n).potential job 0 = 6 * job.size + 2 * n := by
  simp only [potential, start, List.map_replicate, List.sum_replicate_nat, Worker.weight,
    List.length_nil]
  omega

theorem sum_weight_set {l : List Worker} {i : Nat} {w : Worker} (hw : l[i]? = some w)
    (w' : Worker) :
    ((l.set i w').map Worker.weight).sum + w.weight =
      (l.map Worker.weight).sum + w'.weight := by
  have hperm := ((cons_set_perm (b := w') hw).map Worker.weight).sum_nat
  simp only [List.map_cons, List.sum_cons] at hperm
  omega

/-- Every turn costs potential. -/
theorem potential_turn_lt {i : Nat} {view : View} {d : Deed} (ht : Tally job n h p)
    (hl : job.oldest ≤ job.last) (room : job.last.toNat + n < UInt64.size)
    (hs : Turned job p i view d q) :
    q.potential job (h.add d).claims.length < p.potential job h.claims.length := by
  cases hs with
  | cleared hw hc =>
    have := sum_weight_set hw .cleared
    simp only [potential, History.add, workers_put, queue_put, Worker.weight_idle,
      Worker.weight_cleared, Option.toList_none, List.append_nil] at this ⊢
    omega
  | dismissed hw hc =>
    have := sum_weight_set hw .finished
    simp only [potential, History.add, workers_put, queue_put, Worker.weight_idle,
      Worker.weight_finished, Option.toList_none, List.append_nil] at this ⊢
    omega
  | overshot hw hn =>
    have := sum_weight_set hw .finished
    simp only [potential, History.add, workers_put, queue_put, Worker.weight_cleared,
      Worker.weight_finished, Option.toList_some, List.length_append,
      List.length_singleton] at this ⊢
    omega
  | claimed hw hn =>
    have := sum_weight_set hw (job.take p.next)
    have hweight := Worker.weight_take_le job p.next
    -- The number was not claimed before, so its six moves were still in the potential.
    have hsize := ht.claims_lt_size hl room hw hn
    simp only [potential, History.add, workers_put, queue_put, Worker.weight_cleared,
      Option.toList_some, List.length_append, List.length_singleton] at this ⊢
    omega
  | @heard w m x hw hm hx =>
    have := sum_weight_set hw (job.hear view w)
    have hweight := Worker.weight_hear_lt job view hm
    simp only [potential, History.add, workers_put, queue_put, Option.toList_none,
      List.append_nil] at this ⊢
    omega
  | @deposited x hw =>
    have := sum_weight_set hw .idle
    simp only [potential, History.add, workers_put, Worker.weight_idle, Worker.weight_holds,
      Option.toList_none, List.append_nil, List.length_append, List.length_singleton] at this ⊢
    omega

/-- The moves made and the moves that are left are bounded from the start. -/
theorem moves_add_potential_le (hl : job.oldest ≤ job.last)
    (room : job.last.toNat + n < UInt64.size) (hr : Reached job enough (.start job n) h p) :
    h.moves + p.potential job h.claims.length ≤ 6 * job.size + 2 * n := by
  have both : Tally job n h p ∧
      h.moves + p.potential job h.claims.length ≤ 6 * job.size + 2 * n := by
    refine hr.invariant (motive := fun h p => Tally job n h p ∧
      h.moves + p.potential job h.claims.length ≤ 6 * job.size + 2 * n) ⟨.start job n, ?_⟩ ?_ ?_
    · exact Nat.le_of_eq ((Nat.zero_add _).trans (potential_start job n))
    · intro h p i view d q ⟨ht, hi⟩ hs
      refine ⟨ht.turn hl room hs, ?_⟩
      have hlt := potential_turn_lt ht hl room hs
      have hmoves : (h.add d).moves = h.moves + 1 := rfl
      omega
    · intro h p x rest ⟨ht, hi⟩ hq _
      refine ⟨ht.receive hq, ?_⟩
      rw [potential, hq, List.length_cons] at hi
      simp only [History.add, potential, Option.toList_none, List.append_nil]
      omega
  exact both.2

/-! ## The next move -/

/-- While a run is not settled, the consumer can receive or a worker can take a turn. -/
theorem exists_move (hr : Reached job enough (.start job n) h p) (hs : ¬ p.Settled enough) :
    (∃ q, Reached job enough (.start job n) (h.add {}) q) ∨
      ∃ i, ∀ view, ∃ q, Reached job enough (.start job n) (h.add (p.deed i view q)) q := by
  have henough : enough p.received = false := Bool.eq_false_iff.2 fun he => hs (.inl he)
  cases hq : p.queue with
  | cons d rest =>
    have hstep : p.step job .receive =
        some { p with queue := rest, received := p.received ++ [d] } := by
      simp only [step, receive?, hq]
    exact .inl ⟨_, hr.receive henough hstep⟩
  | nil =>
    have hactive : ∃ w ∈ p.workers, w.stopped = false := by
      by_contra hnone
      refine hs (.inr ⟨hq, fun w hw => ?_⟩)
      by_contra hrun
      exact hnone ⟨w, hw, Bool.eq_false_iff.2 hrun⟩
    obtain ⟨w, hw, hrun⟩ := hactive
    obtain ⟨i, hi⟩ := List.mem_iff_getElem?.1 hw
    refine .inr ⟨i, fun view => ⟨_, hr.turn (q := (turn job p i w).value view) ?_⟩⟩
    simp only [step, hi, hrun, Bool.false_eq_true, if_false, Dialogue.value]

/-! ## The driver -/

theorem firstActive?_eq_some {i : Nat} {w : Worker} (h : p.firstActive? = some (i, w)) :
    p.workers[i]? = some w ∧ w.stopped = false := by
  obtain ⟨j, hj, hw⟩ := Option.bind_eq_some_iff.1 h
  obtain ⟨v, hv, heq⟩ := Option.map_eq_some_iff.1 hw
  obtain ⟨rfl, rfl⟩ := Prod.mk.inj heq
  obtain ⟨hlt, hstop, -⟩ := List.findIdx?_eq_some_iff_getElem.1 hj
  rw [List.getElem?_eq_getElem hlt, Option.some.injEq] at hv
  exact ⟨hv ▸ List.getElem?_eq_getElem hlt, by simpa [hv] using hstop⟩

theorem firstActive?_eq_none (h : p.firstActive? = none) : ∀ w ∈ p.workers, w.stopped = true := by
  intro w hw
  cases hf : p.workers.findIdx? fun w => !w.stopped with
  | none => simpa using List.findIdx?_eq_none_iff.1 hf w hw
  | some i =>
    obtain ⟨hlt, -⟩ := List.findIdx?_eq_some_iff_getElem.1 hf
    simp [firstActive?, hf, List.getElem?_eq_getElem hlt] at h

/-- The driver makes moves of a run over its view, until the run is settled or it has made as many
as it may. Its calls are what the workers heard. -/
theorem driveFor_reached {start : FetchPool} {view : View} (moves : Nat)
    (hr : Reached job enough start h p) (hf : h.Follows fun _ => view) :
    ∃ h', Reached job enough start h' ((job.driveFor enough moves p).value view) ∧
      (h'.Follows fun _ => view) ∧
      h'.heard.map Heard.call =
        h.heard.map Heard.call ++ ((job.driveFor enough moves p).run view).calls ∧
      (((job.driveFor enough moves p).value view).Settled enough ∨ h'.moves = h.moves + moves) := by
  induction moves generalizing h p with
  | zero => exact ⟨h, hr, hf, (List.append_nil _).symm, .inr rfl⟩
  | succ moves ih =>
    rw [FetchJob.driveFor]
    split
    · rename_i he
      exact ⟨h, hr, hf, (List.append_nil _).symm, .inl (.inl he)⟩
    · rename_i he
      split
      · rename_i q hq
        have hr' := hr.receive (Bool.eq_false_iff.2 he) hq
        obtain ⟨h', hreached, hfollows, hcalls, hend⟩ := ih hr' hf.receive
        refine ⟨h', hreached, hfollows, ?_, hend.imp_right fun hmoves => ?_⟩
        · simpa [History.heard_add] using hcalls
        · rw [hmoves, History.moves_add]
          omega
      · rename_i hqueue
        split
        · rename_i i w hactive
          obtain ⟨hw, hrun⟩ := firstActive?_eq_some hactive
          have hstep : p.step job (.turn i view) = some ((turn job p i w).value view) := by
            simp only [step, hw, hrun, Bool.false_eq_true, if_false, Dialogue.value]
          have hheard := heard_deed_of_step hw hstep
          obtain ⟨h', hreached, hfollows, hcalls, hend⟩ :=
            ih (hr.turn hstep) (hf.turn (turned_of_step hstep))
          rw [Dialogue.value_bind, Dialogue.calls_bind, calls_turn]
          refine ⟨h', hreached, hfollows, ?_, hend.imp_right fun hmoves => ?_⟩
          · rw [hcalls, History.heard_add, hheard, List.map_append, List.append_assoc]
          · rw [hmoves, History.moves_add]
            omega
        · rename_i hactive
          refine ⟨h, hr, hf, (List.append_nil _).symm, .inl (.inr ⟨?_, ?_⟩)⟩
          · show p.queue = []
            unfold receive? at hqueue
            split at hqueue
            · assumption
            · cases hqueue
          · exact firstActive?_eq_none hactive

/-- **The driver settles.** Over a fixed view the driver is one of the runs, and the run is settled
when it ends. -/
theorem drive_settles (enough : List Deposit → Bool) (hl : job.oldest ≤ job.last)
    (room : job.last.toNat + n < UInt64.size) (view : View) :
    ∃ h, Reached job enough (.start job n) h ((job.drive enough (.start job n)).value view) ∧
      (h.Follows fun _ => view) ∧
      h.heard.map Heard.call = ((job.drive enough (.start job n)).run view).calls ∧
      ((job.drive enough (.start job n)).value view).Settled enough := by
  have begun : Reached job enough (start job n) {} (start job n) := .start
  have nothing : ({} : History).Follows fun _ => view := by simp [History.Follows]
  obtain ⟨h, hr, hf, hcalls, hend⟩ :=
    driveFor_reached (job.moveBound (start job n).workers.length) begun nothing
  refine ⟨h, hr, hf, hcalls, hend.resolve_right fun hmoves => ?_⟩
  have hle := moves_add_potential_le hl room hr
  have hbound : job.moveBound (start job n).workers.length = 6 * job.size + 2 * n + 1 := by
    rw [FetchJob.moveBound, start, List.length_replicate, FetchJob.size]
  rw [hmoves, hbound] at hle
  simp only [Nat.zero_add] at hle
  omega

end FetchPool

end FeeMarket
