import FeeMarket.Proofs.FetchPool.Answers

/-!
# The calls of a run, number by number

**Calls for a number** (`FetchJob.callsFor`). What is asked for a number of the range: nothing for that
of the pending block, and otherwise its header; or its block, and then the receipts of the block if
there is one.

**Owed** (`Worker.owed`). The calls that a worker has still to make for its number.

The calls that were made for a number and those that are owed for it are always the calls for it
(`Traced`). The invariant is carried by the worker that has the number in flight: a reply moves one
call from those owed to those made. A worker that deposits owes nothing.

So when every number was received, the calls made are those for the numbers of the range
(`Traced.calls_perm`), in some order, and nothing else.
-/

namespace FeeMarket

/-! ## Calls for a number -/

/-- What is asked after the lookup of a block. -/
def Lookup.receiptsAsked : Lookup Block → List Call
  | .found block => [.receipts block.hash]
  | _ => []

namespace Worker

/-- The calls that a worker has still to make over a view. -/
def owed (view : View) : Worker → List Call
  | .awaitsHeader n => [.header (.number n)]
  | .awaitsBlock n => .block (.number n) :: (view (.block (.number n))).receiptsAsked
  | .awaitsReceipts _ block => [.receipts block.hash]
  | _ => []

variable {view : View} {w : Worker} {x : Heard}

theorem owed_of_not_awaiting (h : w.awaited? = none) : w.owed view = [] := by
  cases w with
  | awaitsHeader n | awaitsBlock n | awaitsReceipts n block => simp [awaited?] at h
  | idle | cleared | holds d | finished | dead => rfl

theorem owed_settle (job : FetchJob) (n : UInt64) (l : Lookup Findings) :
    (job.settle n l).owed view = [] := owed_of_not_awaiting (awaited?_settle job n l)

/-- A worker that hears a reply owes one call less. -/
theorem owed_of_heard {view' : View} (job : FetchJob) (hx : w.heard? view = some x) :
    w.owed view' = x.call :: (job.hear view' w).owed view' := by
  cases w with
  | awaitsHeader n =>
    cases hx
    rw [FetchJob.hear, owed_settle]
    rfl
  | awaitsBlock n =>
    cases hx
    rw [owed, FetchJob.hear]
    cases view' (.block (.number n)) with
    | found block => rfl
    | absent | failed reason | broken =>
      rw [owed_settle]
      rfl
  | awaitsReceipts n block =>
    cases hx
    rw [FetchJob.hear, owed_settle]
    rfl
  | idle | cleared | holds d | finished | dead => simp [heard?] at hx

end Worker

namespace FetchJob

/-- What is asked for a number of the range. -/
def callsFor (job : FetchJob) (view : View) (number : UInt64) : List Call :=
  match job.substitute? number with
  | some _ => []
  | none =>
    if job.percentiles.isEmpty then [.header (.number number)]
    else .block (.number number) :: (view (.block (.number number))).receiptsAsked

theorem owed_take (job : FetchJob) (view : View) (number : UInt64) :
    (job.take number).owed view = job.callsFor view number := by
  unfold take callsFor
  cases job.substitute? number with
  | some b => exact Worker.owed_settle job number _
  | none =>
    simp only
    split <;> rfl

end FetchJob

namespace History

/-- The calls that were made for a number. -/
def callsFor (h : History) (number : UInt64) : List Call :=
  (h.heard.filter fun x => x.number = number).map Heard.call

variable {h : History} {d : Deed} {x : Heard} {n : UInt64}

theorem callsFor_add_of_quiet (hd : d.heard = none) (n : UInt64) :
    (h.add d).callsFor n = h.callsFor n := by
  rw [callsFor, heard_add, hd, Option.toList_none, List.append_nil, callsFor]

theorem callsFor_add_self (hd : d.heard = some x) :
    (h.add d).callsFor x.number = h.callsFor x.number ++ [x.call] := by
  rw [callsFor, heard_add, hd, Option.toList_some, List.filter_append, List.map_append, callsFor]
  simp

theorem callsFor_add_of_ne (hd : d.heard = some x) (hn : x.number ≠ n) :
    (h.add d).callsFor n = h.callsFor n := by
  rw [callsFor, heard_add, hd, Option.toList_some, List.filter_append, callsFor]
  simp [hn]

end History

/-! ## Made and owed -/

/-- What was asked for a number, and what is still to be asked, are the calls for it. -/
structure Traced (job : FetchJob) (answers : UInt64 → View) (h : History) (p : FetchPool) :
    Prop where
  flight : ∀ w ∈ p.workers, ∀ n, w.number? = some n →
    h.callsFor n ++ w.owed (answers n) = job.callsFor (answers n) n
  deposits : ∀ n ∈ p.deposited, h.callsFor n = job.callsFor (answers n) n

namespace Traced

variable {job : FetchJob} {answers : UInt64 → View} {n i : Nat} {view : View} {h : History}
  {p q : FetchPool} {d : Deed}

theorem start (job : FetchJob) (answers : UInt64 → View) (n : Nat) :
    Traced job answers {} (.start job n) where
  flight := by
    intro w hw m hm
    obtain ⟨-, rfl⟩ := List.mem_replicate.1 hw
    cases hm
  deposits := by simp [FetchPool.start, FetchPool.deposited]

/-- A turn that hears nothing leaves the calls made as they are. -/
theorem swap {w' : Worker} (tr : Traced job answers h p) (hquiet : d.heard = none)
    (hworkers : q.workers = p.workers.set i w')
    (hflight : ∀ m, w'.number? = some m →
      h.callsFor m ++ w'.owed (answers m) = job.callsFor (answers m) m)
    (hdeposits : ∀ m ∈ q.deposited, h.callsFor m = job.callsFor (answers m) m) :
    Traced job answers (h.add d) q where
  flight := by
    intro v hv m hm
    rw [hworkers] at hv
    rw [History.callsFor_add_of_quiet hquiet]
    rcases List.mem_or_eq_of_mem_set hv with hv | rfl
    · exact tr.flight v hv m hm
    · exact hflight m hm
  deposits := by
    intro m hm
    rw [History.callsFor_add_of_quiet hquiet]
    exact hdeposits m hm

theorem turn (tr : Traced job answers h p) (ha : Asked job h p) (ht : Tally job n h p)
    (hl : job.oldest ≤ job.last) (room : job.last.toNat + n < UInt64.size)
    (hs : FetchPool.Turned job p i view d q) (hf : (h.add d).Follows answers) :
    Traced job answers (h.add d) q := by
  cases hs with
  | cleared hw hc | dismissed hw hc | overshot hw hn =>
    exact tr.swap rfl rfl (by simp [Worker.number?, Worker.awaited?]) tr.deposits
  | claimed hw hn =>
    refine tr.swap rfl rfl (fun m hm => ?_) tr.deposits
    obtain rfl := (job.worksOn_take p.next).number_eq hm
    -- Nothing was asked yet for the number at the counter.
    have hnone : h.callsFor p.next = [] := by
      rw [History.callsFor, List.map_eq_nil_iff, List.filter_eq_nil_iff]
      intro x hx hxn
      exact ha.number_ne_next ht hl room hw x hx (of_decide_eq_true hxn)
    rw [hnone, List.nil_append, FetchJob.owed_take]
  | @heard w m x hw hm hx =>
    have hxm : x.number = m := Option.some.inj ((Worker.number_of_heard? hx).symm.trans hm)
    subst hxm
    have hreply : x.reply = answers x.number x.call := hf x (by simp [History.add])
    have hsame : job.hear view w = job.hear (answers x.number) w := FetchJob.hear_congr hx hreply
    have hnumber : w.number? = some x.number := Worker.number?_of_awaited? hm
    have hwin : w ∈ p.workers := List.mem_of_getElem? hw
    constructor
    · intro v hv k hk
      rcases ht.alone hl hw hnumber hv with rfl | hne
      · obtain rfl := (job.worksOn_hear view hm).number_eq hk
        have hcourse := tr.flight w hwin x.number hnumber
        rw [Worker.owed_of_heard job hx, ← hsame] at hcourse
        rw [History.callsFor_add_self rfl, List.append_assoc]
        exact hcourse
      · have hxk : x.number ≠ k := fun heq => hne (heq ▸ hk)
        rw [History.callsFor_add_of_ne rfl hxk]
        rcases List.mem_or_eq_of_mem_set hv with hv | rfl
        · exact tr.flight v hv k hk
        · exact absurd ((job.worksOn_hear view hm).number_eq hk) hxk
    · intro k hk
      -- The number of the worker is in flight, so it is not among the deposits.
      have hflight : x.number ∈ p.inFlight := List.mem_filterMap.2 ⟨w, hwin, hnumber⟩
      have hxk : x.number ≠ k := by
        rintro rfl
        have hnodup := (List.nodup_append.1 (ht.nodup_places hl)).2.2
        exact hnodup _ (List.mem_append_right _ hflight) _ hk rfl
      rw [History.callsFor_add_of_ne rfl hxk]
      exact tr.deposits k hk
  | @deposited x hw =>
    refine tr.swap rfl rfl (by simp [Worker.number?, Worker.awaited?]) fun m hm => ?_
    rw [FetchPool.deposited, FetchPool.received_put, ← List.append_assoc, List.map_append] at hm
    rcases List.mem_append.1 hm with hm | hm
    · exact tr.deposits m hm
    · obtain rfl : m = x.number := by simpa using hm
      have hcourse := tr.flight _ (List.mem_of_getElem? hw) x.number rfl
      rwa [Worker.owed_of_not_awaiting rfl, List.append_nil] at hcourse

theorem receive {x : Deposit} {rest : List Deposit} (tr : Traced job answers h p)
    (hq : p.queue = x :: rest) :
    Traced job answers (h.add {}) { p with queue := rest, received := p.received ++ [x] } where
  flight := by
    intro w hw m hm
    rw [History.callsFor_add_of_quiet rfl]
    exact tr.flight w hw m hm
  deposits := by
    intro m hm
    rw [History.callsFor_add_of_quiet rfl]
    refine tr.deposits m ?_
    rw [FetchPool.deposited, hq]
    simpa [FetchPool.deposited] using hm

theorem of_reached {enough : List Deposit → Bool} (hl : job.oldest ≤ job.last)
    (room : job.last.toNat + n < UInt64.size)
    (hr : FetchPool.Reached job enough (.start job n) h p) (hf : h.Follows answers) :
    Traced job answers h p := by
  have all : Tally job n h p ∧ Asked job h p ∧ (h.Follows answers → Traced job answers h p) := by
    refine hr.invariant (motive := fun h p => Tally job n h p ∧ Asked job h p ∧
      (h.Follows answers → Traced job answers h p))
      ⟨.start job n, .start job n, fun _ => .start job answers n⟩ ?_ ?_
    · intro h p i view d q ⟨ht, ha, tr⟩ hs
      refine ⟨ht.turn hl room hs, ha.turn ht hl room hs, fun hf => ?_⟩
      exact (tr fun x hx => hf x (List.mem_append_left _ hx)).turn ha ht hl room hs hf
    · intro h p x rest ⟨ht, ha, tr⟩ hq _
      refine ⟨ht.receive hq, ha.receive, fun hf => ?_⟩
      exact (tr fun x hx => hf x (List.mem_append_left _ hx)).receive hq
  exact all.2.2 hf

end Traced

/-! ## All calls of a run -/

theorem perm_flatMap_filter {α β : Type} [DecidableEq β] (f : α → β) {l : List α} {keys : List β}
    (distinct : keys.Nodup) (within : ∀ x ∈ l, f x ∈ keys) :
    l.Perm (keys.flatMap fun k => l.filter fun x => f x = k) := by
  induction keys generalizing l with
  | nil =>
    cases l with
    | nil => exact .refl _
    | cons x rest => simpa using within x
  | cons k keys ih =>
    obtain ⟨hk, distinct⟩ := List.nodup_cons.1 distinct
    rw [List.flatMap_cons]
    have hrest : ∀ x ∈ l.filter fun x => !decide (f x = k), f x ∈ keys := by
      intro x hx
      obtain ⟨hx, hne⟩ := List.mem_filter.1 hx
      exact (List.mem_cons.1 (within x hx)).resolve_left (by simpa using hne)
    have hsame : (keys.flatMap fun k' => (l.filter fun x => !decide (f x = k)).filter
        fun x => f x = k') = keys.flatMap fun k' => l.filter fun x => f x = k' := by
      refine List.flatMap_congr fun k' hk' => ?_
      rw [List.filter_filter]
      refine List.filter_congr fun x _ => ?_
      by_cases hx : f x = k'
      · have hne : k' ≠ k := fun heq => hk (heq ▸ hk')
        simp [hx, hne]
      · simp [hx]
    calc l
      _ |>.Perm (l.filter (fun x => f x = k) ++ l.filter fun x => !decide (f x = k)) :=
          (List.filter_append_perm _ l).symm
      _ |>.Perm _ := (hsame ▸ ih distinct hrest).append_left _

/-- **The calls of a run that has received every number.** -/
theorem Traced.calls_perm {job : FetchJob} {answers : UInt64 → View} {h : History}
    {p : FetchPool} (tr : Traced job answers h p) (ha : Asked job h p) (hl : job.oldest ≤ job.last)
    (hreceived : (p.received.map Deposit.number).Perm job.numbers) :
    (h.heard.map Heard.call).Perm (job.numbers.flatMap fun m => job.callsFor (answers m) m) := by
  have distinct : job.numbers.Nodup := nodup_countFrom (FetchJob.oldest_add_size_le hl)
  have within : ∀ x ∈ h.heard, x.number ∈ job.numbers :=
    fun x hx => countFrom_subset (Nat.min_le_right _ _) (ha.within x hx)
  have settled : ∀ m ∈ job.numbers, h.callsFor m = job.callsFor (answers m) m := by
    intro m hm
    refine tr.deposits m ?_
    rw [FetchPool.deposited, List.map_append]
    exact List.mem_append_left _ (hreceived.symm.subset hm)
  calc h.heard.map Heard.call
    _ |>.Perm ((job.numbers.flatMap fun m => h.heard.filter fun x => x.number = m).map
        Heard.call) := (perm_flatMap_filter Heard.number distinct within).map _
    _ = job.numbers.flatMap h.callsFor := List.map_flatMap
    _ = job.numbers.flatMap fun m => job.callsFor (answers m) m := List.flatMap_congr settled

end FeeMarket
