import FeeMarket.Proofs.FetchPool.Lookups

/-!
# What the answers alone decide

**Lookup of a number** (`FetchJob.lookUp`). What the lookups for a number come to over a view, one
after the other: the pending block in place of its own number, the header if no percentiles are
asked for, the block and its receipts otherwise.

**The course of a worker** (`FetchJob.finish`). What becomes of a worker once it has heard the
replies that are still to come.

A run that follows a table of answers is on course at every moment (`OnCourse`): whatever worker a
number is with, and whenever it takes its turns, it ends with what the lookup of the number says.
So a deposit depends on its number and the answers alone, and so does the loss of a number.
-/

namespace FeeMarket

/-! ## The status of a reply -/

namespace Lookup

variable {α β : Type}

/-- What a lookup came to, without what it found. -/
def status (l : Lookup α) : Lookup Unit := l.map fun _ => ()

/-- Whether a lookup failed or broke the reader. -/
def Fails : Lookup α → Prop
  | .absent => False
  | .found _ => False
  | .failed _ => True
  | .broken => True

theorem fails_status {l : Lookup α} : l.status.Fails ↔ l.Fails := by
  cases l <;> exact Iff.rfl

theorem status_map (f : α → β) (l : Lookup α) : (l.map f).status = l.status := by
  cases l <;> rfl

theorem status_withBlock (block : Block) {l : Lookup (List Receipt)} (h : l.Fails) :
    (l.withBlock block).status = l.status := by
  cases l with
  | absent | found receipts => exact h.elim
  | failed reason | broken => rfl

end Lookup

/-- What a reply came to. The pending block is never refused. -/
def Reply.status : (c : Call) → Reply c → Lookup Unit
  | .header _, l => Lookup.status l
  | .block _, l => Lookup.status l
  | .receipts _, l => Lookup.status l
  | .pending, _ => .found ()
  | .finalized, l => Lookup.status l

/-- What the reply to a lookup came to. -/
def Heard.status (x : Heard) : Lookup Unit := Reply.status x.call x.reply

namespace FetchJob

variable (job : FetchJob) (view : View)

/-! ## Lookups in sequence -/

/-- What the lookups for a number come to, one after the other. -/
def lookUp (number : UInt64) : Lookup Findings :=
  match job.substitute? number with
  | some b => .found b.findings
  | none =>
    if job.percentiles.isEmpty then
      Lookup.map (fun h => ⟨h, none, none⟩) (view (.header (.number number)))
    else
      match view (.block (.number number)) with
      | .absent => .absent
      | .found block => Lookup.withBlock block (view (.receipts block.hash))
      | .failed reason => .failed reason
      | .broken => .broken

/-- What becomes of a worker once it has heard all replies. There are at most two. -/
def finish (w : Worker) : Worker := job.hear view (job.hear view w)

theorem hear_of_not_awaiting {w : Worker} (hw : w.awaited? = none) : job.hear view w = w := by
  cases w with
  | awaitsHeader n | awaitsBlock n | awaitsReceipts n block => simp [Worker.awaited?] at hw
  | idle | cleared | holds d | finished | dead => rfl

theorem hear_settle (n : UInt64) (l : Lookup Findings) :
    job.hear view (job.settle n l) = job.settle n l :=
  job.hear_of_not_awaiting view (Worker.awaited?_settle job n l)

theorem finish_of_not_awaiting {w : Worker} (hw : w.awaited? = none) : job.finish view w = w := by
  rw [finish, hear_of_not_awaiting _ _ hw, hear_of_not_awaiting _ _ hw]

theorem finish_awaitsHeader (n : UInt64) :
    job.finish view (.awaitsHeader n) =
      job.settle n (Lookup.map (fun h => ⟨h, none, none⟩) (view (.header (.number n)))) :=
  job.hear_settle view n _

theorem finish_awaitsBlock (n : UInt64) :
    job.finish view (.awaitsBlock n) =
      job.settle n (match view (.block (.number n)) with
        | .absent => .absent
        | .found block => Lookup.withBlock block (view (.receipts block.hash))
        | .failed reason => .failed reason
        | .broken => .broken) := by
  have hfirst : job.hear view (.awaitsBlock n) = match view (.block (.number n)) with
    | .absent => job.settle n .absent
    | .found block => .awaitsReceipts n block
    | .failed reason => job.settle n (.failed reason)
    | .broken => job.settle n .broken := rfl
  rw [finish, hfirst]
  cases view (.block (.number n)) with
  | found block => rfl
  | absent | failed reason | broken => exact job.hear_settle view n _

theorem finish_awaitsReceipts (n : UInt64) (block : Block) :
    job.finish view (.awaitsReceipts n block) =
      job.settle n (Lookup.withBlock block (view (.receipts block.hash))) :=
  job.hear_settle view n _

theorem awaited?_finish (w : Worker) : (job.finish view w).awaited? = none := by
  cases w with
  | awaitsHeader n =>
    rw [finish_awaitsHeader]
    exact Worker.awaited?_settle job n _
  | awaitsBlock n =>
    rw [finish_awaitsBlock]
    exact Worker.awaited?_settle job n _
  | awaitsReceipts n block =>
    rw [finish_awaitsReceipts]
    exact Worker.awaited?_settle job n _
  | idle | cleared | holds d | finished | dead => rfl

/-- A reply does not change what becomes of the worker that hears it. -/
theorem finish_hear (w : Worker) : job.finish view (job.hear view w) = job.finish view w :=
  job.hear_of_not_awaiting view (job.awaited?_finish view w)

/-- A worker that has claimed a number ends with the lookup of the number. -/
theorem finish_take (n : UInt64) :
    job.finish view (job.take n) = job.settle n (job.lookUp view n) := by
  unfold take lookUp
  cases job.substitute? n with
  | some b => exact job.finish_of_not_awaiting view (Worker.awaited?_settle job n _)
  | none =>
    simp only
    by_cases hp : job.percentiles.isEmpty = true
    · rw [if_pos hp, if_pos hp, finish_awaitsHeader]
    · rw [if_neg hp, if_neg hp, finish_awaitsBlock]

variable {job view} {w : Worker} {n : UInt64}

theorem hear_congr {view' : View} {x : Heard} (hx : w.heard? view = some x)
    (hreply : x.reply = view' x.call) : job.hear view w = job.hear view' w := by
  cases w with
  | awaitsHeader n | awaitsBlock n | awaitsReceipts n block =>
    cases hx
    simp only at hreply
    simp only [hear, hreply]
  | idle | cleared | holds d | finished | dead => simp [Worker.heard?] at hx

theorem hear_of_fails {x : Heard} (hx : w.heard? view = some x) (hs : x.status.Fails) :
    ∃ l : Lookup Findings, l.status = x.status ∧ job.hear view w = job.settle x.number l := by
  cases w with
  | awaitsHeader n =>
    cases hx
    exact ⟨_, Lookup.status_map _ _, rfl⟩
  | awaitsBlock n =>
    cases hx
    cases hl : view (.block (.number n)) with
    | absent | found block =>
      rw [hl] at hs
      exact hs.elim
    | failed reason => exact ⟨.failed reason, rfl, by rw [hear, hl]⟩
    | broken => exact ⟨.broken, rfl, by rw [hear, hl]⟩
  | awaitsReceipts n block =>
    cases hx
    exact ⟨_, Lookup.status_withBlock block (Lookup.fails_status.1 hs), rfl⟩
  | idle | cleared | holds d | finished | dead => simp [Worker.heard?] at hx

theorem status_of_lookUp_fails (h : (job.lookUp view n).Fails) :
    ∃ c, Reply.status c (view c) = (job.lookUp view n).status := by
  unfold lookUp at h ⊢
  cases hsub : job.substitute? n with
  | some b => simp [hsub, Lookup.Fails] at h
  | none =>
    simp only [hsub] at h ⊢
    split
    · exact ⟨.header (.number n), (Lookup.status_map _ _).symm⟩
    · rename_i hp
      rw [if_neg hp] at h
      cases hb : view (.block (.number n)) with
      | absent => simp [hb, Lookup.Fails] at h
      | found block =>
        simp only [hb] at h
        refine ⟨.receipts block.hash, ?_⟩
        cases hr : view (.receipts block.hash) with
        | absent => simp [hr, Lookup.withBlock, Lookup.Fails] at h
        | found receipts => simp [hr, Lookup.withBlock, Lookup.Fails] at h
        | failed reason | broken =>
          simp only [Reply.status, hr]
          rfl
      | failed reason | broken =>
        refine ⟨.block (.number n), ?_⟩
        simp only [Reply.status, hb]
        rfl

theorem settle_eq_error {l : Lookup Findings} {d : Deposit} {reason : String}
    (h : job.settle n l = .holds d) (hd : d.outcome = .error reason) : l = .failed reason := by
  cases l with
  | absent =>
    cases h
    cases hd
  | broken => cases h
  | failed r =>
    cases h
    cases hd
    rfl
  | found f =>
    rw [settle] at h
    split at h
    · cases h
    · cases h
      cases hd

end FetchJob

/-! ## On course -/

/-- Every number that was claimed is on course to what its lookup says, or has arrived there. -/
structure OnCourse (job : FetchJob) (answers : UInt64 → View) (h : History) (p : FetchPool) :
    Prop where
  course : ∀ w ∈ p.workers, ∀ n, w.number? = some n →
    job.finish (answers n) w = job.settle n (job.lookUp (answers n) n)
  deposits : ∀ d ∈ p.received ++ p.queue,
    job.settle d.number (job.lookUp (answers d.number) d.number) = .holds d
  lost : ∀ n ∈ h.lost, job.settle n (job.lookUp (answers n) n) = .dead
  /-- A reply that failed settled its number. -/
  failed : ∀ x ∈ h.heard, x.status.Fails → ∃ l : Lookup Findings, l.status = x.status ∧
    job.settle x.number (job.lookUp (answers x.number) x.number) = job.settle x.number l

namespace OnCourse

variable {job : FetchJob} {answers : UInt64 → View} {n i : Nat} {view : View} {h : History}
  {p q : FetchPool} {d : Deed}

theorem start (job : FetchJob) (answers : UInt64 → View) (n : Nat) :
    OnCourse job answers {} (.start job n) where
  course := by
    intro w hw m hm
    obtain ⟨-, rfl⟩ := List.mem_replicate.1 hw
    cases hm
  deposits := by simp [FetchPool.start]
  lost := by simp
  failed := by simp

/-- A turn after which the worker has no number. -/
theorem rest {w' : Worker} (ho : OnCourse job answers h p)
    (hworkers : q.workers = p.workers.set i w') (hnone : w'.number? = none)
    (hheard : d.heard = none) (hlost : d.lost = none)
    (hdeposits : ∀ x ∈ q.received ++ q.queue,
      job.settle x.number (job.lookUp (answers x.number) x.number) = .holds x) :
    OnCourse job answers (h.add d) q where
  course := by
    intro v hv m hm
    rw [hworkers] at hv
    rcases List.mem_or_eq_of_mem_set hv with hv | rfl
    · exact ho.course v hv m hm
    · simp [hnone] at hm
  deposits := hdeposits
  lost := by simpa [History.add, hlost] using ho.lost
  failed := by simpa [History.add, hheard] using ho.failed

/-- A turn after which the worker works on a number, on course. -/
theorem work {w' : Worker} {m : UInt64} (ho : OnCourse job answers h p)
    (hworkers : q.workers = p.workers.set i w')
    (hdeposits : q.received ++ q.queue = p.received ++ p.queue) (hworks : w'.WorksOn m)
    (hcourse : job.finish (answers m) w' = job.settle m (job.lookUp (answers m) m))
    (hlost : d.lost = if w'.isDead then some m else none)
    (hheard : ∀ x ∈ d.heard, x.number = m ∧ (x.status.Fails →
      ∃ l : Lookup Findings, l.status = x.status ∧ w' = job.settle m l)) :
    OnCourse job answers (h.add d) q where
  course := by
    intro v hv k hk
    rw [hworkers] at hv
    rcases List.mem_or_eq_of_mem_set hv with hv | rfl
    · exact ho.course v hv k hk
    · obtain rfl := hworks.number_eq hk
      exact hcourse
  deposits := hdeposits ▸ ho.deposits
  lost := by
    intro k hk
    rcases List.mem_append.1 hk with hk | hk
    · exact ho.lost k hk
    · rw [hlost] at hk
      cases w' with
      | dead =>
        obtain rfl : k = m := by simpa [Worker.isDead] using hk
        exact hcourse.symm
      | _ => simp [Worker.isDead] at hk
  failed := by
    intro x hx hs
    rcases List.mem_append.1 hx with hx | hx
    · exact ho.failed x hx hs
    · obtain ⟨rfl, hfails⟩ := hheard x (by simpa using hx)
      obtain ⟨l, hl, rfl⟩ := hfails hs
      refine ⟨l, hl, ?_⟩
      rw [← hcourse]
      exact job.finish_of_not_awaiting _ (Worker.awaited?_settle job _ l)

theorem turn (ho : OnCourse job answers h p) (hs : FetchPool.Turned job p i view d q)
    (hf : (h.add d).Follows answers) : OnCourse job answers (h.add d) q := by
  cases hs with
  | cleared hw hc => exact ho.rest rfl rfl rfl rfl ho.deposits
  | dismissed hw hc => exact ho.rest rfl rfl rfl rfl ho.deposits
  | overshot hw hn => exact ho.rest rfl rfl rfl rfl ho.deposits
  | claimed hw hn =>
    exact ho.work rfl rfl (job.worksOn_take p.next) (job.finish_take _ _) rfl (by simp)
  | @heard w m x hw hm hx =>
    have hxm : x.number = m := Option.some.inj ((Worker.number_of_heard? hx).symm.trans hm)
    -- The reply is that of the table, so the worker hears what it would hear there.
    have hreply : x.reply = answers m x.call := by
      have := hf x (by simp [History.add])
      rwa [hxm] at this
    have hsame : job.hear view w = job.hear (answers m) w := FetchJob.hear_congr hx hreply
    refine ho.work rfl rfl (job.worksOn_hear view hm) ?_ rfl ?_
    · rw [hsame, job.finish_hear]
      exact ho.course w (List.mem_of_getElem? hw) m (Worker.number?_of_awaited? hm)
    · intro y hy
      obtain rfl : x = y := by simpa using hy
      subst hxm
      exact ⟨rfl, FetchJob.hear_of_fails hx⟩
  | @deposited x hw =>
    refine ho.rest rfl rfl rfl rfl fun y hy => ?_
    rw [FetchPool.received_put, ← List.append_assoc] at hy
    rcases List.mem_append.1 hy with hy | hy
    · exact ho.deposits y hy
    · obtain rfl : y = x := by simpa using hy
      exact (ho.course _ (List.mem_of_getElem? hw) y.number rfl).symm

theorem receive {x : Deposit} {rest : List Deposit} (ho : OnCourse job answers h p)
    (hq : p.queue = x :: rest) :
    OnCourse job answers (h.add {})
      { p with queue := rest, received := p.received ++ [x] } where
  course := ho.course
  deposits := by
    have hd := ho.deposits
    rw [hq] at hd
    simpa using hd
  lost := by simpa [History.add] using ho.lost
  failed := by simpa [History.add] using ho.failed

/-- **Runs stay on course.** -/
theorem of_reached {enough : List Deposit → Bool}
    (hr : FetchPool.Reached job enough (.start job n) h p) (hf : h.Follows answers) :
    OnCourse job answers h p := by
  refine hr.invariant (motive := fun h p => h.Follows answers → OnCourse job answers h p)
    (fun _ => .start job answers n) ?_ ?_ hf
  · intro h p i view d q ho hs hf
    exact (ho fun x hx => hf x (List.mem_append_left _ hx)).turn hs hf
  · intro h p x rest ho hq _ hf
    exact (ho fun x hx => hf x (List.mem_append_left _ hx)).receive hq

end OnCourse

/-! ## Answers that fail -/

theorem Heard.status_replyTo (n : UInt64) (c : Call) (l : List Heard) :
    ¬ (Reply.status c (replyTo n c l)).Fails ∨
      ∃ x ∈ l, x.number = n ∧ x.status = Reply.status c (replyTo n c l) := by
  induction l with
  | nil =>
    refine .inl fun h => ?_
    cases c <;> exact h
  | cons x rest ih =>
    rw [replyTo]
    split
    · rename_i hx
      obtain ⟨rfl, rfl⟩ := hx
      exact .inr ⟨x, List.mem_cons_self, rfl, rfl⟩
    · refine ih.imp_right ?_
      rintro ⟨y, hy, hn, hs⟩
      exact ⟨y, List.mem_cons_of_mem _ hy, hn, hs⟩

theorem History.heard_of_lookUp_fails {job : FetchJob} {h : History} {n : UInt64}
    (hl : (job.lookUp (h.answers n) n).Fails) :
    ∃ x ∈ h.heard, x.number = n ∧ x.status = (job.lookUp (h.answers n) n).status := by
  obtain ⟨c, hc⟩ := FetchJob.status_of_lookUp_fails hl
  rcases Heard.status_replyTo n c h.heard with hok | ⟨x, hx, hn, hs⟩
  · refine absurd ?_ hok
    show (Reply.status c (h.answers n c)).Fails
    rw [hc]
    exact Lookup.fails_status.2 hl
  · exact ⟨x, hx, hn, hs.trans hc⟩

end FeeMarket
