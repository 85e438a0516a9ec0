import FeeMarket.Proofs.Schedule

/-!
# Queries over a chain that does not change

**Yields** (`Oracle.Yields`). What a query can come to over a chain, the workers and the consumer
taking turns in any order. A query **answers** or **refuses** if it yields just that, and **comes
to** an outcome of either kind likewise (`Oracle.ComesTo`).

Where the windows of a selector end does not depend on how many blocks are asked for
(`resolve_uniform`). What all settled runs over a window come to, the query comes to
(`comesTo_of_runs`). If no lookup fails and the receipts are metered, that is the reference
(`answers_reference`).
-/

namespace FeeMarket

theorem Heard.replyTo_cases {view : View} {n : UInt64} (c : Call) {l : List Heard}
    (hl : ∀ x ∈ l, x.reply = view x.call) :
    replyTo n c l = view c ∨ replyTo n c l = Reply.nothing c := by
  induction l with
  | nil => exact .inr rfl
  | cons x rest ih =>
    rw [replyTo]
    split
    · rename_i hx
      obtain ⟨-, rfl⟩ := hx
      exact .inl (hl x List.mem_cons_self)
    · exact ih fun y hy => hl y (List.mem_cons_of_mem x hy)

theorem History.Follows.heard_sound {h : History} {answers : UInt64 → View}
    (hf : h.Follows answers) (sound : ∀ n c, ¬ (Reply.status c (answers n c)).Fails) :
    ∀ x ∈ h.heard, ¬ x.status.Fails := by
  intro x hx hfails
  rw [Heard.status, hf x hx] at hfails
  exact sound x.number x.call hfails

/-- The receipts of a chain are metered: the gas that those of one block used is a word. -/
def View.Metered (view : View) : Prop :=
  ∀ hash receipts, view (.receipts hash) = .found receipts → gasOf receipts < UInt64.size

theorem FetchJob.metered_of_view {job : FetchJob} {view : View} {h : History}
    (hm : view.Metered) (hp : ∀ b, job.pending = some b → gasOf b.receipts < UInt64.size)
    (hf : h.Follows fun _ => view) : job.Metered h.answers := by
  refine ⟨hp, fun n hash receipts hr => ?_⟩
  rcases Heard.replyTo_cases (n := n) (.receipts hash) hf with heq | heq
  · exact hm hash receipts (heq.symm.trans hr)
  · cases heq.symm.trans hr

/-- Whether a selector can be resolved, and where its windows end, does not depend on how many blocks
are asked for. If no block is pending, all windows lack one block of the count. -/
theorem Window.resolve_uniform {view : View} (sound : ∀ c, ¬ (Reply.status c (view c)).Fails)
    (selector : Selector) :
    (∃ e : FeeHistoryError, e.category = .range ∧
      ∀ count, (resolve selector count).outcome view = .error (.refused e)) ∨
    ∃ pending last short, ∀ count, (resolve selector count).outcome view =
      .ok (ending pending last (Word.subDownTo count short)) := by
  have hsound := sound (.header .latest)
  cases hhead : view (.header .latest) with
  | failed reason | broken =>
    rw [hhead] at hsound
    exact absurd trivial hsound
  | absent =>
    refine .inl ⟨.unresolved .latest, rfl, fun count => ?_⟩
    rw [outcome_resolve, hhead]
  | found head =>
    cases selector with
    | number requested =>
      by_cases hlt : head.number < requested
      · refine .inl ⟨.beyondHead requested head.number, rfl, fun count => ?_⟩
        simp only [outcome_resolve, hhead, if_pos hlt]
      · refine .inr ⟨none, requested, 0, fun count => ?_⟩
        simp only [outcome_resolve, hhead, if_neg hlt, Word.subDownTo_zero]
    | latest =>
      refine .inr ⟨none, head.number, 0, fun count => ?_⟩
      simp only [outcome_resolve, hhead, Word.subDownTo_zero]
    | pending =>
      cases hb : view .pending with
      | some b =>
        refine .inr ⟨some b, b.number, 0, fun count => ?_⟩
        simp only [outcome_resolve, hhead, hb, Word.subDownTo_zero]
      | none =>
        refine .inr ⟨none, head.number, 1, fun count => ?_⟩
        simp only [outcome_resolve, hhead, hb]
    | finalized =>
      have hsound := sound .finalized
      cases hblock : view .finalized with
      | failed reason | broken =>
        rw [hblock] at hsound
        exact absurd trivial hsound
      | absent =>
        refine .inl ⟨.unresolved .finalized, rfl, fun count => ?_⟩
        simp only [outcome_resolve, hhead, hblock]
      | found block =>
        refine .inr ⟨none, block.number, 0, fun count => ?_⟩
        simp only [outcome_resolve, hhead, hblock, Word.subDownTo_zero]

namespace Oracle

/-- What a query can come to over a chain that does not change. -/
inductive Yields (o : Oracle) (view : View) (count : UInt64) (last : Selector)
    (percentiles : List Float) : Except Stop FeeHistory → Prop
  | stopped {stop} : (o.plan count last percentiles).outcome view = .error stop →
      Yields o view count last percentiles (.error stop)
  | nothing {window} : (o.plan count last percentiles).outcome view = .ok window →
      window.isEmpty = true → Yields o view count last percentiles (.ok .empty)
  | unstarted {window stop} : (o.plan count last percentiles).outcome view = .ok window →
      window.isEmpty = false → (o.start window percentiles).outcome view = .error stop →
      Yields o view count last percentiles (.error stop)
  | covered {window job pool h p} : (o.plan count last percentiles).outcome view = .ok window →
      window.isEmpty = false → (o.start window percentiles).outcome view = .ok (job, pool) →
      FetchPool.Reached job (satisfied window.count.toNat) pool h p →
      p.Settled (satisfied window.count.toNat) → (h.Follows fun _ => view) →
      Yields o view count last percentiles
        ((conclude job window.count.toNat p).outcome view)

variable {o : Oracle} {count : UInt64} {last : Selector} {percentiles : List Float}
  {window : Window} {view : View}

/-- The query of the program has this answer, and no schedule of it has another one. -/
structure Answers (o : Oracle) (view : View) (count : UInt64) (last : Selector)
    (percentiles : List Float) (history : FeeHistory) : Prop where
  answered : (o.feeHistory count last percentiles).outcome view = .ok history
  only : ∀ outcome, o.Yields view count last percentiles outcome ↔ outcome = .ok history

/-- The query of the program is refused with this error, and so is every schedule of it. -/
structure Refuses (o : Oracle) (view : View) (count : UInt64) (last : Selector)
    (percentiles : List Float) (error : FeeHistoryError) : Prop where
  refused : (o.feeHistory count last percentiles).outcome view = .error (.refused error)
  only : ∀ outcome, o.Yields view count last percentiles outcome ↔
    outcome = .error (.refused error)

/-- The query of the program comes to this, and no schedule of it comes to anything else. -/
structure ComesTo (o : Oracle) (view : View) (count : UInt64) (last : Selector)
    (percentiles : List Float) (outcome : Except Stop FeeHistory) : Prop where
  program : (o.feeHistory count last percentiles).outcome view = outcome
  only : ∀ x, o.Yields view count last percentiles x ↔ x = outcome

theorem yields_iff_of_stop {stop : Stop}
    (planned : (o.plan count last percentiles).outcome view = .error stop)
    (outcome : Except Stop FeeHistory) :
    o.Yields view count last percentiles outcome ↔ outcome = .error stop := by
  constructor
  · intro hy
    cases hy with
    | stopped hplan =>
      cases planned.symm.trans hplan
      rfl
    | nothing hplan | unstarted hplan | covered hplan => cases planned.symm.trans hplan
  · rintro rfl
    exact .stopped planned

/-- What a query over a window with blocks yields: the fault that it starts with, or what a settled
run comes to. -/
theorem Yields.of_window {outcome : Except Stop FeeHistory}
    (hy : o.Yields view count last percentiles outcome)
    (planned : (o.plan count last percentiles).outcome view = .ok window)
    (nonempty : window.isEmpty = false) :
    (∃ stop, (o.start window percentiles).outcome view = .error stop ∧ outcome = .error stop) ∨
    ∃ job pool h p, (o.start window percentiles).outcome view = .ok (job, pool) ∧
      FetchPool.Reached job (satisfied window.count.toNat) pool h p ∧
      p.Settled (satisfied window.count.toNat) ∧ (h.Follows fun _ => view) ∧
      outcome = (conclude job window.count.toNat p).outcome view := by
  cases hy with
  | stopped hplan => cases planned.symm.trans hplan
  | nothing hplan empty =>
    cases planned.symm.trans hplan
    cases nonempty.symm.trans empty
  | unstarted hplan _ hstart =>
    cases planned.symm.trans hplan
    exact .inl ⟨_, hstart, rfl⟩
  | covered hplan _ hstart hreached hsettled hfollows =>
    cases planned.symm.trans hplan
    exact .inr ⟨_, _, _, _, hstart, hreached, hsettled, hfollows, rfl⟩

/-- A query yields what its workers and its consumer come to if they take their turns like this. -/
theorem Yields.of_replay (turns : List (Option Nat)) {job : FetchJob} {pool p : FetchPool}
    {h : History} (planned : (o.plan count last percentiles).outcome view = .ok window)
    (nonempty : window.isEmpty = false)
    (started : (o.start window percentiles).outcome view = .ok (job, pool))
    (replayed : FetchPool.replay job (satisfied window.count.toNat)
      (turns.map (FetchPool.Move.over view)) {} pool = some (h, p))
    (settled : p.Settled (satisfied window.count.toNat)) :
    o.Yields view count last percentiles ((conclude job window.count.toNat p).outcome view) :=
  .covered planned nonempty started (FetchPool.Reached.start.replay replayed) settled
    (FetchPool.follows_of_replay replayed (by simp [History.Follows]))

theorem refuses_of_plan {error : FeeHistoryError}
    (planned : (o.plan count last percentiles).outcome view = .error (.refused error)) :
    o.Refuses view count last percentiles error :=
  ⟨outcome_feeHistory_of_stop planned, yields_iff_of_stop planned⟩

theorem answers_empty (planned : (o.plan count last percentiles).outcome view = .ok window)
    (empty : window.isEmpty = true) : o.Answers view count last percentiles .empty := by
  constructor
  · rw [outcome_feeHistory, collect, Query.outcome_bind, planned]
    simp only [Except.bind, empty, if_true]
    rfl
  · intro outcome
    constructor
    · intro hy
      cases hy with
      | stopped hplan => cases planned.symm.trans hplan
      | nothing => rfl
      | unstarted hplan nonempty | covered hplan nonempty =>
        cases planned.symm.trans hplan
        rw [empty] at nonempty
        cases nonempty
    · rintro rfl
      exact .nothing planned empty

/-- A query over a window comes to what all its settled runs come to. -/
theorem comesTo_of_runs {outcome : Except Stop FeeHistory}
    (planned : (o.plan count last percentiles).outcome view = .ok window)
    (nonempty : window.isEmpty = false)
    (room : window.last.toNat + o.workers window < UInt64.size)
    (fits : window.count.toNat ≤ maxQueueLength)
    (concluded : ∀ {h p}, FetchPool.Reached (o.job window percentiles)
        (satisfied window.count.toNat)
        (.start (o.job window percentiles) (o.workers window)) h p →
      p.Settled (satisfied window.count.toNat) → (h.Follows fun _ => view) →
        (conclude (o.job window percentiles) window.count.toNat p).outcome view = outcome) :
    o.ComesTo view count last percentiles outcome := by
  obtain ⟨hc, hlast, -⟩ := startable planned nonempty room
  have hstart : (o.start window percentiles).outcome view =
      .ok (o.job window percentiles, .start (o.job window percentiles) (o.workers window)) :=
    outcome_start o percentiles nonempty hc hlast fits
  obtain ⟨h, p, hr, hs, hf, houtcome⟩ := feeHistory_reached planned nonempty room fits
  refine ⟨houtcome.trans (concluded hr hs hf), fun x => ⟨?_, ?_⟩⟩
  · intro hx
    rcases hx.of_window planned nonempty with
      ⟨stop, hunstarted, -⟩ | ⟨job, pool, h', p', hstarted, hreached, hsettled, hfollows, rfl⟩
    · cases hstart.symm.trans hunstarted
    · cases hstart.symm.trans hstarted
      exact concluded hreached hsettled hfollows
  · rintro rfl
    rw [← concluded hr hs hf]
    exact .covered planned nonempty hstart hr hs hf

/-- **Only the reference.** Every schedule of a query over a window yields the reference, and the
query of the program is one of them. -/
theorem answers_reference (planned : (o.plan count last percentiles).outcome view = .ok window)
    (nonempty : window.isEmpty = false)
    (room : window.last.toNat + o.workers window < UInt64.size)
    (fits : window.count.toNat ≤ maxQueueLength)
    (sound : ∀ c, ¬ (Reply.status c (view c)).Fails) (metered : view.Metered)
    (hp : ∀ b, window.pending = some b → gasOf b.receipts < UInt64.size) :
    ∃ history, (o.job window percentiles).reference (fun _ => view) = .ok history ∧
      o.Answers view count last percentiles history := by
  obtain ⟨-, -, hn, hl, hsize⟩ := startable planned nonempty room
  have room' : (o.job window percentiles).last.toNat + o.workers window < UInt64.size := room
  -- Whatever run settles has the reference as its answer.
  have answered {h : History} {p : FetchPool}
      (hr : FetchPool.Reached (o.job window percentiles) (satisfied window.count.toNat)
        (.start (o.job window percentiles) (o.workers window)) h p)
      (hs : p.Settled (satisfied window.count.toNat)) (hf : h.Follows fun _ => view) :
      ∃ history, (o.job window percentiles).reference (fun _ => view) = .ok history ∧
        ∀ v, (conclude (o.job window percentiles) window.count.toNat p).outcome v =
          .ok history := by
    rw [← hsize] at hr hs ⊢
    exact hr.answered o.chain_valid hn hl room' hs (FetchJob.metered_of_view metered hp hf)
      (hf.heard_sound fun _ => sound) hf
  obtain ⟨h, p, hr, hs, hf, -⟩ := feeHistory_reached planned nonempty room fits
  obtain ⟨history, href, -⟩ := answered hr hs hf
  have comes : o.ComesTo view count last percentiles (.ok history) := by
    refine comesTo_of_runs planned nonempty room fits fun hr hs hf => ?_
    obtain ⟨history', href', hconclude⟩ := answered hr hs hf
    cases href.symm.trans href'
    exact hconclude view
  exact ⟨history, href, comes.program, comes.only⟩

end Oracle

end FeeMarket
