import FeeMarket.Oracle
import FeeMarket.Proofs.FetchPool.Tally

/-!
# The window of a query

**Resolves** (`Window.Resolves`). The windows that a selector and a count can resolve to, one case
for each kind of end (`resolves_of_outcome`). **Width** (`Oracle.width`). The count that the window
of a query is resolved for: what is asked for, cut to the longest window that is served.

A window that is resolved covers at most the blocks from zero up to its last one
(`Resolves.count_le`). If the number after the last one is a word, the window has an oldest
block, and the job of fetching it has just as many numbers as the window counts.
-/

namespace FeeMarket

variable {view : View}

namespace Window

theorem count_ending (pending : Option FullBlock) (last count : UInt64) :
    (ending pending last count).count = min count (Word.addUpTo last 1) := by
  unfold ending
  split
  · rename_i hzero
    rw [hzero]
    apply UInt64.toNat_inj.1
    rw [toNat_min, UInt64.toNat_zero, Nat.zero_min]
    rfl
  · rfl

theorem count_ending_le (pending : Option FullBlock) (last count : UInt64) :
    (ending pending last count).count.toNat ≤ (ending pending last count).last.toNat + 1 := by
  unfold ending
  split
  · exact Nat.zero_le _
  · rw [toNat_min, Word.addUpTo, Word.toNat_saturate, UInt64.toNat_one]
    exact Nat.le_trans (Nat.min_le_right _ _) (Nat.min_le_left _ _)

theorem isEmpty_ending (pending : Option FullBlock) (last : UInt64) {count : UInt64}
    (h : count ≠ 0) : (ending pending last count).isEmpty = false := by
  have hbound : 0 < (Word.addUpTo last 1).toNat := by
    rw [Word.addUpTo, Word.toNat_saturate, UInt64.toNat_one]
    simp only [UInt64.size]
    omega
  have hpos : 0 < (min count (Word.addUpTo last 1)).toNat := by
    rw [toNat_min]
    exact Nat.lt_min.2 ⟨toNat_pos h, hbound⟩
  rw [ending, if_neg h, isEmpty, decide_eq_false_iff_not]
  intro hzero
  simp only at hzero
  rw [hzero] at hpos
  exact absurd hpos (by decide)

theorem ending_of_nonempty {pending : Option FullBlock} {last count : UInt64}
    (h : (ending pending last count).isEmpty = false) :
    (ending pending last count).last = last ∧ (ending pending last count).pending = pending := by
  unfold ending at h ⊢
  split
  · rename_i hzero
    rw [if_pos hzero] at h
    cases h
  · exact ⟨rfl, rfl⟩

/-- **Resolving.** What a window comes to over a view. -/
theorem outcome_resolve (selector : Selector) (count : UInt64) :
    (resolve selector count).outcome view =
      match view (.header .latest) with
      | .absent => .error (.refused (.unresolved .latest))
      | .failed reason => .error (.refused (.fetch reason))
      | .broken => .error (.crashed .brokenReader)
      | .found head =>
        match selector with
        | .number requested =>
          if head.number < requested then .error (.refused (.beyondHead requested head.number))
          else .ok (ending none requested count)
        | .latest => .ok (ending none head.number count)
        | .pending =>
          match view .pending with
          | some pending => .ok (ending (some pending) pending.number count)
          | none => .ok (ending none head.number (Word.subDownTo count 1))
        | .finalized =>
          match view .finalized with
          | .absent => .error (.refused (.unresolved .finalized))
          | .failed reason => .error (.refused (.fetch reason))
          | .broken => .error (.crashed .brokenReader)
          | .found block => .ok (ending none block.number count) := by
  unfold resolve
  rw [Query.outcome_bind, Query.outcome_call]
  cases view (.header .latest) with
  | absent | failed reason | broken => rfl
  | found head =>
    rw [Except.bind, Query.outcome_bind]
    show Query.outcome view _ = _
    cases selector with
    | latest => rfl
    | number requested =>
      simp only
      split <;> rfl
    | pending =>
      rw [Query.outcome_bind, Query.outcome_call, Except.bind]
      simp only
      cases view .pending <;> rfl
    | finalized =>
      rw [Query.outcome_bind, Query.outcome_call, Except.bind]
      simp only
      cases view .finalized <;> rfl

/-- The window that a selector and a count resolve to over a view. -/
inductive Resolves (view : View) (count : UInt64) : Selector → Window → Prop
  | number {head requested} (hhead : view (.header .latest) = .found head)
      (hle : requested ≤ head.number) :
      Resolves view count (.number requested) (ending none requested count)
  | latest {head} (hhead : view (.header .latest) = .found head) :
      Resolves view count .latest (ending none head.number count)
  | pending {head b} (hhead : view (.header .latest) = .found head)
      (hb : view .pending = some b) :
      Resolves view count .pending (ending (some b) b.number count)
  | headForPending {head} (hhead : view (.header .latest) = .found head)
      (hb : view .pending = none) :
      Resolves view count .pending (ending none head.number (Word.subDownTo count 1))
  | finalized {head block} (hhead : view (.header .latest) = .found head)
      (hblock : view .finalized = .found block) :
      Resolves view count .finalized (ending none block.number count)

variable {selector : Selector} {count : UInt64} {w : Window}

/-- **Inversion of resolving.** -/
theorem resolves_of_outcome (h : (resolve selector count).outcome view = .ok w) :
    Resolves view count selector w := by
  rw [outcome_resolve] at h
  cases hhead : view (.header .latest) with
  | absent | failed reason | broken =>
    rw [hhead] at h
    cases h
  | found head =>
    rw [hhead] at h
    cases selector with
    | number requested =>
      simp only at h
      split at h
      · cases h
      · rename_i hle
        cases h
        exact .number hhead (UInt64.not_lt.1 hle)
    | latest =>
      cases h
      exact .latest hhead
    | pending =>
      cases hb : view .pending with
      | some b =>
        simp only [hb] at h
        cases h
        exact .pending hhead hb
      | none =>
        simp only [hb] at h
        cases h
        exact .headForPending hhead hb
    | finalized =>
      cases hblock : view .finalized with
      | found block =>
        simp only [hblock] at h
        cases h
        exact .finalized hhead hblock
      | absent | failed reason | broken =>
        simp only [hblock] at h
        cases h

theorem Resolves.count_le (h : Resolves view count selector w) :
    w.count.toNat ≤ w.last.toNat + 1 := by
  cases h with
  | number | latest | pending | headForPending | finalized => exact count_ending_le _ _ _

theorem Resolves.count_le_available (h : Resolves view count selector w) :
    w.count.toNat ≤ count.toNat := by
  cases h with
  | number | latest | pending | finalized =>
    rw [count_ending, toNat_min]
    exact Nat.min_le_left _ _
  | headForPending =>
    rw [count_ending, toNat_min, Word.toNat_subDownTo]
    omega

/-- Only the pending block of the chain can be pending, and the window ends with it. -/
theorem Resolves.pending_eq (h : Resolves view count selector w) {b : FullBlock}
    (hp : w.pending = some b) : view .pending = some b ∧ w.last = b.number := by
  have ends {pending : Option FullBlock} {last count : UInt64}
      (hp : (ending pending last count).pending = some b) :
      pending = some b ∧ (ending pending last count).last = last := by
    unfold ending at hp ⊢
    split at hp
    · cases hp
    · rename_i hcount
      rw [if_neg hcount]
      exact ⟨hp, rfl⟩
  cases h with
  | number | latest | headForPending | finalized => cases (ends hp).1
  | pending _ hb =>
    obtain ⟨heq, hlast⟩ := ends hp
    cases heq
    exact ⟨hb, hlast⟩

theorem count_pos {w : Window} (hne : w.isEmpty = false) : 0 < w.count.toNat :=
  toNat_pos (by simpa [isEmpty] using hne)

theorem oldest_eq_ok {w : Window} (hc : w.count.toNat ≤ w.last.toNat + 1)
    (hl : w.last.toNat + 1 < UInt64.size) :
    w.oldest = .ok (w.last + 1 - w.count) ∧
      (w.last + 1 - w.count).toNat = w.last.toNat + 1 - w.count.toNat := by
  have hnext : (w.last + 1).toNat = w.last.toNat + 1 := by
    rw [UInt64.toNat_add, UInt64.toNat_one]
    exact Nat.mod_eq_of_lt hl
  have hle : w.count ≤ w.last + 1 := UInt64.le_iff_toNat_le.2 (hnext ▸ hc)
  have hadd : Word.add w.last 1 = .ok (w.last + 1) := if_pos hl
  have hsub : Word.sub (w.last + 1) w.count = .ok (w.last + 1 - w.count) := if_pos hle
  refine ⟨?_, ?_⟩
  · rw [oldest, hadd]
    exact hsub
  · rw [UInt64.toNat_sub_of_le _ _ hle, hnext]

end Window

namespace Oracle

variable {o : Oracle} {percentiles : List Float} {window : Window}

/-! ## Planning -/

theorem outcome_plan (o : Oracle) (count : UInt64) (last : Selector) (percentiles : List Float) :
    (o.plan count last percentiles).outcome view =
      if count = 0 then .ok .empty
      else
        match Percentile.check o.limits.maxPercentiles.toNat percentiles with
        | .error e => .error (.refused (.percentiles e))
        | .ok () =>
          (Window.resolve last (min count (o.longestWindow percentiles))).outcome view := by
  unfold plan
  split
  · rfl
  · cases Percentile.check o.limits.maxPercentiles.toNat percentiles with
    | error e => rfl
    | ok u =>
      simp only
      split <;> rfl

/-- How many blocks a query asks for, cut to its longest window. -/
def width (o : Oracle) (count : UInt64) (percentiles : List Float) : UInt64 :=
  min count (o.longestWindow percentiles)

theorem toNat_width (o : Oracle) (count : UInt64) (percentiles : List Float) :
    (o.width count percentiles).toNat = min count.toNat
      (if percentiles = [] then o.limits.maxHeaderHistory else o.limits.maxBlockHistory).toNat := by
  rw [width, toNat_min, longestWindow_eq]

theorem outcome_plan_of_checked {count : UInt64} (last : Selector) (counted : count ≠ 0)
    (checked : Percentile.check o.limits.maxPercentiles.toNat percentiles = .ok ()) :
    (o.plan count last percentiles).outcome view =
      (Window.resolve last (o.width count percentiles)).outcome view := by
  rw [outcome_plan, if_neg counted, checked]
  rfl

variable {count : UInt64} {last : Selector}

theorem empty_or_resolves (h : (o.plan count last percentiles).outcome view = .ok window) :
    window = .empty ∨ Window.Resolves view (o.width count percentiles) last window := by
  rw [outcome_plan] at h
  split at h
  · cases h
    exact .inl rfl
  · split at h
    · cases h
    · exact .inr (Window.resolves_of_outcome h)

theorem resolves_of_plan (h : (o.plan count last percentiles).outcome view = .ok window)
    (nonempty : window.isEmpty = false) :
    Window.Resolves view (o.width count percentiles) last window := by
  rcases empty_or_resolves h with rfl | hresolves
  · cases nonempty
  · exact hresolves

theorem count_le_width_of_plan (h : (o.plan count last percentiles).outcome view = .ok window) :
    window.count.toNat ≤ (o.width count percentiles).toNat := by
  rcases empty_or_resolves h with rfl | hresolves
  · exact Nat.zero_le _
  · exact hresolves.count_le_available

theorem count_le_of_plan (h : (o.plan count last percentiles).outcome view = .ok window) :
    window.count.toNat ≤ window.last.toNat + 1 := by
  rcases empty_or_resolves h with rfl | hresolves
  · exact Nat.zero_le _
  · exact hresolves.count_le

theorem pending_of_plan {b : FullBlock}
    (h : (o.plan count last percentiles).outcome view = .ok window)
    (hp : window.pending = some b) : view .pending = some b ∧ window.last = b.number := by
  rcases empty_or_resolves h with rfl | hresolves
  · cases hp
  · exact hresolves.pending_eq hp

/-! ## Starting -/

/-- The job of fetching a window. -/
def job (o : Oracle) (window : Window) (percentiles : List Float) : FetchJob :=
  ⟨o.chain, percentiles, window.pending, window.last + 1 - window.count, window.last⟩

/-- How many workers fetch a window. -/
def workers (o : Oracle) (window : Window) : Nat :=
  min o.limits.maxBlockFetchers.toNat window.count.toNat

theorem size_job (o : Oracle) (percentiles : List Float)
    (hc : window.count.toNat ≤ window.last.toNat + 1)
    (hl : window.last.toNat + 1 < UInt64.size) :
    (o.job window percentiles).size = window.count.toNat := by
  show window.last.toNat + 1 - (window.last + 1 - window.count).toNat = window.count.toNat
  rw [(Window.oldest_eq_ok hc hl).2]
  omega

theorem oldest_le_last (o : Oracle) (percentiles : List Float) (hne : window.isEmpty = false)
    (hc : window.count.toNat ≤ window.last.toNat + 1)
    (hl : window.last.toNat + 1 < UInt64.size) :
    (o.job window percentiles).oldest ≤ (o.job window percentiles).last := by
  have hpos := Window.count_pos hne
  refine UInt64.le_iff_toNat_le.2 ?_
  show (window.last + 1 - window.count).toNat ≤ window.last.toNat
  rw [(Window.oldest_eq_ok hc hl).2]
  omega

theorem workers_pos (o : Oracle) (hne : window.isEmpty = false) : 0 < o.workers window := by
  have hcount := Window.count_pos hne
  have hfetchers := toNat_pos o.limits_valid.maxBlockFetchers_ne_zero
  rw [workers]
  omega

theorem outcome_start_eq_spawn (o : Oracle) (percentiles : List Float)
    (hc : window.count.toNat ≤ window.last.toNat + 1)
    (hl : window.last.toNat + 1 < UInt64.size) :
    (o.start window percentiles).outcome view =
      (((o.job window percentiles).spawn o.limits.maxBlockFetchers).outcome view).bind
        fun pool => .ok (o.job window percentiles, pool) := by
  unfold start
  rw [Query.outcome_bind, Query.outcome_checked, (Window.oldest_eq_ok hc hl).1]
  simp only [Except.mapError, Except.bind, Query.outcome_bind, Query.outcome_notice]
  rfl

/-- **Starting.** A window begins to be fetched just if its length is one that a queue can have. -/
theorem outcome_start_eq_ok {job : FetchJob} {pool : FetchPool} (hne : window.isEmpty = false)
    (hc : window.count.toNat ≤ window.last.toNat + 1)
    (hl : window.last.toNat + 1 < UInt64.size) :
    (o.start window percentiles).outcome view = .ok (job, pool) ↔
      window.count.toNat ≤ maxQueueLength ∧ job = o.job window percentiles ∧
        pool = .start (o.job window percentiles) (o.workers window) := by
  have hsize := size_job o percentiles hc hl
  rw [outcome_start_eq_spawn o percentiles hc hl]
  cases hspawn : ((o.job window percentiles).spawn o.limits.maxBlockFetchers).outcome view with
  | error stop =>
    simp only [Except.bind, reduceCtorEq, false_iff]
    rintro ⟨fits, -, -⟩
    rw [FetchJob.outcome_spawn_eq_ok.2
      ⟨oldest_le_last o percentiles hne hc hl, hsize ▸ fits, rfl⟩] at hspawn
    cases hspawn
  | ok p =>
    obtain ⟨-, fits, hp⟩ := FetchJob.outcome_spawn_eq_ok.1 hspawn
    rw [hsize] at fits hp
    simp only [Except.bind, Except.ok.injEq, Prod.mk.injEq, hp, workers]
    constructor
    · rintro ⟨rfl, rfl⟩
      exact ⟨fits, rfl, rfl⟩
    · rintro ⟨-, rfl, rfl⟩
      exact ⟨rfl, rfl⟩

theorem outcome_start (o : Oracle) (percentiles : List Float) (hne : window.isEmpty = false)
    (hc : window.count.toNat ≤ window.last.toNat + 1)
    (hl : window.last.toNat + 1 < UInt64.size) (fits : window.count.toNat ≤ maxQueueLength) :
    (o.start window percentiles).outcome view =
      .ok (o.job window percentiles, .start (o.job window percentiles) (o.workers window)) :=
  (outcome_start_eq_ok hne hc hl).2 ⟨fits, rfl, rfl⟩

end Oracle

end FeeMarket
