import FeeMarket.Proofs.Chain.Node
import FeeMarket.Proofs.FirstFault
import FeeMarket.Proofs.FixedChain

/-!
# Selectors and the numbers they stand for

**Kind** (`Stop.kind`). The category of an error, or a fault.

**Agree** (`Oracle.Agree`). Two queries over a chain that does not change come to the same: in the
program, and in any order of turns. What two schedules come to is the same answer, or errors of the
same kind; with one worker it is the same error too.

Queries with the same plan agree (`agree_of_plan`), as the window is all that the stages after it
know of a selector. So `latest` and `finalized` agree with the numbers they stand for, and `pending`
without a pending block agrees with `latest` for one block less (`selectors_agree`).

Two schedules need room beyond the window to come to the same kind. Where the counter of the workers
can pass the largest word and start from zero, one worker can fail at block zero while another holds
on to a block of the window. And a window that is too long crashes, whatever the selector
(`selectors_agree_at_limits`).
-/

namespace FeeMarket

/-- What kind of stop it is. -/
def Stop.kind : Stop → Fault ⊕ ErrorCategory
  | .crashed fault => .inl fault
  | .refused error => .inr error.category

namespace Oracle

variable {o : Oracle} {view : View} {count count' : UInt64} {last last' : Selector}
  {percentiles : List Float} {window : Window} {x y : Except Stop FeeHistory}

/-! ## Two schedules of one query -/

theorem last_lt_of_start {job : FetchJob} {pool : FetchPool}
    (started : (o.start window percentiles).outcome view = .ok (job, pool)) :
    window.last.toNat + 1 < UInt64.size := by
  unfold start at started
  rw [Query.outcome_bind, Query.outcome_checked] at started
  cases holdest : window.oldest with
  | error fault =>
    rw [holdest] at started
    cases started
  | ok oldest =>
    obtain ⟨beyond, hbeyond, -⟩ := bind_eq_ok.1 holdest
    have hsum := Word.add_eq_ok.1 hbeyond
    rw [UInt64.toNat_one] at hsum
    rw [hsum]
    exact beyond.toNat_lt

/-- A query yields one outcome, or its outcomes are those of the runs over its window. -/
theorem one_or_covered (o : Oracle) (view : View) (count : UInt64) (last : Selector)
    (percentiles : List Float) :
    (∃ outcome, ∀ x, o.Yields view count last percentiles x → x = outcome) ∨
    ∃ window, (o.plan count last percentiles).outcome view = .ok window ∧
      window.isEmpty = false ∧ window.last.toNat + 1 < UInt64.size ∧
      ∀ x, o.Yields view count last percentiles x → ∃ h p,
        FetchPool.Reached (o.job window percentiles) (satisfied window.count.toNat)
          (.start (o.job window percentiles) (o.workers window)) h p ∧
        p.Settled (satisfied window.count.toNat) ∧ (h.Follows fun _ => view) ∧
        x = (conclude (o.job window percentiles) window.count.toNat p).outcome view := by
  cases planned : (o.plan count last percentiles).outcome view with
  | error stop => exact .inl ⟨.error stop, fun x hx => (yields_iff_of_stop planned x).1 hx⟩
  | ok window =>
    cases hempty : window.isEmpty with
    | true => exact .inl ⟨.ok .empty, fun x hx => ((answers_empty planned hempty).only x).1 hx⟩
    | false =>
      cases hstart : (o.start window percentiles).outcome view with
      | error stop =>
        refine .inl ⟨.error stop, fun x hx => ?_⟩
        rcases hx.of_window planned hempty with ⟨stop', hstop, rfl⟩ | ⟨_, _, _, _, hstarted, -⟩
        · cases hstart.symm.trans hstop
          rfl
        · cases hstart.symm.trans hstarted
      | ok pair =>
        obtain ⟨job, pool⟩ := pair
        have hlast := last_lt_of_start hstart
        obtain ⟨-, rfl, rfl⟩ :=
          (outcome_start_eq_ok hempty (count_le_of_plan planned) hlast).1 hstart
        refine .inr ⟨window, rfl, hempty, hlast, fun x hx => ?_⟩
        rcases hx.of_window planned hempty with
          ⟨stop, hstop, -⟩ | ⟨_, _, h, p, hstarted, hreached, hsettled, hfollows, hout⟩
        · cases hstart.symm.trans hstop
        · cases hstart.symm.trans hstarted
          exact ⟨h, p, hreached, hsettled, hfollows, hout⟩

/-- The workers of a query cannot take the counter past the largest word. -/
def WithinWords (o : Oracle) (view : View) (count : UInt64) (last : Selector)
    (percentiles : List Float) : Prop :=
  ∀ window, (o.plan count last percentiles).outcome view = .ok window →
    window.last.toNat + o.workers window < UInt64.size

/-- A query that at most one worker works on. -/
def Alone (o : Oracle) (view : View) (count : UInt64) (last : Selector)
    (percentiles : List Float) : Prop :=
  ∀ window, (o.plan count last percentiles).outcome view = .ok window → o.workers window ≤ 1

/-- Two schedules of a query come to the same answer, or to errors of the same kind. -/
theorem WithinWords.kind_eq (within : o.WithinWords view count last percentiles)
    (hx : o.Yields view count last percentiles x) (hy : o.Yields view count last percentiles y) :
    x.mapError Stop.kind = y.mapError Stop.kind := by
  rcases o.one_or_covered view count last percentiles with
    ⟨outcome, one⟩ | ⟨window, planned, nonempty, hlast, covered⟩
  · rw [one x hx, one y hy]
  obtain ⟨hc, -, hn, hl, hsize⟩ := startable planned nonempty (within window planned)
  have room : (o.job window percentiles).last.toNat + o.workers window < UInt64.size :=
    within window planned
  obtain ⟨hx', px, rx, sx, fx, rfl⟩ := covered x hx
  obtain ⟨hy', py, ry, sy, fy, rfl⟩ := covered y hy
  rw [← hsize] at rx ry sx sy ⊢
  cases hfault : (o.job window percentiles).firstFault? fun _ => view with
  | none =>
    obtain ⟨history, href, hconclude⟩ := rx.answered_of_faultless hn hl room sx fx hfault
    obtain ⟨history', href', hconclude'⟩ := ry.answered_of_faultless hn hl room sy fy hfault
    cases href.symm.trans href'
    rw [hconclude, hconclude']
  | some reason =>
    obtain ⟨r, hconclude⟩ := rx.refused_of_fault hl room fx hfault
    obtain ⟨r', hconclude'⟩ := ry.refused_of_fault hl room fy hfault
    rw [hconclude, hconclude']
    rfl

/-- With one worker there is one schedule, as far as the outcome goes. -/
theorem Alone.eq (alone : o.Alone view count last percentiles)
    (hx : o.Yields view count last percentiles x) (hy : o.Yields view count last percentiles y) :
    x = y := by
  rcases o.one_or_covered view count last percentiles with
    ⟨outcome, one⟩ | ⟨window, planned, nonempty, hlast, covered⟩
  · rw [one x hx, one y hy]
  have hone : o.workers window = 1 :=
    Nat.le_antisymm (alone window planned) (o.workers_pos nonempty)
  obtain ⟨-, -, -, hl, hsize⟩ := startable planned nonempty (by rwa [hone])
  obtain ⟨hx', px, rx, sx, fx, rfl⟩ := covered x hx
  obtain ⟨hy', py, ry, sy, fy, rfl⟩ := covered y hy
  rw [hone, ← hsize] at rx ry
  rw [← hsize] at sx sy ⊢
  cases hfault : (o.job window percentiles).firstFault? fun _ => view with
  | none =>
    obtain ⟨history, href, hconclude⟩ :=
      rx.answered_of_faultless Nat.one_pos hl hlast sx fx hfault
    obtain ⟨history', href', hconclude'⟩ :=
      ry.answered_of_faultless Nat.one_pos hl hlast sy fy hfault
    cases href.symm.trans href'
    rw [hconclude, hconclude']
  | some reason =>
    rw [rx.refused_alone hl hlast sx fx hfault, ry.refused_alone hl hlast sy fy hfault]

/-! ## Queries with the same plan -/

/-- Two queries for the same percentiles come to the same. -/
structure Agree (o : Oracle) (view : View) (percentiles : List Float) (count : UInt64)
    (last : Selector) (count' : UInt64) (last' : Selector) : Prop where
  /-- The queries of the program come to the same. -/
  program : (o.feeHistory count last percentiles).outcome view =
    (o.feeHistory count' last' percentiles).outcome view
  /-- What one can come to, the other can. -/
  yields : ∀ outcome, o.Yields view count last percentiles outcome ↔
    o.Yields view count' last' percentiles outcome
  /-- Whatever the two schedules, the answer is the same, or the kind of error. -/
  kind : o.WithinWords view count last percentiles → ∀ {x y},
    o.Yields view count last percentiles x → o.Yields view count' last' percentiles y →
      x.mapError Stop.kind = y.mapError Stop.kind
  /-- With one worker, the error is the same too. -/
  alone : o.Alone view count last percentiles → ∀ {x y},
    o.Yields view count last percentiles x → o.Yields view count' last' percentiles y → x = y

theorem Yields.of_plan (h : o.Yields view count last percentiles x)
    (same : (o.plan count last percentiles).outcome view =
      (o.plan count' last' percentiles).outcome view) :
    o.Yields view count' last' percentiles x := by
  cases h with
  | stopped hplan => exact .stopped (same.symm.trans hplan)
  | nothing hplan hempty => exact .nothing (same.symm.trans hplan) hempty
  | unstarted hplan hne hstart => exact .unstarted (same.symm.trans hplan) hne hstart
  | covered hplan hne hstart hreached hsettled hfollows =>
    exact .covered (same.symm.trans hplan) hne hstart hreached hsettled hfollows

theorem agree_of_plan (same : (o.plan count last percentiles).outcome view =
    (o.plan count' last' percentiles).outcome view) :
    o.Agree view percentiles count last count' last' where
  program := by
    rw [outcome_feeHistory, outcome_feeHistory, collect, collect, Query.outcome_bind,
      Query.outcome_bind, same]
  yields := fun _ => ⟨fun h => h.of_plan same, fun h => h.of_plan same.symm⟩
  kind := fun within _ _ hx hy => within.kind_eq hx (hy.of_plan same.symm)
  alone := fun alone _ _ hx hy => alone.eq hx (hy.of_plan same.symm)

/-! ## Symbolic selectors -/

theorem outcome_plan_congr (same : ∀ count, (Window.resolve last count).outcome view =
    (Window.resolve last' count).outcome view) (o : Oracle) (count : UInt64)
    (percentiles : List Float) :
    (o.plan count last percentiles).outcome view =
      (o.plan count last' percentiles).outcome view := by
  rw [outcome_plan, outcome_plan, same]

/-- Without a pending block a query for pending is one for the latest, one block shorter. -/
theorem outcome_plan_unpended (hpending : view .pending = none)
    (checked : Percentile.check o.limits.maxPercentiles.toNat percentiles = .ok ())
    (hwidth : 2 ≤ o.width count percentiles) :
    (o.plan count .pending percentiles).outcome view =
      (o.plan (o.width count percentiles - 1) .latest percentiles).outcome view := by
  have hwide := UInt64.le_iff_toNat_le.1 hwidth
  have hone : (1 : UInt64) ≤ o.width count percentiles := UInt64.le_trans (by decide) hwidth
  have hmin := o.toNat_width count percentiles
  have hshorter : (o.width count percentiles - 1).toNat =
      (o.width count percentiles).toNat - 1 := UInt64.toNat_sub_of_le _ _ hone
  rw [show (2 : UInt64).toNat = 2 from rfl] at hwide
  have counted : count ≠ 0 := by
    rintro rfl
    rw [hmin, UInt64.toNat_zero, Nat.zero_min] at hwide
    omega
  have counted' : o.width count percentiles - 1 ≠ 0 := by
    intro hzero
    rw [hzero, UInt64.toNat_zero] at hshorter
    omega
  -- The shorter query is for its width: it is shorter than the longest window.
  have hsame : o.width (o.width count percentiles - 1) percentiles =
      Word.subDownTo (o.width count percentiles) 1 := by
    apply UInt64.toNat_inj.1
    rw [toNat_width, Word.toNat_subDownTo, hshorter, UInt64.toNat_one]
    omega
  rw [outcome_plan_of_checked _ counted checked, outcome_plan_of_checked _ counted' checked,
    Window.outcome_resolve, Window.outcome_resolve]
  cases view (.header .latest) with
  | absent | failed reason | broken => rfl
  | found head => simp only [hpending, hsame]

/-- **Selectors agree with the numbers they stand for.** -/
theorem selectors_agree (o : Oracle) (view : View) (count : UInt64) (percentiles : List Float) :
    (∀ {head}, view (.header .latest) = .found head →
      o.Agree view percentiles count .latest count (.number head.number)) ∧
    (∀ {head block}, view (.header .latest) = .found head → view .finalized = .found block →
      block.number ≤ head.number →
        o.Agree view percentiles count .finalized count (.number block.number)) ∧
    (view .pending = none →
      Percentile.check o.limits.maxPercentiles.toNat percentiles = .ok () →
        (2 ≤ o.width count percentiles →
          o.Agree view percentiles count .pending (o.width count percentiles - 1) .latest) ∧
        (o.width count percentiles ≤ 1 → ∀ {head}, view (.header .latest) = .found head →
          o.Answers view count .pending percentiles .empty)) ∧
    ∀ endpoint, view = Node.view endpoint → (view .pending = none ↔ Node.Unpended endpoint) := by
  refine ⟨?latest, ?finalized, ?pending, ?node⟩
  case latest =>
    intro head hhead
    refine agree_of_plan (outcome_plan_congr (fun count => ?_) o count percentiles)
    simp only [Window.outcome_resolve, hhead, if_neg (UInt64.lt_irrefl head.number)]
  case finalized =>
    intro head block hhead hblock hle
    refine agree_of_plan (outcome_plan_congr (fun count => ?_) o count percentiles)
    simp only [Window.outcome_resolve, hhead, hblock, if_neg (UInt64.not_lt.2 hle)]
  case pending =>
    intro hpending checked
    refine ⟨fun hwidth => agree_of_plan (outcome_plan_unpended hpending checked hwidth), ?_⟩
    intro hwidth head hhead
    have hnothing : Word.subDownTo (o.width count percentiles) 1 = 0 := by
      have hnarrow := UInt64.le_iff_toNat_le.1 hwidth
      apply UInt64.toNat_inj.1
      rw [Word.toNat_subDownTo, UInt64.toNat_zero]
      omega
    have planned : (o.plan count .pending percentiles).outcome view = .ok .empty := by
      by_cases counted : count = 0
      · rw [outcome_plan, if_pos counted]
      · rw [outcome_plan_of_checked _ counted checked, Window.outcome_resolve, hhead]
        simp only [hpending, hnothing]
        rfl
    exact answers_empty planned rfl
  case node =>
    rintro endpoint rfl
    exact Node.view_pending_eq_none_iff

/-- A chain whose head is block 8 and whose last finalized block is block 6. -/
def finalizedAtSix : View
  | .header .latest => .found ⟨8, 0, 30000000, 15000000, some initialBaseFee⟩
  | .finalized => .found ⟨⟨6, 0, 30000000, 15000000, some initialBaseFee⟩, []⟩
  | c => Reply.nothing c

/-- Up to three blocks that end with each of the selectors, and a node that cannot be reached. There
is room for the workers above block 8. -/
theorem selectors_agree_at_eight :
    standard.Agree finalizedAtSix [] 3 .latest 3 (.number 8) ∧
      (∀ {x y}, standard.Yields finalizedAtSix 3 .latest [] x →
        standard.Yields finalizedAtSix 3 (.number 8) [] y →
          x.mapError Stop.kind = y.mapError Stop.kind) ∧
      standard.Agree finalizedAtSix [] 3 .finalized 3 (.number 6) ∧
      standard.Agree finalizedAtSix [] 3 .pending 2 .latest ∧
      standard.Answers finalizedAtSix 1 .pending [] .empty ∧
      Node.view .unreachable .pending = none := by
  have hhead : finalizedAtSix (.header .latest) =
      .found ⟨8, 0, 30000000, 15000000, some initialBaseFee⟩ := rfl
  have hblock : finalizedAtSix .finalized =
      .found ⟨⟨6, 0, 30000000, 15000000, some initialBaseFee⟩, []⟩ := rfl
  have three := selectors_agree standard finalizedAtSix 3 []
  have one := selectors_agree standard finalizedAtSix 1 []
  have node := selectors_agree standard (Node.view .unreachable) 1 []
  have within : standard.WithinWords finalizedAtSix 3 .latest [] := by
    intro window planned
    obtain rfl : ⟨none, 8, 3⟩ = window := Except.ok.inj planned
    decide
  refine ⟨three.1 hhead, (three.1 hhead).kind within, three.2.1 hhead hblock (by decide),
    ?_, ?_, ?_⟩
  · exact (three.2.2.1 rfl rfl).1 (by decide)
  · exact (one.2.2.1 rfl rfl).2 (by decide) hhead
  · exact (node.2.2.2 _ rfl).2 (.block .failed)

/-- A chain of half full blocks that cannot look up block zero. -/
def brokenAtZero (head : UInt64) : View
  | .header (.number n) =>
    if n = 0 then .failed "pruned" else .found ⟨n, 0, 30000000, 15000000, some initialBaseFee⟩
  | c => headOnly head c

/-- The first of three workers fetches the last three blocks up to `nearlyTop`. -/
def firstAlone : List (Option Nat) := List.replicate 12 (some 0) ++ List.replicate 3 none

/-- The first worker keeps its number to itself, the second deposits the two others and finishes with
the largest word, and the third goes on to block zero. -/
def thirdToZero : List (Option Nat) :=
  [0, 0, 1, 1, 1, 1, 1, 1, 1, 1, 1, 1, 2, 2, 2, 2].map some ++ List.replicate 3 none

/-- Where there is no room above the window, the query for the latest block can have its whole answer
while that for its number is refused. Where there is no queue, both crash. -/
theorem selectors_agree_at_limits :
    (∃ head, brokenAtZero nearlyTop (.header .latest) = .found head ∧ head.number = nearlyTop ∧
      (∃ history, standard.Yields (brokenAtZero nearlyTop) 3 .latest [] (.ok history) ∧
        history.gasUsedRatio.length = 3) ∧
      standard.Yields (brokenAtZero nearlyTop) 3 (.number nearlyTop) []
        (.error (.refused (.fetch "pruned")))) ∧
    ∀ last ∈ [Selector.latest, .number 0x4000000000000000], ∀ outcome,
      farSighted.Yields (headOnly 0x4000000000000000) 0x2000000000000000 last [] outcome →
        outcome = .error (.crashed .queueTooLong) := by
  refine ⟨⟨_, rfl, rfl, ?answered, ?refused⟩, ?crashed⟩
  case answered =>
    have planned : (standard.plan 3 .latest []).outcome (brokenAtZero nearlyTop) =
      .ok ⟨none, nearlyTop, 3⟩ := rfl
    exact ⟨_, Yields.of_replay firstAlone planned rfl rfl rfl (.inl rfl), rfl⟩
  case refused =>
    have planned : (standard.plan 3 (.number nearlyTop) []).outcome (brokenAtZero nearlyTop) =
      .ok ⟨none, nearlyTop, 3⟩ := rfl
    exact Yields.of_replay thirdToZero planned rfl rfl rfl (.inl rfl)
  case crashed =>
    intro last hlast outcome hyields
    have planned : (farSighted.plan 0x2000000000000000 last []).outcome
        (headOnly 0x4000000000000000) = .ok ⟨none, 0x4000000000000000, 0x2000000000000000⟩ := by
      rcases List.mem_pair.1 hlast with rfl | rfl <;> rfl
    have crashed : (farSighted.start ⟨none, 0x4000000000000000, 0x2000000000000000⟩ []).outcome
        (headOnly 0x4000000000000000) = .error (.crashed .queueTooLong) := rfl
    rcases hyields.of_window planned rfl with ⟨stop, hstop, rfl⟩ | ⟨_, _, _, _, hstarted, -⟩
    · cases crashed.symm.trans hstop
      rfl
    · cases crashed.symm.trans hstarted

end Oracle

end FeeMarket
