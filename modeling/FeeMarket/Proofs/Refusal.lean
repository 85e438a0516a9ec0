import FeeMarket.Proofs.Transcript

/-!
# How a query is refused

**Admitted** (`Oracle.Admitted`). The query asks for a block, and its percentiles are valid. Only
then the chain is asked anything.

**Halts** (`Oracle.Halts`). The first stage that a query fails at before it has a window, one case
for each way to fail, with the error and with all that was asked by then. A query beyond the head is
one of them even if no window is ever served, and a missing pending block is none.

**Classified** (`Oracle.Classified`). How a query is refused: by the stage that it halts at, with
nothing asked after that, and by the lookups of its blocks if it halts nowhere. So the category of
the error says which of the percentiles, the range and the lookups failed first.

Every transcript of a query is classified, as long as the head and the finalized block can be asked
for (`refusals_classified`). The lookups of the blocks may come to anything.
-/

namespace FeeMarket

variable {view : View}

/-! ## What is asked for a window -/

/-- What else is asked for a window that ends here, once there is a head. -/
def Selector.further : Selector → List Call
  | .number _ => []
  | .latest => []
  | .pending => [.pending]
  | .finalized => [.finalized]

namespace Window

theorem calls_resolved {α : Type} (selector : Selector) (lookup : Lookup α) :
    (resolved selector lookup).calls view = [] := by
  cases lookup <;> rfl

theorem calls_resolve (selector : Selector) (count : UInt64) :
    (resolve selector count).calls view = .header .latest ::
      match view (.header .latest) with
      | .found _ => selector.further
      | _ => [] := by
  unfold resolve
  rw [Query.calls_bind, Query.calls_call, Query.outcome_call, List.singleton_append]
  simp only [Query.calls_bind, calls_resolved, List.nil_append]
  cases view (.header .latest) with
  | absent | failed reason | broken => rfl
  | found head =>
    show _ :: Query.calls view _ = _
    cases selector with
    | latest => rfl
    | number requested =>
      simp only
      split <;> rfl
    | pending =>
      rw [Query.calls_bind, Query.calls_call, Query.outcome_call]
      simp only
      cases view .pending <;> rfl
    | finalized =>
      rw [Query.calls_bind, Query.calls_call, Query.outcome_call]
      simp only [Query.calls_bind, calls_resolved]
      cases view .finalized <;> rfl

theorem count_head_resolve (selector : Selector) (count : UInt64) :
    ((resolve selector count).calls view).count (.header .latest) = 1 := by
  rw [calls_resolve]
  cases view (.header .latest) with
  | absent | failed reason | broken => rfl
  | found head => cases selector <;> rfl

/-- No window ends with this selector: there is no head, it lies below the number, or no block is
finalized. -/
inductive Unresolvable (view : View) : Selector → Prop
  | headless {selector} : view (.header .latest) = .absent → Unresolvable view selector
  | beyondHead {head requested} : view (.header .latest) = .found head →
      head.number < requested → Unresolvable view (.number requested)
  | unfinalized {head} : view (.header .latest) = .found head → view .finalized = .absent →
      Unresolvable view .finalized

end Window

namespace Oracle

variable {o : Oracle} {count : UInt64} {last : Selector} {percentiles : List Float}
  {t : Transcript} {e : FeeHistoryError} {asked : List Call}

theorem calls_plan (o : Oracle) (count : UInt64) (last : Selector) (percentiles : List Float) :
    (o.plan count last percentiles).calls view =
      if count = 0 then []
      else
        match Percentile.check o.limits.maxPercentiles.toNat percentiles with
        | .error _ => []
        | .ok () => (Window.resolve last (o.width count percentiles)).calls view := by
  unfold plan
  split
  · rfl
  · cases Percentile.check o.limits.maxPercentiles.toNat percentiles with
    | error e => rfl
    | ok u =>
      simp only
      split <;> rfl

/-! ## The stages before a window -/

/-- A query for at least one block, with valid percentiles. -/
def Admitted (o : Oracle) (count : UInt64) (percentiles : List Float) : Prop :=
  count ≠ 0 ∧ Percentile.check o.limits.maxPercentiles.toNat percentiles = .ok ()

theorem Admitted.calls_plan (admitted : o.Admitted count percentiles) :
    (o.plan count last percentiles).calls view =
      (Window.resolve last (o.width count percentiles)).calls view := by
  rw [Oracle.calls_plan, if_neg admitted.1, admitted.2]

/-- The stage that a query fails at before it has a window: the error, and what was asked. -/
inductive Halts (o : Oracle) (view : View) (count : UInt64) (percentiles : List Float) :
    Selector → FeeHistoryError → List Call → Prop
  | unchecked {selector error} : count ≠ 0 →
      Percentile.check o.limits.maxPercentiles.toNat percentiles = .error error →
      Halts o view count percentiles selector (.percentiles error) []
  | headFailed {selector reason} : o.Admitted count percentiles →
      view (.header .latest) = .failed reason →
      Halts o view count percentiles selector (.fetch reason) [.header .latest]
  | headAbsent {selector} : o.Admitted count percentiles → view (.header .latest) = .absent →
      Halts o view count percentiles selector (.unresolved .latest) [.header .latest]
  | beyondHead {requested head} : o.Admitted count percentiles →
      view (.header .latest) = .found head → head.number < requested →
      Halts o view count percentiles (.number requested) (.beyondHead requested head.number)
        [.header .latest]
  | finalizedFailed {head reason} : o.Admitted count percentiles →
      view (.header .latest) = .found head → view .finalized = .failed reason →
      Halts o view count percentiles .finalized (.fetch reason) [.header .latest, .finalized]
  | finalizedAbsent {head} : o.Admitted count percentiles →
      view (.header .latest) = .found head → view .finalized = .absent →
      Halts o view count percentiles .finalized (.unresolved .finalized)
        [.header .latest, .finalized]

theorem Halts.plan_eq (h : o.Halts view count percentiles last e asked) :
    (o.plan count last percentiles).outcome view = .error (.refused e) ∧
      (o.plan count last percentiles).calls view = asked := by
  cases h with
  | unchecked counted hcheck =>
    rw [outcome_plan, calls_plan, if_neg counted, if_neg counted, hcheck]
    exact ⟨rfl, rfl⟩
  | headFailed admitted hhead | headAbsent admitted hhead =>
    rw [outcome_plan_of_checked _ admitted.1 admitted.2, admitted.calls_plan,
      Window.outcome_resolve, Window.calls_resolve, hhead]
    exact ⟨rfl, rfl⟩
  | beyondHead admitted hhead hlt =>
    rw [outcome_plan_of_checked _ admitted.1 admitted.2, admitted.calls_plan,
      Window.outcome_resolve, Window.calls_resolve, hhead]
    exact ⟨if_pos hlt, rfl⟩
  | finalizedFailed admitted hhead hblock | finalizedAbsent admitted hhead hblock =>
    rw [outcome_plan_of_checked _ admitted.1 admitted.2, admitted.calls_plan,
      Window.outcome_resolve, Window.calls_resolve, hhead]
    refine ⟨?_, rfl⟩
    simp only [hblock]

/-- An admitted query whose selector has no window halts there. -/
theorem Admitted.halts_of_unresolvable (admitted : o.Admitted count percentiles)
    (h : Window.Unresolvable view last) :
    ∃ e asked, o.Halts view count percentiles last e asked := by
  cases h with
  | headless hhead => exact ⟨_, _, .headAbsent admitted hhead⟩
  | beyondHead hhead hlt => exact ⟨_, _, .beyondHead admitted hhead hlt⟩
  | unfinalized hhead hblock => exact ⟨_, _, .finalizedAbsent admitted hhead hblock⟩

theorem admitted_of_plan {window : Window}
    (planned : (o.plan count last percentiles).outcome view = .ok window)
    (nonempty : window.isEmpty = false) : o.Admitted count percentiles := by
  rw [outcome_plan] at planned
  split at planned
  · cases planned
    cases nonempty
  · rename_i counted
    cases hcheck : Percentile.check o.limits.maxPercentiles.toNat percentiles with
    | error e =>
      rw [hcheck] at planned
      cases planned
    | ok u => exact ⟨counted, hcheck⟩

/-- A query halts, or it has a window. -/
theorem halts_or_resolves (o : Oracle) (count : UInt64) (last : Selector) (percentiles : List Float)
    (hhead : view (.header .latest) ≠ .broken) (hfinalized : view .finalized ≠ .broken) :
    (∃ e asked, o.Halts view count percentiles last e asked) ∨
      ∃ window, (o.plan count last percentiles).outcome view = .ok window := by
  by_cases counted : count = 0
  · exact .inr ⟨.empty, by rw [outcome_plan, if_pos counted]⟩
  cases hcheck : Percentile.check o.limits.maxPercentiles.toNat percentiles with
  | error e => exact .inl ⟨_, _, .unchecked counted hcheck⟩
  | ok u =>
    have admitted : o.Admitted count percentiles := ⟨counted, hcheck⟩
    rw [outcome_plan_of_checked last counted hcheck, Window.outcome_resolve]
    cases hlatest : view (.header .latest) with
    | broken => exact absurd hlatest hhead
    | absent => exact .inl ⟨_, _, .headAbsent admitted hlatest⟩
    | failed reason => exact .inl ⟨_, _, .headFailed admitted hlatest⟩
    | found head =>
      cases last with
      | latest => exact .inr ⟨_, rfl⟩
      | number requested =>
        by_cases hlt : head.number < requested
        · exact .inl ⟨_, _, .beyondHead admitted hlatest hlt⟩
        · exact .inr ⟨_, if_neg hlt⟩
      | pending =>
        cases view .pending with
        | some b => exact .inr ⟨_, rfl⟩
        | none => exact .inr ⟨_, rfl⟩
      | finalized =>
        cases hblock : view .finalized with
        | broken => exact absurd hblock hfinalized
        | absent => exact .inl ⟨_, _, .finalizedAbsent admitted hlatest hblock⟩
        | failed reason => exact .inl ⟨_, _, .finalizedFailed admitted hlatest hblock⟩
        | found block => exact .inr ⟨_, rfl⟩

/-! ## Transcripts -/

namespace Unfolds

theorem eq_of_stop {stop : Stop} (unfolds : o.Unfolds count last percentiles view t)
    (planned : (o.plan count last percentiles).outcome view = .error stop) :
    t.calls = (o.plan count last percentiles).calls view ∧ t.outcome = .error stop := by
  cases unfolds with
  | stopped hplan =>
    cases planned.symm.trans hplan
    exact ⟨rfl, rfl⟩
  | nothing hplan | unstarted hplan | covered hplan => cases planned.symm.trans hplan

theorem eq_of_empty {window : Window} (unfolds : o.Unfolds count last percentiles view t)
    (planned : (o.plan count last percentiles).outcome view = .ok window)
    (empty : window.isEmpty = true) :
    t.calls = (o.plan count last percentiles).calls view ∧ t.outcome = .ok .empty := by
  cases unfolds with
  | stopped hplan => cases planned.symm.trans hplan
  | nothing => exact ⟨rfl, rfl⟩
  | unstarted hplan nonempty | covered hplan nonempty =>
    cases planned.symm.trans hplan
    rw [empty] at nonempty
    cases nonempty

/-- The lookups of the blocks come after what is asked for the window. They ask for blocks by their
numbers, and for receipts. -/
theorem calls_eq (unfolds : o.Unfolds count last percentiles view t) :
    ∃ heard : List Heard, t.calls =
        (o.plan count last percentiles).calls view ++ heard.map Heard.call ∧
      ∀ x ∈ heard, x.Named := by
  cases unfolds with
  | stopped | nothing | unstarted => exact ⟨[], (List.append_nil _).symm, by simp⟩
  | @covered window job pool h p _ _ _ reached =>
    refine ⟨h.heard, rfl, ?_⟩
    refine reached.invariant (motive := fun h _ => ∀ x ∈ h.heard, x.Named) (by simp) ?_ ?_
    · intro h p i view d q named turned x hx
      rcases List.mem_append.1 hx with hx | hx
      · exact named x hx
      · cases turned with
        | heard hw hn hy =>
          obtain rfl : x = _ := by simpa using hx
          exact Worker.named_of_heard? hy
        | cleared | dismissed | overshot | claimed | deposited => simp at hx
    · intro h p d rest named _ _
      simpa [History.heard_add] using named

/-- Nothing but a lookup of its blocks refuses a query that has a window. -/
theorem fetch_of_refused {window : Window} (unfolds : o.Unfolds count last percentiles view t)
    (planned : (o.plan count last percentiles).outcome view = .ok window)
    (refused : t.outcome = .error (.refused e)) :
    window.isEmpty = false ∧ ∃ reason, e = .fetch reason := by
  cases unfolds with
  | stopped hplan => cases planned.symm.trans hplan
  | nothing => cases refused
  | unstarted _ _ started =>
    cases refused
    obtain ⟨fault, hfault⟩ := crashed_of_start started
    cases hfault
  | covered hplan nonempty =>
    cases planned.symm.trans hplan
    obtain ⟨reason, hreason⟩ := fetch_of_conclude refused
    exact ⟨nonempty, reason, Stop.refused.inj hreason⟩

end Unfolds

/-! ## The stage to blame -/

/-- The stage that goes wrong first: the percentiles, the range, or else the lookups. -/
inductive Blamed (o : Oracle) (view : View) (percentiles : List Float) (last : Selector) :
    ErrorCategory → Prop
  | validation {error} :
      Percentile.check o.limits.maxPercentiles.toNat percentiles = .error error →
      Blamed o view percentiles last .validation
  | range : Percentile.check o.limits.maxPercentiles.toNat percentiles = .ok () →
      Window.Unresolvable view last → Blamed o view percentiles last .range
  | fetch : Percentile.check o.limits.maxPercentiles.toNat percentiles = .ok () →
      ¬ Window.Unresolvable view last → Blamed o view percentiles last .fetch

theorem Blamed.unique {c c' : ErrorCategory} (h : o.Blamed view percentiles last c)
    (h' : o.Blamed view percentiles last c') : c = c' := by
  cases h with
  | validation hcheck =>
    cases h' with
    | validation => rfl
    | range hok | fetch hok => cases hok.symm.trans hcheck
  | range hok hrange =>
    cases h' with
    | validation hcheck => cases hok.symm.trans hcheck
    | range => rfl
    | fetch _ hrange' => exact absurd hrange hrange'
  | fetch hok hrange =>
    cases h' with
    | validation hcheck => cases hok.symm.trans hcheck
    | range _ hrange' => exact absurd hrange' hrange
    | fetch => rfl

theorem Halts.blamed (h : o.Halts view count percentiles last e asked) :
    o.Blamed view percentiles last e.category := by
  cases h with
  | unchecked _ hcheck => exact .validation hcheck
  | headFailed admitted hhead =>
    refine .fetch admitted.2 fun h => ?_
    cases h with
    | headless hfound | beyondHead hfound | unfinalized hfound => cases hhead.symm.trans hfound
  | headAbsent admitted hhead => exact .range admitted.2 (.headless hhead)
  | beyondHead admitted hhead hlt => exact .range admitted.2 (.beyondHead hhead hlt)
  | finalizedFailed admitted hhead hblock =>
    refine .fetch admitted.2 fun h => ?_
    cases h with
    | headless habsent => cases hhead.symm.trans habsent
    | unfinalized _ habsent => cases hblock.symm.trans habsent
  | finalizedAbsent admitted hhead hblock =>
    exact .range admitted.2 (.unfinalized hhead hblock)

theorem Unfolds.blamed (unfolds : o.Unfolds count last percentiles view t)
    (hhead : view (.header .latest) ≠ .broken) (hfinalized : view .finalized ≠ .broken)
    (refused : t.outcome = .error (.refused e)) : o.Blamed view percentiles last e.category := by
  rcases halts_or_resolves o count last percentiles hhead hfinalized with
    ⟨e', asked, halts⟩ | ⟨window, planned⟩
  · have hstop := refused.symm.trans (unfolds.eq_of_stop halts.plan_eq.1).2
    obtain rfl := Stop.refused.inj (Except.error.inj hstop)
    exact halts.blamed
  · obtain ⟨nonempty, reason, rfl⟩ := unfolds.fetch_of_refused planned refused
    have admitted := admitted_of_plan planned nonempty
    refine .fetch admitted.2 fun h => ?_
    obtain ⟨e, asked, halts⟩ := admitted.halts_of_unresolvable h
    cases planned.symm.trans halts.plan_eq.1

/-- How a query is refused. -/
structure Classified (o : Oracle) (count : UInt64) (last : Selector) (percentiles : List Float)
    (view : View) (t : Transcript) : Prop where
  /-- A query for no block has an answer, whatever else it asks for. -/
  uncounted : count = 0 → t.calls = [] ∧ t.outcome = .ok .empty
  /-- Where a query halts, it ends. -/
  halted : ∀ {e asked}, o.Halts view count percentiles last e asked →
    t.calls = asked ∧ t.outcome = .error (.refused e)
  /-- The head is looked up once. -/
  head : o.Admitted count percentiles → t.calls.count (.header .latest) = 1
  /-- The head stands in for a pending block that is missing. -/
  unpended : ∀ {head}, o.Admitted count percentiles → last = .pending →
    view (.header .latest) = .found head → view .pending = none →
    (o.plan count last percentiles).outcome view =
      .ok (.ending none head.number (Word.subDownTo (o.width count percentiles) 1))
  /-- A query that halts nowhere has a window, and is refused by the lookups of its blocks only. -/
  resolved : (∀ e asked, ¬ o.Halts view count percentiles last e asked) →
    ∃ window, (o.plan count last percentiles).outcome view = .ok window ∧
      ∀ {e}, t.outcome = .error (.refused e) →
        window.isEmpty = false ∧ ∃ reason, e = .fetch reason
  /-- The category of an error is the stage that went wrong first. -/
  category : ∀ {e c}, t.outcome = .error (.refused e) →
    (e.category = c ↔ o.Blamed view percentiles last c)

theorem Unfolds.classified (unfolds : o.Unfolds count last percentiles view t)
    (hhead : view (.header .latest) ≠ .broken) (hfinalized : view .finalized ≠ .broken) :
    o.Classified count last percentiles view t where
  uncounted := by
    intro hzero
    have planned : (o.plan count last percentiles).outcome view = .ok .empty := by
      rw [outcome_plan, if_pos hzero]
    obtain ⟨hcalls, houtcome⟩ := unfolds.eq_of_empty planned rfl
    rw [calls_plan, if_pos hzero] at hcalls
    exact ⟨hcalls, houtcome⟩
  halted := by
    intro e asked halts
    obtain ⟨houtcome, hcalls⟩ := halts.plan_eq
    obtain ⟨hasked, hstop⟩ := unfolds.eq_of_stop houtcome
    exact ⟨hasked.trans hcalls, hstop⟩
  head := by
    intro admitted
    obtain ⟨heard, hcalls, named⟩ := unfolds.calls_eq
    have hnone : (heard.map Heard.call).count (.header .latest) = 0 := by
      refine List.count_eq_zero.2 fun hmem => ?_
      obtain ⟨x, hx, hcall⟩ := List.mem_map.1 hmem
      rcases named x hx with hname | hname | ⟨hash, hname⟩ <;>
        cases hcall.symm.trans hname
    rw [hcalls, List.count_append, hnone, admitted.calls_plan, Window.count_head_resolve]
  unpended := by
    rintro head admitted rfl hlatest hpending
    rw [outcome_plan_of_checked _ admitted.1 admitted.2, Window.outcome_resolve, hlatest]
    simp only [hpending]
  resolved := by
    intro hnone
    rcases halts_or_resolves o count last percentiles hhead hfinalized with
      ⟨e, asked, halts⟩ | ⟨window, planned⟩
    · exact absurd halts (hnone e asked)
    · exact ⟨window, planned, fun refused => unfolds.fetch_of_refused planned refused⟩
  category := by
    intro e c refused
    have blamed := unfolds.blamed hhead hfinalized refused
    constructor
    · rintro rfl
      exact blamed
    · exact blamed.unique

end Oracle

open Oracle

/-- **Refusals are classified.** Every run of a query, the workers and the consumer taking turns in
any order over a chain that may change, is classified by what the one who asks was told; and so is
the query of the program. -/
theorem refusals_classified (o : Oracle) (count : UInt64) (last : Selector)
    (percentiles : List Float) {view : View} (hhead : view (.header .latest) ≠ .broken)
    (hfinalized : view .finalized ≠ .broken) :
    (∀ {t}, o.Unfolds count last percentiles view t →
      o.Classified count last percentiles view t) ∧
    ∃ received, o.Classified count last percentiles view
      ⟨(o.feeHistory count last percentiles).calls view, received,
        (o.feeHistory count last percentiles).outcome view⟩ := by
  refine ⟨fun unfolds => unfolds.classified hhead hfinalized, ?_⟩
  obtain ⟨received, unfolds⟩ := unfolds_feeHistory o count last percentiles view
  exact ⟨received, unfolds.classified hhead hfinalized⟩

/-- An oracle that serves no window. -/
def unserving : Oracle where
  chain := Oracle.standard.chain
  limits := { maxHeaderHistory := 0, maxBlockHistory := 0 }
  chain_valid := Oracle.standard.chain_valid
  limits_valid := ⟨by decide, by decide⟩

/-- Block 9 is beyond head 8, although no block would have been served. -/
theorem refusals_classified_beyond_eight :
    headOnly 8 (.header .latest) ≠ .broken ∧ headOnly 8 .finalized ≠ .broken ∧
      unserving.width 1 [] = 0 ∧
      ∀ {t}, unserving.Unfolds 1 (.number 9) [] (headOnly 8) t →
        unserving.Classified 1 (.number 9) [] (headOnly 8) t ∧
          t.calls = [.header .latest] ∧ t.outcome = .error (.refused (.beyondHead 9 8)) := by
  have hhead : headOnly 8 (.header .latest) ≠ .broken := by simp [headOnly]
  have hfinalized : headOnly 8 .finalized ≠ .broken := by simp [headOnly, Reply.nothing]
  have admitted : unserving.Admitted 1 [] := ⟨by decide, rfl⟩
  have hfound : headOnly 8 (.header .latest) =
      .found ⟨8, 0, 30000000, 15000000, some initialBaseFee⟩ := rfl
  have hbeyond : (8 : UInt64) < 9 := by decide
  have halts : unserving.Halts (headOnly 8) 1 [] (.number 9) (.beyondHead 9 8)
      [.header .latest] := .beyondHead admitted hfound hbeyond
  refine ⟨hhead, hfinalized, by decide, fun unfolds => ?_⟩
  have classified := (refusals_classified unserving 1 (.number 9) [] hhead hfinalized).1 unfolds
  exact ⟨classified, classified.halted halts⟩

end FeeMarket
