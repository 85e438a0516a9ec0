import FeeMarket.Proofs.FetchPool.Traffic
import FeeMarket.Proofs.FixedChain
import FeeMarket.Proofs.Refusal

/-!
# What a query asks of a chain

**Traffic** (`Oracle.traffic`). The calls of a query over a window: the head; the pending or the
finalized block, if the window ends with it; and for each number of the window the calls for it.

Theorem (`traffic_exact`). If no lookup fails, the calls of a query are its traffic, in some order:
whatever the number of workers, the schedule, and the changes of the chain in between. So nothing is
asked beyond the window, nothing twice for a number, and nothing is left out because a block before it
was not there.

The window must be one that a queue can be made for, and there must be room above it. No block of a
window that is too long is asked for at all, and where the counter of the workers passes the largest
word, it starts again from zero (`traffic_at_limits`).
-/

namespace FeeMarket

theorem Window.Resolves.exists_head {view : View} {count : UInt64} {selector : Selector} {w : Window}
    (h : Resolves view count selector w) : ∃ head, view (.header .latest) = .found head := by
  cases h with
  | number hhead | latest hhead | pending hhead | headForPending hhead | finalized hhead =>
    exact ⟨_, hhead⟩

namespace Oracle

variable {o : Oracle} {count : UInt64} {last : Selector} {percentiles : List Float}
  {window : Window} {view : View}

/-- The calls of a query over a window, the head first. -/
def traffic (o : Oracle) (last : Selector) (window : Window) (percentiles : List Float)
    (answers : UInt64 → View) : List Call :=
  .header .latest :: last.further ++ (o.job window percentiles).numbers.flatMap fun n =>
    (o.job window percentiles).callsFor (answers n) n

theorem calls_plan_of_window (planned : (o.plan count last percentiles).outcome view = .ok window)
    (nonempty : window.isEmpty = false) :
    (o.plan count last percentiles).calls view = .header .latest :: last.further := by
  obtain ⟨head, hhead⟩ := (resolves_of_plan planned nonempty).exists_head
  rw [(admitted_of_plan planned nonempty).calls_plan, Window.calls_resolve, hhead]

/-- The query of the program makes the calls of a settled run. -/
theorem calls_feeHistory_reached
    (planned : (o.plan count last percentiles).outcome view = .ok window)
    (nonempty : window.isEmpty = false)
    (room : window.last.toNat + o.workers window < UInt64.size)
    (fits : window.count.toNat ≤ maxQueueLength) :
    ∃ h p, FetchPool.Reached (o.job window percentiles) (satisfied window.count.toNat)
        (.start (o.job window percentiles) (o.workers window)) h p ∧
      p.Settled (satisfied window.count.toNat) ∧ (h.Follows fun _ => view) ∧
      (o.feeHistory count last percentiles).calls view =
        (o.plan count last percentiles).calls view ++ h.heard.map Heard.call := by
  obtain ⟨hc, hlast, -, hl, -⟩ := startable planned nonempty room
  obtain ⟨h, hr, hf, hcalls, hs⟩ :=
    FetchPool.drive_settles (satisfied window.count.toNat) hl room view
  refine ⟨h, _, hr, hs, hf, ?_⟩
  rw [calls_feeHistory, collect, Query.calls_bind, planned, hcalls]
  simp only [nonempty, Bool.false_eq_true, if_false]
  rw [calls_cover (outcome_start o percentiles nonempty hc hlast fits)]

/-- **Traffic is exact**, in the settled runs over a chain that changes, with any schedule, and in
the query of the program over a fixed chain. -/
theorem traffic_exact (planned : (o.plan count last percentiles).outcome view = .ok window)
    (nonempty : window.isEmpty = false)
    (room : window.last.toNat + o.workers window < UInt64.size)
    (fits : window.count.toNat ≤ maxQueueLength) :
    (∀ v, (o.start window percentiles).outcome v =
      .ok (o.job window percentiles, .start (o.job window percentiles) (o.workers window))) ∧
    (∀ {h p answers}, FetchPool.Reached (o.job window percentiles)
        (satisfied window.count.toNat)
        (.start (o.job window percentiles) (o.workers window)) h p →
      p.Settled (satisfied window.count.toNat) → (o.job window percentiles).Metered h.answers →
      (∀ x ∈ h.heard, ¬ x.status.Fails) → h.Follows answers →
        ((o.plan count last percentiles).calls view ++ h.heard.map Heard.call).Perm
          (o.traffic last window percentiles answers)) ∧
    (view.Metered → (∀ b, window.pending = some b → gasOf b.receipts < UInt64.size) →
      (∀ c ∈ (o.feeHistory count last percentiles).calls view,
        ¬ (Reply.status c (view c)).Fails) →
        ((o.feeHistory count last percentiles).calls view).Perm
          (o.traffic last window percentiles fun _ => view)) := by
  obtain ⟨hc, hlast, hn, hl, hsize⟩ := startable planned nonempty room
  have room' : (o.job window percentiles).last.toNat + o.workers window < UInt64.size := room
  have runs {h : History} {p : FetchPool} {answers : UInt64 → View}
      (hr : FetchPool.Reached (o.job window percentiles) (satisfied window.count.toNat)
        (.start (o.job window percentiles) (o.workers window)) h p)
      (hs : p.Settled (satisfied window.count.toNat))
      (metered : (o.job window percentiles).Metered h.answers)
      (sound : ∀ x ∈ h.heard, ¬ x.status.Fails) (hf : h.Follows answers) :
      ((o.plan count last percentiles).calls view ++ h.heard.map Heard.call).Perm
        (o.traffic last window percentiles answers) := by
    rw [← hsize] at hr hs
    have ht := Tally.of_reached hl room' hr
    obtain ⟨-, hfull⟩ := hr.full o.chain_valid hn hl room' hs metered sound
    rw [calls_plan_of_window planned nonempty]
    exact ((Traced.of_reached hl room' hr hf).calls_perm (Asked.of_reached hl room' hr) hl
      (ht.received_perm hfull)).append_left _
  refine ⟨fun v => outcome_start o percentiles nonempty hc hlast fits, runs, ?_⟩
  intro metered hp sound
  obtain ⟨h, p, hr, hs, hf, hcalls⟩ := calls_feeHistory_reached planned nonempty room fits
  rw [hcalls] at sound ⊢
  refine runs hr hs (FetchJob.metered_of_view metered hp hf) ?_ hf
  intro x hx
  rw [Heard.status, hf x hx]
  exact sound x.call (List.mem_append_right _ (List.mem_map.2 ⟨x, hx, rfl⟩))

theorem headOnly_sound (number : UInt64) (c : Call) :
    ¬ (Reply.status c (headOnly number c)).Fails := by
  rcases c with (n | _ | _ | _) | selector | hash | _ | _ <;> exact id

/-- The last two of the blocks up to 8, with no pending block after them. -/
theorem traffic_exact_up_to_eight :
    (standard.plan 3 .pending []).outcome (headOnly 8) = .ok ⟨none, 8, 2⟩ ∧
      ((standard.feeHistory 3 .pending []).calls (headOnly 8)).Perm
        [.header .latest, .pending, .header (.number 7), .header (.number 8)] := by
  have planned : (standard.plan 3 .pending []).outcome (headOnly 8) = .ok ⟨none, 8, 2⟩ := rfl
  have metered : (headOnly 8).Metered := by simp [View.Metered, headOnly, Reply.nothing]
  have exact := traffic_exact planned rfl (by decide) (by decide)
  exact ⟨planned, exact.2.2 metered (by simp) fun c _ => headOnly_sound 8 c⟩

/-- Two workers fetch the last two blocks up to `nearlyTop`. The second finishes with the largest
word, and the first goes on to block zero, before anything is received. -/
def movesPastTop : List FetchPool.Move :=
  [0, 0, 1, 1, 1, 1, 1, 1, 0, 0, 0, 0, 0].map (FetchPool.Move.turn · (headOnly nearlyTop)) ++
    [.receive, .receive]

/-- Where no queue can be made, nothing is asked after the head. Where there is no room, a block is
asked for that lies outside the window. -/
theorem traffic_at_limits :
    (∃ window, (farSighted.plan 0x2000000000000000 .latest []).outcome
        (headOnly 0x4000000000000000) = .ok window ∧ window.isEmpty = false ∧
      (farSighted.feeHistory 0x2000000000000000 .latest []).calls
        (headOnly 0x4000000000000000) = [.header .latest] ∧
      ∀ answers, ¬ [Call.header .latest].Perm (farSighted.traffic .latest window [] answers)) ∧
    ∃ window h p, (standard.plan 2 .latest []).outcome (headOnly nearlyTop) = .ok window ∧
      window.isEmpty = false ∧
      FetchPool.Reached (standard.job window []) (satisfied window.count.toNat)
        (.start (standard.job window []) (standard.workers window)) h p ∧
      p.Settled (satisfied window.count.toNat) ∧ (∀ x ∈ h.heard, x.status = .absent) ∧
      .header (.number 0) ∈ h.heard.map Heard.call ∧
      ∀ answers, .header (.number 0) ∉ standard.traffic .latest window [] answers := by
  refine ⟨⟨⟨none, 0x4000000000000000, 0x2000000000000000⟩, rfl, rfl, rfl, ?_⟩, ?_⟩
  · intro answers hperm
    have hmem : Call.header (.number 0x4000000000000000) ∈ farSighted.traffic .latest
        ⟨none, 0x4000000000000000, 0x2000000000000000⟩ [] answers := by
      refine List.mem_append_right _ (List.mem_flatMap.2 ⟨0x4000000000000000, ?_, ?_⟩)
      · exact FetchJob.mem_numbers.2 ⟨by decide, by decide⟩
      · exact List.mem_singleton_self _
    simpa using hperm.mem_iff.2 hmem
  · have ended : ((FetchPool.replay (standard.job ⟨none, nearlyTop, 2⟩ []) (satisfied 2)
        movesPastTop {} (.start (standard.job ⟨none, nearlyTop, 2⟩ []) 2)).any fun r =>
          satisfied 2 r.2.received && (r.1.heard.all fun x => x.status = .absent) &&
            decide (.header (.number 0) ∈ r.1.heard.map Heard.call)) = true := by
      decide +kernel
    obtain ⟨⟨h, p⟩, hm, hend⟩ := (Option.any_eq_true _ _).1 ended
    simp only [Bool.and_eq_true, List.all_eq_true, decide_eq_true_eq] at hend
    obtain ⟨⟨hsettled, habsent⟩, hzero⟩ := hend
    refine ⟨⟨none, nearlyTop, 2⟩, h, p, rfl, rfl, FetchPool.Reached.start.replay hm,
      .inl hsettled, habsent, hzero, fun answers => ?_⟩
    show Call.header (.number 0) ∉
      [Call.header .latest, .header (.number 0xFFFFFFFFFFFFFFFD), .header (.number nearlyTop)]
    decide

end Oracle

end FeeMarket
