import FeeMarket.Proofs.FixedChain
import FeeMarket.Proofs.Reward

/-!
# The shape of every answer

**Ends** (`Oracle.Ends`). What a query that has an answer can come to, the workers and the consumer
taking turns in any order, over a chain that may change with every call. Its window and the replies
that the workers heard are kept.

**Shaped** (`Oracle.Shaped`). The answer covers at least one block and at most as many as were asked
for, begins with the oldest block of the window, and its lists have the lengths that go with each
other. A row of rewards is that of the block that was found for its number (`FetchJob.RowOf`).

Every answer that covers a block is shaped, whatever the chain replies (`answers_shaped`). Receipts
may be missing or wrong, and blocks may have other numbers than were asked for.
-/

namespace FeeMarket

namespace FetchJob

variable {job : FetchJob} {view : View} {answers : UInt64 → View} {n : UInt64} {f : Findings}

theorem exists_block_of_lookUp (asked : job.percentiles ≠ [])
    (h : job.lookUp view n = .found f) :
    ∃ block receipts, f = ⟨block.header, some block, receipts⟩ := by
  have hasked : ¬ job.percentiles.isEmpty = true := by simpa using asked
  unfold lookUp at h
  cases hsub : job.substitute? n with
  | some b =>
    simp only [hsub, Lookup.found.injEq] at h
    exact ⟨b.block, some b.receipts, h.symm⟩
  | none =>
    simp only [hsub, if_neg hasked] at h
    cases hb : view (.block (.number n)) with
    | absent | failed reason | broken => simp [hb] at h
    | found block =>
      simp only [hb] at h
      cases hr : view (.receipts block.hash) with
      | failed reason | broken => simp [hr, Lookup.withBlock] at h
      | absent =>
        simp only [hr, Lookup.withBlock, Lookup.found.injEq] at h
        exact ⟨block, none, h.symm⟩
      | found receipts =>
        simp only [hr, Lookup.withBlock, Lookup.found.injEq] at h
        exact ⟨block, some receipts, h.symm⟩

/-- The row of rewards of a number. It is empty just if the block that was found has transactions and
not one receipt for each of them; otherwise it has a reward for each percentile, in ascending order. -/
def RowOf (job : FetchJob) (view : View) (n : UInt64) (row : List Wei) : Prop :=
  ∃ block receipts, job.lookUp view n = .found ⟨block.header, some block, receipts⟩ ∧
    (row = [] ↔ block.Unreceipted receipts) ∧
    (row ≠ [] → row.length = job.percentiles.length ∧ row.Pairwise (· ≤ ·))

theorem rowOf_process {x : ProcessedFees} (asked : job.percentiles ≠ [])
    (hf : job.lookUp view n = .found f) (hx : job.process f = .ok x) :
    job.RowOf view n (x.reward.getD []) := by
  obtain ⟨block, receipts, rfl⟩ := exists_block_of_lookUp asked hf
  refine ⟨block, receipts, hf, ?_⟩
  obtain ⟨fee, row?, -, hrow, rfl⟩ := exists_of_processBlock hx
  rcases RewardBasis.rewards_row asked hrow with
    ⟨rfl, hmissing⟩ | ⟨row, rfl, hlength, hascends, hpresent⟩
  · simp [hmissing]
  · have hne : row ≠ [] := by
      intro hnil
      rw [hnil, List.length_nil] at hlength
      exact asked (List.length_eq_zero_iff.1 hlength.symm)
    simp [hne, hpresent, hlength, hascends]

theorem blobFees_of_entries {x : ProcessedFees} (h : x ∈ job.entries answers) :
    x.blobBaseFee = 0 ∧ x.nextBlobBaseFee = 0 ∧ x.blobGasUsedRatio = 0 := by
  obtain ⟨i, hi⟩ := List.mem_iff_getElem?.1 h
  obtain ⟨f, -, hprocess⟩ := exists_of_entries hi
  exact blobFees_of_processBlock hprocess

theorem rowOf_entries (asked : job.percentiles ≠ []) {i : Nat} {row : List Wei}
    (h : ((job.entries answers).map fun x => x.reward.getD [])[i]? = some row) :
    let n := job.oldest + UInt64.ofNat i
    job.RowOf (answers n) n row := by
  rw [List.getElem?_map] at h
  obtain ⟨x, hx, rfl⟩ := Option.map_eq_some_iff.1 h
  obtain ⟨f, hf, hprocess⟩ := exists_of_entries hx
  exact rowOf_process asked hf hprocess

end FetchJob

open FetchPool (Reached)

/-- What an answer is made of: the fees of the numbers of the range, up to the first that has none. -/
theorem FetchPool.Reached.history_eq {job : FetchJob} {n : Nat} {h : History} {p : FetchPool}
    {view : View} {history : FeeHistory} {enough : List Deposit → Bool}
    {answers : UInt64 → View} (hl : job.oldest ≤ job.last)
    (room : job.last.toNat + n < UInt64.size) (hr : Reached job enough (.start job n) h p)
    (follows : h.Follows answers)
    (concluded : (Oracle.conclude job job.size p).outcome view = .ok history) :
    history = .ofFees job.oldest (job.entries answers) (!job.percentiles.isEmpty) := by
  have ht := Tally.of_reached hl room hr
  have ho := OnCourse.of_reached hr follows
  obtain ⟨-, hfull, rfl⟩ := Oracle.outcome_conclude_eq_ok concluded
  rw [ho.leading_slots ht hl hfull]

namespace Oracle

/-- What a query with an answer can come to: its window, and the replies to the lookups. The chain may
be another one whenever it is asked. -/
inductive Ends (o : Oracle) (count : UInt64) (last : Selector) (percentiles : List Float) :
    Window → (UInt64 → View) → FeeHistory → Prop
  | nothing {window view} (answers) : (o.plan count last percentiles).outcome view = .ok window →
      window.isEmpty = true → Ends o count last percentiles window answers .empty
  | covered {window view view' view'' job pool h p history} :
      (o.plan count last percentiles).outcome view = .ok window → window.isEmpty = false →
      (o.start window percentiles).outcome view' = .ok (job, pool) →
      Reached job (satisfied window.count.toNat) pool h p →
      p.Settled (satisfied window.count.toNat) →
      (conclude job window.count.toNat p).outcome view'' = .ok history →
      Ends o count last percentiles window h.answers history

/-- The shape of an answer that covers a block. -/
structure Shaped (o : Oracle) (count : UInt64) (percentiles : List Float) (window : Window)
    (answers : UInt64 → View) (history : FeeHistory) : Prop where
  length_pos : 1 ≤ history.length
  length_le_count : history.length ≤ count.toNat
  /-- Headers and full blocks have limits of their own. -/
  length_le_limit : history.length ≤
    (if percentiles = [] then o.limits.maxHeaderHistory else o.limits.maxBlockHistory).toNat
  length_le_last : history.length ≤ window.last.toNat + 1
  oldest : history.oldestBlock.toNat + window.count.toNat = window.last.toNat + 1
  newest : history.oldestBlock.toNat + history.length - 1 ≤ window.last.toNat
  baseFees : history.baseFeePerGas.length = history.length + 1
  blobFees : history.baseFeePerBlobGas = List.replicate (history.length + 1) 0
  blobRatios : history.blobGasUsedRatio = List.replicate history.length 0
  unrewarded : history.reward = none ↔ percentiles = []
  rewarded : ∀ rows, history.reward = some rows → rows.length = history.length ∧
    ∀ i row, rows[i]? = some row →
      let n := history.oldestBlock + UInt64.ofNat i
      (o.job window percentiles).RowOf (answers n) n row

variable {o : Oracle} {count : UInt64} {last : Selector} {percentiles : List Float}
  {window : Window} {view : View} {answers : UInt64 → View} {history : FeeHistory}

/-- The entries of a window have the shape of an answer, if there is one. -/
theorem shaped_of_entries {x : ProcessedFees}
    (planned : (o.plan count last percentiles).outcome view = .ok window)
    (room : window.last.toNat + 1 < UInt64.size)
    (nonempty : ((o.job window percentiles).entries answers).getLast? = some x) :
    o.Shaped count percentiles window answers (.ofFees (o.job window percentiles).oldest
      ((o.job window percentiles).entries answers) (!percentiles.isEmpty)) := by
  have hcount := count_le_of_plan planned
  have hwidth := count_le_width_of_plan planned
  rw [toNat_width] at hwidth
  have holdest : (o.job window percentiles).oldest.toNat =
      window.last.toNat + 1 - window.count.toNat := (Window.oldest_eq_ok hcount room).2
  have hlength := (o.job window percentiles).length_entries_le answers
  rw [size_job o percentiles hcount room] at hlength
  have hpos : 0 < ((o.job window percentiles).entries answers).length := by
    rw [List.length_pos_iff]
    intro hnil
    rw [hnil] at nonempty
    cases nonempty
  rw [FeeHistory.ofFees_eq _ _ nonempty]
  constructor <;> simp only [FeeHistory.length, List.length_map]
  case length_pos => omega
  case length_le_count => omega
  case length_le_limit => omega
  case length_le_last => omega
  case oldest => omega
  case newest => omega
  case baseFees => simp
  case blobFees =>
    rw [List.eq_replicate_iff]
    constructor
    · simp
    · intro fee hfee
      simp only [List.mem_append, List.mem_map, List.mem_singleton] at hfee
      rcases hfee with ⟨y, hy, rfl⟩ | rfl
      · exact (FetchJob.blobFees_of_entries hy).1
      · exact (FetchJob.blobFees_of_entries (List.mem_of_getLast? nonempty)).2.1
  case blobRatios =>
    rw [List.eq_replicate_iff]
    constructor
    · simp
    · intro ratio hratio
      obtain ⟨y, hy, rfl⟩ := List.mem_map.1 hratio
      exact (FetchJob.blobFees_of_entries hy).2.2
  case unrewarded => cases percentiles <;> simp
  case rewarded =>
    intro rows hrows
    have hasked : percentiles ≠ [] := by
      rintro rfl
      simp at hrows
    obtain rfl : ((o.job window percentiles).entries answers).map (fun x => x.reward.getD []) =
        rows := by simpa [hasked] using hrows
    exact ⟨List.length_map _, fun i row hrow => FetchJob.rowOf_entries hasked hrow⟩

/-- Every answer that a run comes to covers no block or is shaped, by any table of answers that the run
follows. -/
theorem shaped_of_reached {h : History} {p : FetchPool} {view' : View}
    (planned : (o.plan count last percentiles).outcome view = .ok window)
    (nonempty : window.isEmpty = false)
    (room : window.last.toNat + o.workers window < UInt64.size)
    (reached : Reached (o.job window percentiles) (satisfied window.count.toNat)
      (.start (o.job window percentiles) (o.workers window)) h p)
    (concluded : (conclude (o.job window percentiles) window.count.toNat p).outcome view' =
      .ok history) (follows : h.Follows answers) :
    history = .empty ∨ o.Shaped count percentiles window answers history := by
  obtain ⟨hc, hlast, -, hl, hsize⟩ := startable planned nonempty room
  rw [← hsize] at concluded
  have heq := reached.history_eq hl room follows concluded
  rw [heq]
  cases hend : ((o.job window percentiles).entries answers).getLast? with
  | none => exact .inl (by rw [FeeHistory.ofFees, hend])
  | some x => exact .inr (shaped_of_entries planned hlast hend)

theorem Ends.shaped (ends : o.Ends count last percentiles window answers history)
    (room : window.last.toNat + o.workers window < UInt64.size) :
    history = .empty ∨ o.Shaped count percentiles window answers history := by
  cases ends with
  | nothing => exact .inl rfl
  | @covered view view' view'' job pool h p _ planned nonempty started reached _ concluded =>
    obtain ⟨hc, hlast, -, hl, -⟩ := startable planned nonempty room
    obtain ⟨-, rfl, rfl⟩ := (outcome_start_eq_ok nonempty hc hlast).1 started
    have follows := (Asked.of_reached hl room reached).follows_answers
    exact shaped_of_reached planned nonempty room reached concluded follows

/-- The query of the program is one of the runs, and all it hears is what the chain replies. -/
theorem ends_of_feeHistory (planned : (o.plan count last percentiles).outcome view = .ok window)
    (room : window.last.toNat + o.workers window < UInt64.size)
    (answered : (o.feeHistory count last percentiles).outcome view = .ok history) :
    (∃ answers, o.Ends count last percentiles window answers history) ∧
      (history = .empty ∨ o.Shaped count percentiles window (fun _ => view) history) := by
  cases hempty : window.isEmpty with
  | true =>
    rw [(answers_empty planned hempty).answered] at answered
    cases answered
    exact ⟨⟨fun _ => view, .nothing _ planned hempty⟩, .inl rfl⟩
  | false =>
    obtain ⟨hc, hlast, -, -, -⟩ := startable planned hempty room
    cases hstart : (o.start window percentiles).outcome view with
    | error stop =>
      rw [outcome_feeHistory, outcome_collect planned hempty, cover, Query.outcome_bind,
        hstart] at answered
      cases answered
    | ok started =>
      obtain ⟨job, pool⟩ := started
      obtain ⟨fits, rfl, rfl⟩ := (outcome_start_eq_ok hempty hc hlast).1 hstart
      obtain ⟨h, p, hr, hs, follows, houtcome⟩ := feeHistory_reached planned hempty room fits
      have concluded := houtcome.symm.trans answered
      exact ⟨⟨h.answers, .covered planned hempty hstart hr hs concluded⟩,
        shaped_of_reached planned hempty room hr concluded follows⟩

end Oracle

open Oracle

/-- **The shape of every answer.** Whatever the chain replies, and whenever it changes, an answer
covers no block or is shaped. Each answer of the program over a view is the answer of such a run, and
it is shaped by what the view replies. -/
theorem answers_shaped (o : Oracle) (count : UInt64) (last : Selector) (percentiles : List Float) :
    (∀ {window answers history}, o.Ends count last percentiles window answers history →
      window.last.toNat + o.workers window < UInt64.size →
      history = .empty ∨ o.Shaped count percentiles window answers history) ∧
    ∀ {view history}, (o.feeHistory count last percentiles).outcome view = .ok history →
      ∃ window, (o.plan count last percentiles).outcome view = .ok window ∧
        (window.last.toNat + o.workers window < UInt64.size →
          (∃ answers, o.Ends count last percentiles window answers history) ∧
            (history = .empty ∨ o.Shaped count percentiles window (fun _ => view) history)) := by
  refine ⟨Ends.shaped, ?_⟩
  intro view history answered
  cases hplan : (o.plan count last percentiles).outcome view with
  | error stop => cases answered.symm.trans (outcome_feeHistory_of_stop hplan)
  | ok window => exact ⟨window, rfl, fun room => ends_of_feeHistory hplan room answered⟩

/-- A chain of two blocks that keeps no receipts. Only the second block has a transaction. -/
def unreceipted : View
  | .header .latest => .found ⟨1, 0, 30000000, 15000000, some initialBaseFee⟩
  | .block (.number n) =>
    .found ⟨⟨n, 0, 30000000, 15000000, some initialBaseFee⟩, if n = 0 then [] else [⟨0, 21000⟩]⟩
  | c => Reply.nothing c

/-- A row of zeros for the first block, and an empty one for the second. -/
theorem answers_shaped_without_receipts :
    ∃ answers history, (standard.feeHistory 2 .latest [50]).outcome unreceipted = .ok history ∧
      history.reward = some [[0], []] ∧
      standard.Ends 2 .latest [50] ⟨none, 1, 2⟩ answers history ∧
      standard.Shaped 2 [50] ⟨none, 1, 2⟩ answers history ∧
      standard.Shaped 2 [50] ⟨none, 1, 2⟩ (fun _ => unreceipted) history := by
  obtain ⟨history, answered, hreward⟩ : ∃ history,
      (standard.feeHistory 2 .latest [50]).outcome unreceipted = .ok history ∧
        history.reward = some [[0], []] := ⟨_, rfl, rfl⟩
  have nonempty : history ≠ .empty := by
    rintro rfl
    cases hreward
  obtain ⟨shaped, ends⟩ := answers_shaped standard 2 .latest [50]
  obtain ⟨window, planned, hends⟩ := ends answered
  obtain rfl : ⟨none, 1, 2⟩ = window := Except.ok.inj planned
  obtain ⟨⟨answers, hends⟩, hview⟩ := hends (by decide)
  exact ⟨answers, history, answered, hreward, hends,
    (shaped hends (by decide)).resolve_left nonempty, hview.resolve_left nonempty⟩

end FeeMarket
