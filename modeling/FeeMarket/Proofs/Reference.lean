import FeeMarket.Proofs.BlockFees
import FeeMarket.Proofs.FeeHistory
import FeeMarket.Proofs.FetchPool.Answers

/-!
# The sequential reference

**Reference** (`FetchJob.reference`). The history that one reader would put together: it looks up
the numbers of the range one after the other, stops at the first that is not there, and processes
what it has found.

**Metered answers** (`FetchJob.Metered`). The gas that the receipts of a block used is a word. Then
processing meets no fault, so a worker dies only of a broken reader.
-/

namespace FeeMarket

namespace FetchJob

variable (job : FetchJob) (answers : UInt64 → View)

/-- The fees of what was found. -/
def process (f : Findings) : Checked ProcessedFees :=
  processBlock job.config f.header f.block f.receipts job.percentiles

/-- What was found of the blocks with these numbers, up to the first that was not there. -/
def found : List UInt64 → List Findings
  | [] => []
  | n :: rest =>
    match job.lookUp (answers n) n with
    | .found f => f :: found rest
    | _ => []

/-- **The sequential reference.** -/
def reference : Checked FeeHistory := do
  let fees ← (job.found answers job.numbers).mapM job.process
  return .ofFees job.oldest fees (!job.percentiles.isEmpty)

/-- The fees of a lookup, if it found a block. -/
def fees? : Lookup Findings → Option ProcessedFees
  | .found f => (job.process f).toOption
  | _ => none

/-- The fees of the numbers of the range, up to the first that has none. -/
def entries : List ProcessedFees :=
  FeeHistory.leading (job.numbers.map fun n => job.fees? (job.lookUp (answers n) n))

variable {job answers} {n : UInt64} {l : Lookup Findings} {d : Deposit}

theorem mapM_found {numbers : List UInt64}
    (h : ∀ n ∈ numbers, ∀ f, job.lookUp (answers n) n = .found f →
      ∃ fees, job.process f = .ok fees) :
    (job.found answers numbers).mapM job.process =
      .ok (FeeHistory.leading (numbers.map fun n => job.fees? (job.lookUp (answers n) n))) := by
  induction numbers with
  | nil => rfl
  | cons n rest ih =>
    have ih' := ih fun m hm => h m (List.mem_cons_of_mem n hm)
    rw [found, List.map_cons]
    cases hn : job.lookUp (answers n) n with
    | found f =>
      obtain ⟨fees, hfees⟩ := h n List.mem_cons_self f hn
      simp only [List.mapM_cons, hfees, fees?, Except.toOption, FeeHistory.leading, ih']
      rfl
    | absent | failed reason | broken => rfl

theorem reference_eq_ok
    (h : ∀ n ∈ job.numbers, ∀ f, job.lookUp (answers n) n = .found f →
      ∃ fees, job.process f = .ok fees) :
    job.reference answers =
      .ok (.ofFees job.oldest (job.entries answers) (!job.percentiles.isEmpty)) := by
  rw [reference, mapM_found h]
  rfl

theorem fees?_eq_some {x : ProcessedFees} (h : job.fees? l = some x) :
    ∃ f, l = .found f ∧ job.process f = .ok x := by
  cases l with
  | absent | failed reason | broken => cases h
  | found f =>
    refine ⟨f, rfl, ?_⟩
    rw [fees?] at h
    cases hprocess : job.process f with
    | error e => simp [hprocess, Except.toOption] at h
    | ok y => simpa [hprocess, Except.toOption] using h

theorem length_entries_le (job : FetchJob) (answers : UInt64 → View) :
    (job.entries answers).length ≤ job.size := by
  refine Nat.le_trans (FeeHistory.length_leading_le _) (Nat.le_of_eq ?_)
  rw [List.length_map, numbers, length_countFrom]

theorem exists_of_entries {i : Nat} {x : ProcessedFees} (h : (job.entries answers)[i]? = some x) :
    let n := job.oldest + UInt64.ofNat i
    ∃ f, job.lookUp (answers n) n = .found f ∧ job.process f = .ok x := by
  have hslot := FeeHistory.getElem?_of_leading h
  rw [List.getElem?_map] at hslot
  obtain ⟨m, hm, hfees⟩ := Option.map_eq_some_iff.1 hslot
  rw [eq_of_getElem?_countFrom hm] at hfees
  exact fees?_eq_some hfees

theorem exists_mapM_found {numbers : List UInt64} {fees : List ProcessedFees}
    (hfound : ∀ n ∈ numbers, ∃ f, job.lookUp (answers n) n = .found f)
    (h : (job.found answers numbers).mapM job.process = .ok fees) :
    fees.length = numbers.length ∧ ∀ {i : Nat} {n f}, numbers[i]? = some n →
      job.lookUp (answers n) n = .found f → ∃ x, fees[i]? = some x ∧ job.process f = .ok x := by
  induction numbers generalizing fees with
  | nil =>
    cases h
    exact ⟨rfl, by simp⟩
  | cons n rest ih =>
    obtain ⟨f, hf⟩ := hfound n List.mem_cons_self
    rw [found, hf] at h
    rw [List.mapM_cons] at h
    obtain ⟨x, hx, h⟩ := bind_eq_ok.1 h
    obtain ⟨xs, hxs, h⟩ := bind_eq_ok.1 h
    cases h
    obtain ⟨hlen, hall⟩ := ih (fun m hm => hfound m (List.mem_cons_of_mem n hm)) hxs
    refine ⟨congrArg Nat.succ hlen, ?_⟩
    intro i m g hm hg
    cases i with
    | zero =>
      cases hm
      obtain rfl : f = g := Lookup.found.inj (hf.symm.trans hg)
      exact ⟨x, rfl, hx⟩
    | succ i => exact hall hm hg

/-- If all blocks of the range are found, the reference has an entry for each of them. -/
theorem reference_entries {history : FeeHistory}
    (hfound : ∀ n ∈ job.numbers, ∃ f, job.lookUp (answers n) n = .found f)
    (h : job.reference answers = .ok history) :
    ∃ fees, history = .ofFees job.oldest fees (!job.percentiles.isEmpty) ∧
      fees.length = job.size ∧ ∀ {i : Nat} {n f}, job.numbers[i]? = some n →
        job.lookUp (answers n) n = .found f → ∃ x, fees[i]? = some x ∧ job.process f = .ok x := by
  rw [reference] at h
  obtain ⟨fees, hfees, h⟩ := bind_eq_ok.1 h
  obtain ⟨hlen, hall⟩ := exists_mapM_found hfound hfees
  exact ⟨fees, (Except.ok.inj h).symm, hlen.trans (length_countFrom _ _), hall⟩

/-! ## What a deposit says of its lookup -/

theorem fees?_of_settle (h : job.settle n l = .holds d) : d.fees? = job.fees? l := by
  cases l with
  | absent | failed reason =>
    cases h
    rfl
  | broken => cases h
  | found f =>
    rw [fees?, process]
    rw [settle] at h
    split at h
    · cases h
    · rename_i fees hfees
      cases h
      rw [hfees]
      rfl

theorem process_of_settle {f : Findings} (h : job.settle n (.found f) = .holds d) :
    ∃ fees, job.process f = .ok fees := by
  rw [settle] at h
  split at h
  · cases h
  · rename_i fees hfees
    exact ⟨fees, hfees⟩

/-! ## Metered answers -/

/-- The gas that the receipts of a block used is a word. -/
def Metered (job : FetchJob) (answers : UInt64 → View) : Prop :=
  (∀ b, job.pending = some b → gasOf b.receipts < UInt64.size) ∧
    ∀ n hash receipts, answers n (.receipts hash) = .found receipts →
      gasOf receipts < UInt64.size

theorem Metered.gasOf_lt {f : Findings} (hm : job.Metered answers)
    (h : job.lookUp (answers n) n = .found f) (rs : List Receipt) (hrs : f.receipts = some rs) :
    gasOf rs < UInt64.size := by
  unfold lookUp at h
  cases hsub : job.substitute? n with
  | some b =>
    simp only [hsub, Lookup.found.injEq] at h
    subst h
    cases hrs
    exact hm.1 b (Option.filter_eq_some_iff.1 hsub).1
  | none =>
    simp only [hsub] at h
    split at h
    · cases hl : answers n (.header (.number n)) with
      | found header =>
        simp only [hl, Lookup.map, Lookup.found.injEq] at h
        subst h
        cases hrs
      | absent | failed reason | broken => simp [hl, Lookup.map] at h
    · split at h
      · cases h
      · rename_i block hb
        cases hl : answers n (.receipts block.hash) with
        | found receipts =>
          simp only [hl, Lookup.withBlock, Lookup.found.injEq] at h
          subst h
          cases hrs
          exact hm.2 n block.hash _ hl
        | absent =>
          simp only [hl, Lookup.withBlock, Lookup.found.injEq] at h
          subst h
          cases hrs
        | failed reason | broken => simp [hl, Lookup.withBlock] at h
      · cases h
      · cases h

theorem Metered.broken_of_dead (hm : job.Metered answers) (valid : job.config.Valid)
    (h : job.settle n (job.lookUp (answers n) n) = .dead) :
    job.lookUp (answers n) n = .broken := by
  cases hl : job.lookUp (answers n) n with
  | absent | failed reason => simp [hl, settle] at h
  | broken => rfl
  | found f =>
    obtain ⟨fees, hfees⟩ :=
      processBlock_total valid f.header f.block job.percentiles (hm.gasOf_lt hl)
    simp [hl, settle, hfees] at h

end FetchJob

end FeeMarket
