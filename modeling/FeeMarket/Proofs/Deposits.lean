import FeeMarket.Proofs.Schedule

/-!
# What the consumer receives

Every deposit was made by a worker that settled a number (`Reached.settles`), whatever the replies
were and however close to the largest word the range ends. So the fees of a deposit are those of the
header, the block and the receipts that it carries (`FetchJob.Settles.exists_findings`).

An answer consists of fees that were received, each with the number of its place
(`Reached.exists_fees`).
-/

namespace FeeMarket

/-- The deposit of a number that was settled. -/
def FetchJob.Settles (job : FetchJob) (d : Deposit) : Prop :=
  ∃ n l, job.settle n l = .holds d

/-- The fees of a deposit, and what they were computed from. -/
structure Deposit.Carries (d : Deposit) (job : FetchJob) (f : Findings) (x : ProcessedFees) :
    Prop where
  outcome : d.outcome = .ok ⟨some f.header, f.block, f.receipts, some x⟩
  process : job.process f = .ok x

namespace FetchJob

variable {job : FetchJob} {d : Deposit} {n : UInt64}

theorem Settles.exists_findings {x : ProcessedFees} (h : job.Settles d) (hx : d.fees? = some x) :
    ∃ f, d.Carries job f x := by
  obtain ⟨n, l, hsettle⟩ := h
  obtain ⟨f, rfl, hprocess⟩ := fees?_eq_some ((fees?_of_settle hsettle).symm.trans hx)
  refine ⟨f, ?_, hprocess⟩
  rw [process] at hprocess
  rw [settle, hprocess] at hsettle
  cases hsettle
  rfl

theorem settles_of_take (h : job.take n = .holds d) : job.Settles d := by
  unfold take at h
  split at h
  · exact ⟨n, _, h⟩
  · split at h <;> cases h

theorem settles_of_hear {view : View} {w : Worker} (hw : w.awaited? = some n)
    (h : job.hear view w = .holds d) : job.Settles d := by
  cases w with
  | awaitsHeader m => exact ⟨m, _, h⟩
  | awaitsReceipts m block => exact ⟨m, _, h⟩
  | awaitsBlock m =>
    rw [hear] at h
    split at h
    · exact ⟨m, _, h⟩
    · cases h
    · exact ⟨m, _, h⟩
    · exact ⟨m, _, h⟩
  | idle | cleared | holds d | finished | dead => cases hw

end FetchJob

namespace FetchPool.Reached

variable {job : FetchJob} {enough : List Deposit → Bool} {n count : Nat} {h : History}
  {p : FetchPool} {d : Deposit}

/-- **Every deposit was settled.** -/
theorem settles (hr : Reached job enough (.start job n) h p) (hd : d ∈ p.received) :
    job.Settles d := by
  have both : (∀ w ∈ p.workers, ∀ d, w = .holds d → job.Settles d) ∧
      ∀ d ∈ p.received ++ p.queue, job.Settles d := by
    refine hr.invariant (motive := fun _ p => (∀ w ∈ p.workers, ∀ d, w = .holds d → job.Settles d) ∧
      ∀ d ∈ p.received ++ p.queue, job.Settles d) ?_ ?_ ?_
    · refine ⟨?_, by simp [FetchPool.start]⟩
      rintro w hw d rfl
      cases (List.mem_replicate.1 hw).2
    · intro h p i view deed q hi turned
      -- Only a worker that has claimed a number or heard a reply comes to hold a deposit.
      have swapped {w' : Worker} (hw' : ∀ d, w' = .holds d → job.Settles d) :
          ∀ w ∈ p.workers.set i w', ∀ d, w = .holds d → job.Settles d := by
        intro w hw
        rcases List.mem_or_eq_of_mem_set hw with hw | rfl
        · exact hi.1 w hw
        · exact hw'
      cases turned with
      | cleared | dismissed | overshot => exact ⟨swapped (by simp), hi.2⟩
      | claimed => exact ⟨swapped fun d => FetchJob.settles_of_take, hi.2⟩
      | heard hw hn => exact ⟨swapped fun d => FetchJob.settles_of_hear hn, hi.2⟩
      | @deposited x hw =>
        refine ⟨swapped (by simp), ?_⟩
        intro d hd
        rw [FetchPool.received_put, ← List.append_assoc] at hd
        rcases List.mem_append.1 hd with hd | hd
        · exact hi.2 d hd
        · obtain rfl : d = x := by simpa using hd
          exact hi.1 _ (List.mem_of_getElem? hw) d rfl
    · intro h p x rest hi hq _
      refine ⟨hi.1, ?_⟩
      have hd := hi.2
      rw [hq] at hd
      simpa using hd
  exact both.2 d (List.mem_append_left _ hd)

end FetchPool.Reached

/-! ## Slots -/

namespace FeeHistory

/-- What is in a slot was there before, or was put there by a deposit. -/
theorem exists_of_foldl_place {oldest : UInt64} {s : List (Option ProcessedFees)}
    {deposits : List Deposit} {i : Nat} {x : ProcessedFees}
    (h : (deposits.foldl (place oldest) s)[i]? = some (some x)) :
    s[i]? = some (some x) ∨
      ∃ d ∈ deposits, (d.number - oldest).toNat = i ∧ d.fees? = some x := by
  induction deposits generalizing s with
  | nil => exact .inl h
  | cons d deposits ih =>
    rcases ih h with hplaced | ⟨d', hd', hslot⟩
    · rw [place, List.getElem?_set] at hplaced
      split at hplaced
      · rename_i hi
        split at hplaced
        · exact .inr ⟨d, List.mem_cons_self, hi, Option.some.inj hplaced⟩
        · cases hplaced
      · exact .inl hplaced
    · exact .inr ⟨d', List.mem_cons_of_mem d hd', hslot⟩

theorem exists_of_slots {oldest : UInt64} {count i : Nat} {deposits : List Deposit}
    {x : ProcessedFees} (h : (slots oldest count deposits)[i]? = some (some x)) :
    ∃ d ∈ deposits, d.number = oldest + UInt64.ofNat i ∧ d.fees? = some x := by
  rcases exists_of_foldl_place h with hempty | ⟨d, hd, hi, hx⟩
  · rw [List.getElem?_replicate] at hempty
    split at hempty <;> cases hempty
  · refine ⟨d, hd, ?_, hx⟩
    rw [← hi, add_ofNat_toNat_sub]

theorem length_slots (oldest : UInt64) (count : Nat) (deposits : List Deposit) :
    (slots oldest count deposits).length = count := by
  rw [slots, length_foldl_place, List.length_replicate]

end FeeHistory

/-- **What an answer consists of.** Each of its fees was received with the number of its place. -/
theorem FetchPool.Reached.exists_fees {job : FetchJob} {enough : List Deposit → Bool}
    {n count : Nat} {h : History} {p : FetchPool} {view : View} {history : FeeHistory}
    (hr : Reached job enough (.start job n) h p)
    (concluded : (Oracle.conclude job count p).outcome view = .ok history) :
    ∃ fees : List ProcessedFees, history = .ofFees job.oldest fees (!job.percentiles.isEmpty) ∧
      fees.length ≤ count ∧ ∀ {i x}, fees[i]? = some x →
        ∃ d ∈ p.received, d.number = job.oldest + UInt64.ofNat i ∧ ∃ f, d.Carries job f x := by
  obtain ⟨-, -, rfl⟩ := Oracle.outcome_conclude_eq_ok concluded
  refine ⟨_, rfl, ?_, ?_⟩
  · exact Nat.le_trans (FeeHistory.length_leading_le _)
      (Nat.le_of_eq (FeeHistory.length_slots _ _ _))
  · intro i x hx
    obtain ⟨d, hd, hnumber, hfees⟩ :=
      FeeHistory.exists_of_slots (FeeHistory.getElem?_of_leading hx)
    exact ⟨d, hd, hnumber, (hr.settles hd).exists_findings hfees⟩

end FeeMarket
