import FeeMarket.Proofs.Verdict

/-!
# Chains that reply alike

**Unsealed.** A pending block has no hash yet, and readers put different things in its place.
Without the hash, blocks, findings and windows are **unsealed**. Nothing that a query computes
depends on it: fees and rewards are those of the unsealed findings (`process_unsealed`).

**Alike** (`View.Alike`). Two chains that reply the same to all that a query asks, but for the hash
of the pending block. A query asks for the receipts of a block only after it was given the block by
its number, so what the chains reply to other hashes does not matter.

Over two chains that are alike and do not fail, a query comes to the same outcome
(`View.Alike.comesTo`).
-/

namespace FeeMarket

/-! ## Without the hash -/

/-- The header with another hash. -/
def Header.withHash (hash : Hash) (h : Header) : Header := { h with hash }

/-- The block with another hash. -/
def Block.withHash (hash : Hash) (b : Block) : Block := { b with header := b.header.withHash hash }

/-- The block without its hash. -/
def FullBlock.unsealed (b : FullBlock) : FullBlock := { b with block := b.block.withHash 0 }

@[simp] theorem FullBlock.number_unsealed (b : FullBlock) : b.unsealed.number = b.number := rfl

/-- What was found, without the hash of the block. -/
def Findings.unsealed (f : Findings) : Findings :=
  ⟨f.header.withHash 0, f.block.map (Block.withHash 0), f.receipts⟩

/-- The window, its pending block without a hash. -/
def Window.unsealed (w : Window) : Window := { w with pending := w.pending.map FullBlock.unsealed }

theorem RewardBasis.rewards_withHash (hash : Hash) (block : Option Block)
    (receipts : Option (List Receipt)) (percentiles : List Float) :
    (RewardBasis.of (block.map (Block.withHash hash)) receipts percentiles).rewards percentiles =
      (RewardBasis.of block receipts percentiles).rewards percentiles := by
  unfold RewardBasis.of
  split
  · rfl
  · cases block with
    | none => rfl
    | some block =>
      cases receipts with
      | none =>
        simp only [Option.map_some, Block.withHash]
        split <;> rfl
      | some receipts =>
        simp only [Option.map_some, Block.withHash]
        split
        · rfl
        · split <;> rfl

/-- Two chains that reply the same to what a query asks, but for the hash of the pending block. -/
structure View.Alike (v w : View) : Prop where
  head : v (.header .latest) = w (.header .latest)
  finalized : v .finalized = w .finalized
  header : ∀ n, v (.header (.number n)) = w (.header (.number n))
  block : ∀ n, v (.block (.number n)) = w (.block (.number n))
  /-- Those of a block that was given. -/
  receipts : ∀ {n b}, v (.block (.number n)) = .found b →
    v (.receipts b.hash) = w (.receipts b.hash)
  pending : (v .pending).map FullBlock.unsealed = (w .pending).map FullBlock.unsealed

/-! ## The verdict of a range -/

namespace FetchJob

variable {job : FetchJob} {pending : Option FullBlock} {v w : View}

theorem process_unsealed (job : FetchJob) (f : Findings) :
    job.process f.unsealed = job.process f := by
  -- The basis keeps the block, so it is its rewards that are compared.
  show processBasis _ _ _ _ = processBasis _ _ _ _
  unfold processBasis
  rw [Findings.unsealed, RewardBasis.rewards_withHash]
  rfl

theorem failure?_unsealed (job : FetchJob) (l : Lookup Findings) :
    job.failure? (l.map Findings.unsealed) = job.failure? l := by
  cases l with
  | absent | failed reason | broken => rfl
  | found f =>
    rw [Lookup.map, failure?, failure?, process_unsealed]

theorem substitute?_unsealed (job : FetchJob) (n : UInt64) :
    (job.substitute? n).map FullBlock.unsealed =
      (job.pending.map FullBlock.unsealed).filter fun b => b.number = n := by
  rw [Option.filter_map]
  rfl

/-- A lookup over chains that are alike finds the same, but for the hash of the pending block. -/
theorem lookUp_alike (alike : v.Alike w)
    (hp : job.pending.map FullBlock.unsealed = pending.map FullBlock.unsealed) (n : UInt64) :
    ({ job with pending }.lookUp w n).map Findings.unsealed =
      (job.lookUp v n).map Findings.unsealed := by
  have hsub : ({ job with pending }.substitute? n).map FullBlock.unsealed =
      (job.substitute? n).map FullBlock.unsealed := by
    rw [substitute?_unsealed, substitute?_unsealed, hp]
  unfold lookUp
  cases hv : job.substitute? n with
  | some b =>
    rw [hv] at hsub
    obtain ⟨b', hb', hunsealed⟩ := Option.map_eq_some_iff.1 hsub
    rw [hb']
    show Lookup.found b'.unsealed.findings = .found b.unsealed.findings
    rw [hunsealed]
  | none =>
    rw [hv, Option.map_none, Option.map_eq_none_iff] at hsub
    simp only [hsub]
    rw [← alike.header n, ← alike.block n]
    split
    · rfl
    · cases hblock : v (.block (.number n)) with
      | absent | failed reason | broken => rfl
      | found block => simp only [alike.receipts hblock]

theorem map_found_alike {numbers : List UInt64} (alike : v.Alike w)
    (hp : job.pending.map FullBlock.unsealed = pending.map FullBlock.unsealed) :
    ({ job with pending }.found (fun _ => w) numbers).map Findings.unsealed =
      (job.found (fun _ => v) numbers).map Findings.unsealed := by
  induction numbers with
  | nil => rfl
  | cons n rest ih =>
    have hlookup := lookUp_alike alike hp n
    rw [found, found]
    cases hl : job.lookUp v n with
    | found f =>
      cases hl' : { job with pending }.lookUp w n with
      | found f' =>
        rw [hl, hl'] at hlookup
        simp only [List.map_cons, Lookup.found.inj hlookup, ih]
      | absent | failed reason | broken =>
        rw [hl, hl'] at hlookup
        cases hlookup
    | absent | failed reason | broken =>
      cases hl' : { job with pending }.lookUp w n with
      | found f' =>
        rw [hl, hl'] at hlookup
        cases hlookup
      | absent | failed reason | broken => rfl

theorem mapM_process_unsealed (job : FetchJob) (found : List Findings) :
    (found.map Findings.unsealed).mapM job.process = found.mapM job.process := by
  have hprocess : job.process ∘ Findings.unsealed = job.process :=
    funext fun f => job.process_unsealed f
  rw [List.mapM_map, hprocess]

theorem reference_alike (alike : v.Alike w)
    (hp : job.pending.map FullBlock.unsealed = pending.map FullBlock.unsealed) :
    ({ job with pending }.reference fun _ => w) = job.reference fun _ => v := by
  rw [reference, reference, ← mapM_process_unsealed, ← mapM_process_unsealed job,
    map_found_alike alike hp]
  rfl

theorem firstFault?_alike (alike : v.Alike w)
    (hp : job.pending.map FullBlock.unsealed = pending.map FullBlock.unsealed) :
    ({ job with pending }.firstFault? fun _ => w) = job.firstFault? fun _ => v := by
  have hfault : ({ job with pending }.fault? fun _ => w) = job.fault? fun _ => v := by
    funext n
    rw [fault?_eq, fault?_eq, ← failure?_unsealed, ← failure?_unsealed job,
      lookUp_alike alike hp]
    rfl
  rw [firstFault?, firstFault?, hfault]
  rfl

theorem verdict_alike (alike : v.Alike w)
    (hp : job.pending.map FullBlock.unsealed = pending.map FullBlock.unsealed) :
    ({ job with pending }.verdict fun _ => w) = job.verdict fun _ => v := by
  rw [verdict, verdict, firstFault?_alike alike hp, reference_alike alike hp]

end FetchJob

/-! ## Queries -/

namespace Window

theorem unsealed_ending (pending : Option FullBlock) (last count : UInt64) :
    (ending pending last count).unsealed =
      ending (pending.map FullBlock.unsealed) last count := by
  unfold ending
  split <;> rfl

theorem outcome_resolve_alike {v w : View} (alike : v.Alike w) (selector : Selector)
    (count : UInt64) :
    ((resolve selector count).outcome w).map unsealed =
      ((resolve selector count).outcome v).map unsealed := by
  rw [outcome_resolve, outcome_resolve, ← alike.head]
  cases v (.header .latest) with
  | absent | failed reason | broken => rfl
  | found head =>
    cases selector with
    | number requested | latest => rfl
    | finalized => rw [← alike.finalized]
    | pending =>
      have hp := alike.pending
      cases hv : v .pending with
      | none =>
        rw [hv, Option.map_none, eq_comm, Option.map_eq_none_iff] at hp
        rw [hp]
      | some b =>
        rw [hv, Option.map_some, eq_comm, Option.map_eq_some_iff] at hp
        obtain ⟨b', hb', hunsealed⟩ := hp
        have hnumber : b'.number = b.number := by
          rw [← b'.number_unsealed, hunsealed, b.number_unsealed]
        simp only [hb', Except.map, unsealed_ending, Option.map_some, hunsealed, hnumber]

end Window

namespace Oracle

variable {v w : View}

theorem outcome_plan_alike (o : Oracle) (count : UInt64) (last : Selector)
    (percentiles : List Float) (alike : v.Alike w) :
    ((o.plan count last percentiles).outcome w).map Window.unsealed =
      ((o.plan count last percentiles).outcome v).map Window.unsealed := by
  rw [outcome_plan, outcome_plan]
  split
  · rfl
  · cases Percentile.check o.limits.maxPercentiles.toNat percentiles with
    | error e => rfl
    | ok u => exact Window.outcome_resolve_alike alike last _

/-- Over chains that are alike a query is stopped by the same, or has windows that differ at most in
the hash of the pending block. -/
theorem plan_alike_cases (o : Oracle) (count : UInt64) (last : Selector) (percentiles : List Float)
    (alike : v.Alike w) :
    (∃ stop, (o.plan count last percentiles).outcome v = .error stop ∧
      (o.plan count last percentiles).outcome w = .error stop) ∨
    ∃ window pending, (o.plan count last percentiles).outcome v = .ok window ∧
      (o.plan count last percentiles).outcome w = .ok { window with pending } ∧
      window.pending.map FullBlock.unsealed = pending.map FullBlock.unsealed := by
  have hplan := o.outcome_plan_alike count last percentiles alike
  cases hv : (o.plan count last percentiles).outcome v with
  | error stop =>
    cases hw : (o.plan count last percentiles).outcome w with
    | error stop' =>
      rw [hv, hw] at hplan
      exact .inl ⟨stop, rfl, congrArg Except.error (Except.error.inj hplan)⟩
    | ok window =>
      rw [hv, hw] at hplan
      cases hplan
  | ok window =>
    cases hw : (o.plan count last percentiles).outcome w with
    | error stop =>
      rw [hv, hw] at hplan
      cases hplan
    | ok window' =>
      rw [hv, hw] at hplan
      obtain ⟨hpending, hlast, hcount⟩ := Window.mk.inj (Except.ok.inj hplan)
      refine .inr ⟨window, window'.pending, rfl, ?_, hpending.symm⟩
      rw [← hlast, ← hcount]

end Oracle

/-- **Alike, the same outcome.** -/
theorem View.Alike.comesTo {v w : View} (alike : v.Alike w)
    (soundv : ∀ c, ¬ (Reply.status c (v c)).Fails) (soundw : ∀ c, ¬ (Reply.status c (w c)).Fails)
    {o : Oracle} {count : UInt64} {last : Selector} {percentiles : List Float}
    (roomy : ∀ window, (o.plan count last percentiles).outcome v = .ok window →
      window.isEmpty = false → window.last.toNat + o.workers window < UInt64.size ∧
        window.count.toNat ≤ maxQueueLength) :
    ∃ outcome, o.ComesTo v count last percentiles outcome ∧
      o.ComesTo w count last percentiles outcome := by
  rcases o.plan_alike_cases count last percentiles alike with
    ⟨stop, hv, hw⟩ | ⟨window, pending, hv, hw, hpending⟩
  · exact ⟨_, Oracle.comesTo_of_stop hv, Oracle.comesTo_of_stop hw⟩
  · cases hempty : window.isEmpty with
    | true => exact ⟨_, Oracle.comesTo_empty hv hempty, Oracle.comesTo_empty hw hempty⟩
    | false =>
      obtain ⟨room, fits⟩ := roomy window hv hempty
      refine ⟨_, Oracle.comesTo_verdict hv hempty room fits soundv, ?_⟩
      -- The two jobs differ in the pending block alone.
      rw [← FetchJob.verdict_alike alike hpending]
      exact Oracle.comesTo_verdict hw hempty room fits soundw

end FeeMarket
