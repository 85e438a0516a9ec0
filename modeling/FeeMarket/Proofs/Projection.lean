import FeeMarket.Proofs.Chain.History
import FeeMarket.Proofs.HeaderChain

/-!
# The projected base fee is the one that will be accepted

Theorem (`projection_eq_declared`). Over a chain whose headers follow each other by the rules of the
fee market, a history that ends below the head projects the base fee that the next block declares.
So it is the base fee that every other history shows for that block.

The projection asks whether the fork lies behind the *next* block, the base fee rule whether it lies
behind the last one. Where they differ the next block is the first of the fee market: the rule
starts it from the initial base fee, and so does the projection.
-/

namespace FeeMarket

namespace MemoryChain

/-- The headers follow each other by the rules of the fee market: none declares a base fee before
the fork, and each one from the fork on may follow the one before it. -/
structure FollowsRules (config : ChainConfig) (c : MemoryChain) : Prop where
  undeclared : ∀ b ∈ c.blocks, config.active b.number = false → b.block.header.baseFee = none
  accepted : ∀ {i : Nat} {parent child}, c.blocks[i]? = some parent →
    c.blocks[i + 1]? = some child → config.active child.number = true →
      verifyHeader config parent.block.header child.block.header = .ok (.ok ())

variable {config : ChainConfig} {c : MemoryChain}

/-- What a block projects is what the next one declares. -/
theorem FollowsRules.projected (hr : c.FollowsRules config) (hc : c.Coherent)
    (valid : config.Valid) {i : Nat} {parent child : FullBlock} {fee : Wei}
    (hparent : c.blocks[i]? = some parent) (hchild : c.blocks[i + 1]? = some child)
    (hfee : projectedBaseFee config parent.block.header = .ok fee) :
    fee = child.block.header.baseFeeOrZero := by
  have hnext : Word.addUpTo parent.block.header.number 1 = child.number := by
    have hp : parent.block.header.number.toNat = i := hc.numbered hparent
    have hn := hc.numbered hchild
    have hlt := child.number.toNat_lt
    apply UInt64.toNat_inj.1
    rw [Word.addUpTo, Word.toNat_saturate, hp, hn, UInt64.toNat_one]
    simp only [UInt64.size]
    omega
  rw [projectedBaseFee, hnext] at hfee
  cases hactive : config.active child.number with
  | true =>
    rw [hactive, if_pos rfl] at hfee
    obtain ⟨want, hwant, hdeclared⟩ :=
      baseFee_of_accepted valid (hr.accepted hparent hchild hactive)
    obtain rfl := Except.ok.inj (hwant.symm.trans hfee)
    rw [Header.baseFeeOrZero, hdeclared, Option.getD_some]
  | false =>
    rw [hactive, if_neg (by decide)] at hfee
    obtain rfl := Except.ok.inj hfee
    have hnone := hr.undeclared child (Array.mem_of_getElem? hchild) hactive
    rw [Header.baseFeeOrZero, hnone, Option.getD_none]

end MemoryChain

open MemoryChain

/-- **The projection is what the next block declares.** A query for at least one block, of an
oracle that serves at least one, has an answer. -/
theorem projection_eq_declared {o : Oracle} {c : MemoryChain} {n count : UInt64}
    {percentiles : List Float} (reachable : c.Reachable) (metered : c.Metered)
    (rules : c.FollowsRules o.chain) (below : n.toNat + 1 < c.blocks.size)
    (counted : count ≠ 0) (served : o.longestWindow percentiles ≠ 0)
    (checked : Percentile.check o.limits.maxPercentiles.toNat percentiles = .ok ()) :
    ∃ child history, c.blocks[n.toNat + 1]? = some child ∧
      o.Answers c.view count (.number n) percentiles history ∧
      history.baseFeePerGas.getLast? = some child.block.header.baseFeeOrZero ∧
      ∀ {o' : Oracle} {count' last' percentiles' window'},
        (o'.plan count' last' percentiles').outcome c.view = .ok window' →
        window'.isEmpty = false → window'.pending = none →
        window'.first ≤ n.toNat + 1 → n.toNat + 1 ≤ window'.last.toNat →
          ∃ history', o'.Answers c.view count' last' percentiles' history' ∧
            history'.baseFeePerGas[n.toNat + 1 - window'.first]? =
              some child.block.header.baseFeeOrZero := by
  have hc := reachable.coherent
  obtain ⟨child, hchild⟩ : ∃ child, c.blocks[n.toNat + 1]? = some child :=
    ⟨_, Array.getElem?_eq_getElem below⟩
  obtain ⟨window, planned, nonempty, hlast, hp⟩ :=
    hc.plan_number (n := n) (by omega) counted served checked
  obtain ⟨parent, hparent, -⟩ := hc.exists_block (n := n) (by omega)
  obtain ⟨fees, hanswers, hlength, hentries⟩ :=
    hc.exists_history metered planned nonempty hp
  refine ⟨child, _, hchild, hanswers, ?_, ?_⟩
  · have hpos := Window.count_pos nonempty
    have hcount := Oracle.count_le_of_plan planned
    have hfirst : window.first = n.toNat + 1 - window.count.toNat := by rw [Window.first, hlast]
    rw [hlast] at hcount
    obtain ⟨x, hx, -, hnext⟩ := hentries hparent (by omega) (by rw [hlast]; exact UInt64.le_refl n)
    have hend : fees.getLast? = some x := by
      rw [List.getLast?_eq_getElem?, hlength, ← hx]
      congr 1
      omega
    rw [FeeHistory.getLast?_baseFeePerGas _ hend,
      rules.projected hc o.chain_valid hparent hchild hnext]
  · intro o' count' last' percentiles' window' planned' nonempty' hp' hfirst' hlast'
    obtain ⟨fees', hanswers', -, hentries'⟩ :=
      hc.exists_history metered planned' nonempty' hp'
    refine ⟨_, hanswers', ?_⟩
    have hnumber := hc.numbered hchild
    have hget : c.get? child.number = some child := by rw [get?, hnumber, hchild]
    obtain ⟨x, hx, hbase, -⟩ := hentries' hget (by omega)
      (UInt64.le_iff_toNat_le.2 (by omega))
    rw [hnumber] at hx
    rw [FeeHistory.getElem?_baseFeePerGas _ hx, hbase]

/-- An oracle whose fee market starts with block 1. -/
def forkAtOne : Oracle :=
  { Oracle.standard with chain := { forkBlock := some 1 }, chain_valid := ⟨by decide, by decide⟩ }

/-- The last block before the fork. -/
def beforeFork : FullBlock := ⟨⟨⟨0, 0, 30000000, 15000000, none⟩, []⟩, []⟩

/-- The first block of the fee market. -/
def afterFork : FullBlock := ⟨⟨⟨1, 0, 60000000, 0, some initialBaseFee⟩, []⟩, []⟩

/-- The chain of these two blocks. -/
def acrossFork : MemoryChain := ⟨#[beforeFork, afterFork], none, none⟩

/-- A history that ends right before the fork projects the initial base fee, which the block after
the fork declares. -/
theorem projection_before_fork :
    acrossFork.Reachable ∧ acrossFork.Metered ∧ acrossFork.FollowsRules forkAtOne.chain ∧
    ∃ history, forkAtOne.Answers acrossFork.view 1 (.number 0) [] history ∧
      history.baseFeePerGas.getLast? = some initialBaseFee := by
  have first : Reachable ⟨#[beforeFork], none, none⟩ :=
    .push .empty (by decide) (b := beforeFork) rfl
  have reachable : acrossFork.Reachable := .push first (by decide) (b := afterFork) rfl
  have blocks {b : FullBlock} (hb : b ∈ acrossFork.blocks) : b = beforeFork ∨ b = afterFork := by
    simpa [acrossFork] using hb
  have metered : acrossFork.Metered := by
    rintro b (hb | hb)
    · rcases blocks hb with rfl | rfl <;> decide
    · cases hb
  have rules : acrossFork.FollowsRules forkAtOne.chain := by
    refine ⟨?_, ?_⟩
    · intro b hb hactive
      rcases blocks hb with rfl | rfl
      · rfl
      · cases hactive
    · intro i parent child hparent hchild _
      rcases i with _ | i
      · cases hparent
        cases hchild
        rfl
      · simp [acrossFork] at hchild
  obtain ⟨child, history, hchild, hanswers, hend, -⟩ :=
    @projection_eq_declared forkAtOne acrossFork 0 1 [] reachable metered rules (by decide)
      (by decide) (by decide) rfl
  cases hchild
  exact ⟨reachable, metered, rules, history, hanswers, hend⟩

end FeeMarket
