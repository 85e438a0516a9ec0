import FeeMarket.Proofs.Chain.History

/-!
# Headers and full blocks agree

A query without percentiles looks up headers, and one with percentiles looks up blocks and their
receipts; each has a longest window of its own. Over a chain that does not change, both resolve a
selector alike, and what is said of a block is the same but for the rewards. So of two queries with
the same selector the one with fewer blocks has the end of what the other one has
(`paths_agree`).
-/

namespace FeeMarket

namespace MemoryChain

variable {c : MemoryChain} {o : Oracle} {window₁ window₂ : Window} {fees₁ fees₂ : List ProcessedFees}

/-- Of two windows that end alike, the shorter one has the last entries of the longer one. -/
theorem Covers.market_eq_drop (h₁ : c.Covers o.chain window₁ fees₁)
    (h₂ : c.Covers o.chain window₂ fees₂) (hpending : window₁.pending = window₂.pending)
    (hlast : window₁.last = window₂.last)
    (standing : ∀ n ≤ window₁.last, ∃ b, c.standing window₁.pending n = some b)
    (hcount₂ : window₂.count.toNat ≤ window₂.last.toNat + 1)
    (hle : window₁.count.toNat ≤ window₂.count.toNat) :
    fees₁.map ProcessedFees.market =
      (fees₂.map ProcessedFees.market).drop (window₂.count.toNat - window₁.count.toNat) := by
  have hfirst₁ : window₁.first = window₁.last.toNat + 1 - window₁.count.toNat := rfl
  have hfirst₂ : window₂.first = window₂.last.toNat + 1 - window₂.count.toNat := rfl
  rw [← hlast] at hfirst₂ hcount₂
  apply List.ext_getElem?
  intro i
  rw [List.getElem?_drop]
  by_cases hi : i < window₁.count.toNat
  · -- Both entries are those of the number `n`.
    let n := UInt64.ofNat (window₁.first + i)
    have hn : n.toNat = window₁.first + i :=
      UInt64.toNat_ofNat_of_lt' (by have := window₁.last.toNat_lt; simp only [UInt64.size]; omega)
    have hle₁ : n ≤ window₁.last := UInt64.le_iff_toNat_le.2 (by omega)
    obtain ⟨b, hb⟩ := standing n hle₁
    obtain ⟨x₁, hx₁, hheader₁⟩ := h₁.entry hb (by omega) hle₁
    obtain ⟨x₂, hx₂, hheader₂⟩ := h₂.entry (hpending ▸ hb) (by omega) (hlast ▸ hle₁)
    have hmarket : x₁.market = x₂.market := Except.ok.inj (hheader₁.symm.trans hheader₂)
    have hplace₁ : n.toNat - window₁.first = i := by omega
    have hplace₂ : n.toNat - window₂.first =
        window₂.count.toNat - window₁.count.toNat + i := by omega
    rw [hplace₁] at hx₁
    rw [hplace₂] at hx₂
    rw [List.getElem?_map, List.getElem?_map, hx₁, hx₂, Option.map_some, Option.map_some, hmarket]
  · have hlength₁ := h₁.length
    have hlength₂ := h₂.length
    rw [List.getElem?_eq_none (by rw [List.length_map]; omega),
      List.getElem?_eq_none (by rw [List.length_map]; omega)]

/-- The entries of a window are, but for the rewards, the last ones of a window that may cover more
and ends alike. -/
theorem Coherent.market_suffix (hc : c.Coherent) {count n₁ n₂ last : UInt64} {selector : Selector}
    {percentiles : List Float} {pending : Option FullBlock}
    (planned : (o.plan count selector percentiles).outcome c.view =
      .ok (.ending pending last n₁))
    (h₁ : c.Covers o.chain (.ending pending last n₁) fees₁)
    (h₂ : c.Covers o.chain (.ending pending last n₂) fees₂) (hle : n₁ ≤ n₂) :
    fees₁.map ProcessedFees.market <:+ fees₂.map ProcessedFees.market := by
  cases hempty₁ : (Window.ending pending last n₁).isEmpty with
  | true =>
    have hzero : (Window.ending pending last n₁).count = 0 := by
      simpa [Window.isEmpty] using hempty₁
    have hnil : fees₁ = [] := by
      rw [← List.length_eq_zero_iff, h₁.length, hzero]
      rfl
    rw [hnil]
    exact List.nil_suffix
  | false =>
    have hcount : (Window.ending pending last n₁).count.toNat ≤
        (Window.ending pending last n₂).count.toNat := by
      rw [Window.count_ending, Window.count_ending, toNat_min, toNat_min]
      have := UInt64.le_iff_toNat_le.1 hle
      omega
    have hempty₂ : (Window.ending pending last n₂).isEmpty = false := by
      have hpos := Window.count_pos hempty₁
      have hne : (Window.ending pending last n₂).count ≠ 0 := by
        intro hzero
        rw [hzero, UInt64.toNat_zero] at hcount
        omega
      simpa [Window.isEmpty] using hne
    obtain ⟨hlast₁, hpending₁⟩ := Window.ending_of_nonempty hempty₁
    obtain ⟨hlast₂, hpending₂⟩ := Window.ending_of_nonempty hempty₂
    rw [h₁.market_eq_drop h₂ (hpending₁.trans hpending₂.symm) (hlast₁.trans hlast₂.symm)
      (fun n hn => hc.exists_standing planned hempty₁ hn) (Window.count_ending_le _ _ _) hcount]
    exact List.drop_suffix _ _

end MemoryChain

open MemoryChain

/-- **Headers and full blocks agree.** Two queries for the same selector are refused alike, or both
have an answer, and the narrower one has the end of what the wider one has. -/
theorem paths_agree {o : Oracle} {c : MemoryChain} {count₁ count₂ : UInt64} {last : Selector}
    {percentiles₁ percentiles₂ : List Float} (reachable : c.Reachable) (metered : c.Metered)
    (counted₁ : count₁ ≠ 0) (counted₂ : count₂ ≠ 0)
    (checked₁ : Percentile.check o.limits.maxPercentiles.toNat percentiles₁ = .ok ())
    (checked₂ : Percentile.check o.limits.maxPercentiles.toNat percentiles₂ = .ok ()) :
    (∃ e : FeeHistoryError, e.category = .range ∧
      o.Refuses c.view count₁ last percentiles₁ e ∧
      o.Refuses c.view count₂ last percentiles₂ e) ∨
    ∃ h₁ h₂, o.Answers c.view count₁ last percentiles₁ h₁ ∧
      o.Answers c.view count₂ last percentiles₂ h₂ ∧
      (o.width count₁ percentiles₁ ≤ o.width count₂ percentiles₂ → h₁.IsEndOf h₂) ∧
      (o.width count₁ percentiles₁ = o.width count₂ percentiles₂ → h₁.market = h₂.market) := by
  have hc := reachable.coherent
  have hplan₁ : (o.plan count₁ last percentiles₁).outcome c.view = _ :=
    o.outcome_plan_of_checked last counted₁ checked₁
  have hplan₂ : (o.plan count₂ last percentiles₂).outcome c.view = _ :=
    o.outcome_plan_of_checked last counted₂ checked₂
  rcases Window.resolve_uniform c.view_sound last with
    ⟨e, hrange, hrefused⟩ | ⟨pending, number, short, hends⟩
  · rw [hrefused] at hplan₁ hplan₂
    exact .inl ⟨e, hrange, Oracle.refuses_of_plan hplan₁, Oracle.refuses_of_plan hplan₂⟩
  · -- Both windows end alike, and only their counts differ.
    rw [hends] at hplan₁ hplan₂
    obtain ⟨fees₁, hcovers₁, hanswers₁⟩ := hc.exists_covers metered hplan₁
    obtain ⟨fees₂, hcovers₂, hanswers₂⟩ := hc.exists_covers metered hplan₂
    refine .inr ⟨_, _, hanswers₁, hanswers₂, ?_, ?_⟩
    · intro hle
      rw [← FeeHistory.market_isEndOf, FeeHistory.market_ofFees, FeeHistory.market_ofFees]
      apply FeeHistory.ofFees_isEndOf
      exact hc.market_suffix hplan₁ hcovers₁ hcovers₂ (Word.subDownTo_mono hle short)
    · intro heq
      rw [FeeHistory.market_ofFees, FeeHistory.market_ofFees]
      rw [heq] at hplan₁ hcovers₁ ⊢
      have hsuffix := hc.market_suffix hplan₁ hcovers₁ hcovers₂ (UInt64.le_refl _)
      have hlength : fees₁.length = fees₂.length := hcovers₁.length.trans hcovers₂.length.symm
      rw [hsuffix.eq_of_length (by simpa using hlength)]
      rfl

/-- A block with a transaction that uses all the gas that it declares. -/
def busy (number : UInt64) : FullBlock :=
  ⟨⟨⟨number, 0, 30000000, 21000, some initialBaseFee⟩, [⟨0, 21000⟩]⟩, [⟨0, 21000⟩]⟩

/-- A chain of one block, with a pending one. -/
def oneAndPending : MemoryChain := ⟨#[busy 0], some (busy 1), none⟩

/-- The rewards of the pending block, and both headers without rewards. -/
theorem paths_agree_on_pending :
    oneAndPending.Reachable ∧ oneAndPending.Metered ∧
      Percentile.check Oracle.standard.limits.maxPercentiles.toNat [50] = .ok () ∧
      ∃ h₁ h₂, Oracle.standard.Answers oneAndPending.view 1 .pending [50] h₁ ∧
        Oracle.standard.Answers oneAndPending.view 2 .pending [] h₂ ∧ h₁.IsEndOf h₂ := by
  have first : Reachable ⟨#[busy 0], none, none⟩ :=
    .push .empty (by decide) (b := busy 0) rfl
  have reachable : oneAndPending.Reachable := @Reachable.setPending _ _ (some (busy 1)) first rfl
  have metered : oneAndPending.Metered := by
    rintro b (hb | hb)
    · obtain rfl : b = busy 0 := by simpa [oneAndPending] using hb
      decide
    · cases hb
      decide
  have checked : Percentile.check Oracle.standard.limits.maxPercentiles.toNat [50] = .ok () := rfl
  refine ⟨reachable, metered, checked, ?_⟩
  rcases @paths_agree Oracle.standard oneAndPending 1 2 .pending [50] [] reachable metered
      (by decide) (by decide) checked rfl with ⟨e, -, -, hrefuses⟩ | ⟨h₁, h₂, ha₁, ha₂, hend, -⟩
  · have answered : ∃ h, (Oracle.standard.feeHistory 2 .pending []).outcome
        oneAndPending.view = .ok h := ⟨_, rfl⟩
    obtain ⟨h, hh⟩ := answered
    cases hh.symm.trans hrefuses.refused
  · exact ⟨h₁, h₂, ha₁, ha₂, hend (by decide)⟩

end FeeMarket
