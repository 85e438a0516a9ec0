import FeeMarket.Proofs.Chain.Node
import FeeMarket.Proofs.Quantity
import FeeMarket.Proofs.Sequence

/-!
# Exact conversion of what a node describes

A node counts in 256 bits, and a reader in words.

**Fits.** What has to hold of a description for it to convert: nothing is missing, and every amount
of gas is a word. **Carries.** What a converted item has of its description: the same hashes and the
same numbers, in lists of the same length and order. **Defect.** What keeps a description from
converting, with the error that says so.

**Exact** (`Exact`). A conversion gives just the item that carries the description, and gives one just
if the description fits; and if it fails, then by a defect. The conversion of a list is exact if that
of its items is (`Exact.list`), so one defect at any place fails all of it.

The conversions of blocks and of receipts are exact (`conversions_exact`), and so is what a chain
behind a node replies (`Node.lookup_of_exact`).
-/

namespace FeeMarket

/-! ## Exact conversions -/

/-- The conversion gives what carries a description, just if it fits, and fails by a defect. -/
structure Exact {α β : Type} (convert : α → Except NodeError β) (Fits : α → Prop)
    (Carries : α → β → Prop) (Defect : α → NodeError → Prop) : Prop where
  eq_ok_iff : ∀ {a b}, convert a = .ok b ↔ Carries a b
  exists_iff : ∀ {a}, (∃ b, convert a = .ok b) ↔ Fits a
  defect_of_error : ∀ {a e}, convert a = .error e → Defect a e
  not_fits_of_defect : ∀ {a e}, Defect a e → ¬ Fits a

namespace Exact

variable {α β : Type} {convert : α → Except NodeError β} {Fits : α → Prop}
  {Carries : α → β → Prop} {Defect : α → NodeError → Prop}

/-- A description fits if something carries it, and if no defect keeps it from converting. -/
theorem of_carries (eq_ok_iff : ∀ {a b}, convert a = .ok b ↔ Carries a b)
    (fits_of_carries : ∀ {a b}, Carries a b → Fits a)
    (defect_of_error : ∀ {a e}, convert a = .error e → Defect a e)
    (not_fits_of_defect : ∀ {a e}, Defect a e → ¬ Fits a) : Exact convert Fits Carries Defect where
  eq_ok_iff := eq_ok_iff
  exists_iff := by
    intro a
    constructor
    · rintro ⟨b, hb⟩
      exact fits_of_carries (eq_ok_iff.1 hb)
    · intro fits
      cases h : convert a with
      | ok b => exact ⟨b, rfl⟩
      | error e => exact absurd fits (not_fits_of_defect (defect_of_error h))
  defect_of_error := defect_of_error
  not_fits_of_defect := not_fits_of_defect

theorem exists_error (exact : Exact convert Fits Carries Defect) {a : α} {e : NodeError}
    (defect : Defect a e) : ∃ e', convert a = .error e' ∧ Defect a e' := by
  cases h : convert a with
  | error e' => exact ⟨e', rfl, exact.defect_of_error h⟩
  | ok b => exact absurd (exact.exists_iff.1 ⟨b, h⟩) (exact.not_fits_of_defect defect)

theorem list (exact : Exact convert Fits Carries Defect) :
    Exact (fun as : List α => as.mapM convert) (fun as => ∀ a ∈ as, Fits a)
      (List.Forall₂ Carries) (fun as e => ∃ a ∈ as, Defect a e) where
  eq_ok_iff := by
    intro as bs
    simp only [mapM_eq_ok_iff, exact.eq_ok_iff]
  exists_iff := by
    intro as
    simp only [exists_mapM_iff, exact.exists_iff]
  defect_of_error := by
    intro as e h
    obtain ⟨a, ha, hfails⟩ := exists_of_mapM_eq_error h
    exact ⟨a, ha, exact.defect_of_error hfails⟩
  not_fits_of_defect := by
    rintro as e ⟨a, ha, defect⟩ fits
    exact exact.not_fits_of_defect defect (fits a ha)

end Exact

/-! ## Amounts of gas -/

/-- An amount of gas converts to the same number, or is too large for a word. -/
theorem Wei.toWord_exact (field : String) :
    Exact (Wei.toWord field) (fun w => w.toNat < UInt64.size) (fun w n => n.toNat = w.toNat)
      (fun w e => UInt64.size ≤ w.toNat ∧ e = .oversized field w) := by
  apply Exact.of_carries
  case eq_ok_iff =>
    intro w n
    unfold toWord
    cases hw : Word.ofNat? w.toNat with
    | some word => rw [Word.ofNat?_eq_some.1 hw, Except.ok.injEq, UInt64.toNat_inj, eq_comm]
    | none =>
      refine iff_of_false nofun fun h => ?_
      cases hw.symm.trans (Word.ofNat?_eq_some.2 h.symm)
  case fits_of_carries =>
    intro w n h
    rw [← h]
    exact n.toNat_lt
  case defect_of_error =>
    intro w e h
    unfold toWord Word.ofNat? at h
    by_cases hw : w.toNat < UInt64.size
    · simp [hw] at h
    · rw [if_neg hw] at h
      cases h
      exact ⟨Nat.le_of_not_lt hw, rfl⟩
  case not_fits_of_defect =>
    rintro w e ⟨hw, -⟩
    exact Nat.not_lt_of_le hw

/-! ## Transactions -/

namespace NodeTransaction

def Fits (t : NodeTransaction) : Prop := t.gas.toNat < UInt64.size

structure Carries (t : NodeTransaction) (c : Transaction) : Prop where
  hash : c.hash = t.hash
  gas : c.gas.toNat = t.gas.toNat

inductive Defect (t : NodeTransaction) : NodeError → Prop
  | gas : UInt64.size ≤ t.gas.toNat → Defect t (.oversized "transaction gas" t.gas)

theorem toTransaction_exact : Exact toTransaction Fits Carries Defect := by
  have gas := Wei.toWord_exact "transaction gas"
  apply Exact.of_carries
  case eq_ok_iff =>
    intro t c
    rw [toTransaction, bind_eq_ok]
    simp only [gas.eq_ok_iff]
    constructor
    · rintro ⟨n, hn, ⟨⟩⟩
      exact ⟨rfl, hn⟩
    · rintro ⟨hhash, hgas⟩
      exact ⟨c.gas, hgas, by rw [← hhash]; rfl⟩
  case fits_of_carries =>
    intro t c carries
    rw [Fits, ← carries.gas]
    exact c.gas.toNat_lt
  case defect_of_error =>
    intro t e h
    rcases bind_eq_error.1 h with h | ⟨n, -, ⟨⟩⟩
    obtain ⟨hlarge, rfl⟩ := gas.defect_of_error h
    exact .gas hlarge
  case not_fits_of_defect =>
    rintro t e ⟨hlarge⟩
    exact Nat.not_lt_of_le hlarge

end NodeTransaction

/-! ## Headers and blocks -/

namespace NodeBlock

section Headers

variable {τ : Type}

/-- A block has a number, and its gas limit and gas used are words. -/
structure HeaderFits (b : NodeBlock τ) : Prop where
  number : b.number.isSome
  gasLimit : b.gasLimit.toNat < UInt64.size
  gasUsed : b.gasUsed.toNat < UInt64.size

/-- A base fee may be any amount, or be absent. -/
structure HeaderCarries (b : NodeBlock τ) (h : Header) : Prop where
  number : b.number = some h.number
  /-- Zero stands for a hash that is missing. -/
  hash : h.hash = b.hash.getD 0
  gasLimit : h.gasLimit.toNat = b.gasLimit.toNat
  gasUsed : h.gasUsed.toNat = b.gasUsed.toNat
  baseFee : h.baseFee = b.baseFee

inductive HeaderDefect (b : NodeBlock τ) : NodeError → Prop
  | number : b.number = none → HeaderDefect b .missingNumber
  | gasLimit : UInt64.size ≤ b.gasLimit.toNat → HeaderDefect b (.oversized "gas limit" b.gasLimit)
  | gasUsed : UInt64.size ≤ b.gasUsed.toNat → HeaderDefect b (.oversized "gas used" b.gasUsed)

theorem toHeader_exact :
    Exact (toHeader : NodeBlock τ → _) HeaderFits HeaderCarries HeaderDefect := by
  have limit := Wei.toWord_exact "gas limit"
  have used := Wei.toWord_exact "gas used"
  apply Exact.of_carries
  case eq_ok_iff =>
    intro b h
    unfold toHeader
    cases hnumber : b.number with
    | none => exact iff_of_false nofun fun carries => nomatch hnumber.symm.trans carries.number
    | some number =>
      simp only [bind_eq_ok, limit.eq_ok_iff, used.eq_ok_iff]
      constructor
      · rintro ⟨gasLimit, hlimit, gasUsed, hused, ⟨⟩⟩
        exact ⟨hnumber, rfl, hlimit, hused, rfl⟩
      · rintro ⟨hnumber', hhash, hlimit, hused, hfee⟩
        cases hnumber.symm.trans hnumber'
        exact ⟨h.gasLimit, hlimit, h.gasUsed, hused, by rw [← hhash, ← hfee]; rfl⟩
  case fits_of_carries =>
    intro b h carries
    refine ⟨by simp [carries.number], ?_, ?_⟩
    · rw [← carries.gasLimit]
      exact h.gasLimit.toNat_lt
    · rw [← carries.gasUsed]
      exact h.gasUsed.toNat_lt
  case defect_of_error =>
    intro b e h
    unfold toHeader at h
    cases hnumber : b.number with
    | none =>
      rw [hnumber] at h
      cases h
      exact .number hnumber
    | some number =>
      rw [hnumber] at h
      rcases bind_eq_error.1 h with h | ⟨gasLimit, -, h⟩
      · obtain ⟨hlarge, rfl⟩ := limit.defect_of_error h
        exact .gasLimit hlarge
      rcases bind_eq_error.1 h with h | ⟨gasUsed, -, ⟨⟩⟩
      obtain ⟨hlarge, rfl⟩ := used.defect_of_error h
      exact .gasUsed hlarge
  case not_fits_of_defect =>
    intro b e defect fits
    cases defect with
    | number hnumber => simpa [hnumber] using fits.number
    | gasLimit hlarge => exact Nat.not_lt_of_le hlarge fits.gasLimit
    | gasUsed hlarge => exact Nat.not_lt_of_le hlarge fits.gasUsed

end Headers

structure Fits (b : NodeBlock NodeTransaction) : Prop extends HeaderFits b where
  transactions : ∀ t ∈ b.transactions, t.Fits

structure Carries (b : NodeBlock NodeTransaction) (c : Block) : Prop where
  header : b.HeaderCarries c.header
  transactions : List.Forall₂ NodeTransaction.Carries b.transactions c.transactions

inductive Defect (b : NodeBlock NodeTransaction) : NodeError → Prop
  | header {e} : b.HeaderDefect e → Defect b e
  | transaction {t e} : t ∈ b.transactions → t.Defect e → Defect b e

theorem toBlock_eq_ok_iff {b : NodeBlock NodeTransaction} {c : Block} :
    b.toBlock = .ok c ↔ b.toHeader = .ok c.header ∧
      b.transactions.mapM NodeTransaction.toTransaction = .ok c.transactions := by
  rw [toBlock, bind_eq_ok]
  simp only [bind_eq_ok]
  constructor
  · rintro ⟨h, hheader, ts, htransactions, ⟨⟩⟩
    exact ⟨hheader, htransactions⟩
  · rintro ⟨hheader, htransactions⟩
    exact ⟨c.header, hheader, c.transactions, htransactions, rfl⟩

theorem toBlock_exact : Exact toBlock Fits Carries Defect := by
  have transactions := NodeTransaction.toTransaction_exact.list
  constructor
  case eq_ok_iff =>
    intro b c
    rw [toBlock_eq_ok_iff, toHeader_exact.eq_ok_iff, transactions.eq_ok_iff]
    exact ⟨fun ⟨hheader, hts⟩ => ⟨hheader, hts⟩, fun ⟨hheader, hts⟩ => ⟨hheader, hts⟩⟩
  case exists_iff =>
    intro b
    simp only [toBlock_eq_ok_iff]
    constructor
    · rintro ⟨c, hheader, hts⟩
      exact ⟨toHeader_exact.exists_iff.1 ⟨_, hheader⟩, transactions.exists_iff.1 ⟨_, hts⟩⟩
    · rintro ⟨hheader, hts⟩
      obtain ⟨h, hheader⟩ := toHeader_exact.exists_iff.2 hheader
      obtain ⟨ts, hts⟩ := transactions.exists_iff.2 hts
      exact ⟨⟨h, ts⟩, hheader, hts⟩
  case defect_of_error =>
    intro b e h
    rcases bind_eq_error.1 h with h | ⟨_, -, h⟩
    · exact .header (toHeader_exact.defect_of_error h)
    rcases bind_eq_error.1 h with h | ⟨_, -, ⟨⟩⟩
    obtain ⟨t, ht, defect⟩ := transactions.defect_of_error h
    exact .transaction ht defect
  case not_fits_of_defect =>
    intro b e defect fits
    cases defect with
    | header defect => exact toHeader_exact.not_fits_of_defect defect fits.toHeaderFits
    | transaction ht defect =>
      exact NodeTransaction.toTransaction_exact.not_fits_of_defect defect (fits.transactions _ ht)

/-- The block as a node describes it when it lists the hashes of the transactions only. -/
def listed (b : NodeBlock NodeTransaction) : NodeBlock Hash :=
  { b with transactions := b.transactions.map NodeTransaction.hash }

theorem toHeader_listed (b : NodeBlock NodeTransaction) : b.listed.toHeader = b.toHeader := rfl

end NodeBlock

/-! ## Receipts -/

namespace NodeReceipt

def Fits (r : NodeReceipt) : Prop := ∃ w, r.gasUsed = some w ∧ w.toNat < UInt64.size

structure Carries (r : NodeReceipt) (c : Receipt) : Prop where
  transactionHash : c.transactionHash = r.transactionHash
  gasUsed : ∃ w, r.gasUsed = some w ∧ c.gasUsed.toNat = w.toNat

inductive Defect (r : NodeReceipt) : NodeError → Prop
  | missing : r.gasUsed = none → Defect r .missingGasUsed
  | oversized {w} : r.gasUsed = some w → UInt64.size ≤ w.toNat →
      Defect r (.oversized "receipt gas used" w)

theorem toReceipt_exact : Exact toReceipt Fits Carries Defect := by
  have used := Wei.toWord_exact "receipt gas used"
  apply Exact.of_carries
  case eq_ok_iff =>
    intro r c
    unfold toReceipt
    cases hgas : r.gasUsed with
    | none =>
      refine iff_of_false nofun fun carries => ?_
      obtain ⟨w, hw, -⟩ := carries.gasUsed
      cases hgas.symm.trans hw
    | some w =>
      simp only [bind_eq_ok, used.eq_ok_iff]
      constructor
      · rintro ⟨n, hn, ⟨⟩⟩
        exact ⟨rfl, w, hgas, hn⟩
      · rintro ⟨hhash, w', hw', hused⟩
        cases hgas.symm.trans hw'
        exact ⟨c.gasUsed, hused, by rw [← hhash]; rfl⟩
  case fits_of_carries =>
    intro r c carries
    obtain ⟨w, hw, hused⟩ := carries.gasUsed
    refine ⟨w, hw, ?_⟩
    rw [← hused]
    exact c.gasUsed.toNat_lt
  case defect_of_error =>
    intro r e h
    unfold toReceipt at h
    cases hgas : r.gasUsed with
    | none =>
      rw [hgas] at h
      cases h
      exact .missing hgas
    | some w =>
      rw [hgas] at h
      rcases bind_eq_error.1 h with h | ⟨n, -, ⟨⟩⟩
      obtain ⟨hlarge, rfl⟩ := used.defect_of_error h
      exact .oversized hgas hlarge
  case not_fits_of_defect =>
    rintro r e defect ⟨w, hw, hfits⟩
    cases defect with
    | missing hgas => cases hgas.symm.trans hw
    | oversized hgas hlarge =>
      cases hgas.symm.trans hw
      exact Nat.not_lt_of_le hlarge hfits

theorem toReceipts_exact : Exact toReceipts (fun rs => ∀ r ∈ rs, r.Fits) (List.Forall₂ Carries)
    (fun rs e => ∃ r ∈ rs, r.Defect e) := toReceipt_exact.list

end NodeReceipt

/-! ## What a chain behind a node replies -/

namespace Node

section

variable {α β : Type} {decode : Json → Decoded α} {convert : α → Except NodeError β}
  {Fits : α → Prop} {Carries : α → β → Prop} {Defect : α → NodeError → Prop}
  {endpoint : Endpoint} {request : NodeRequest} {v : Json} {a : α}

/-- If what a node describes does not fit, the lookup fails and says why. -/
theorem lookup_of_exact (exact : Exact convert Fits Carries Defect)
    (hreply : endpoint request = .result v) (hv : Decode.nullable decode v = .ok (some a)) :
    (∀ b, Lookup.ofNode (Id.run (fetch (fun r => pure (endpoint r)) request decode convert)) =
      .found b ↔ Carries a b) ∧
    (¬ Fits a → ∃ e, Defect a e ∧
      Lookup.ofNode (Id.run (fetch (fun r => pure (endpoint r)) request decode convert)) =
        .failed e.message) := by
  rw [fetch_of_result hreply hv]
  show (∀ b, Lookup.ofNode (convert a >>= fun b => pure (some b)) = .found b ↔ Carries a b) ∧
    (¬ Fits a → ∃ e, Defect a e ∧
      Lookup.ofNode (convert a >>= fun b => pure (some b)) = .failed e.message)
  cases ha : convert a with
  | ok b =>
    refine ⟨fun c => ?_, fun unfit => absurd (exact.exists_iff.1 ⟨b, ha⟩) unfit⟩
    rw [← exact.eq_ok_iff, ha, Except.ok.injEq]
    exact ⟨fun h => Lookup.found.inj h, fun h => congrArg Lookup.found h⟩
  | error e =>
    refine ⟨fun c => ?_, fun _ => ⟨e, exact.defect_of_error ha, rfl⟩⟩
    rw [← exact.eq_ok_iff, ha]
    exact iff_of_false nofun nofun

end

variable {endpoint : Endpoint} {v : Json}

theorem view_block_exact {selector : Selector} {b : NodeBlock NodeTransaction}
    (hreply : endpoint (.block selector true) = .result v)
    (hv : Decode.nullable (NodeBlock.decode NodeTransaction.decode) v = .ok (some b)) :
    (∀ c, view endpoint (.block selector) = .found c ↔ b.Carries c) ∧
    (¬ b.Fits → ∃ e, b.Defect e ∧ view endpoint (.block selector) = .failed e.message) :=
  lookup_of_exact NodeBlock.toBlock_exact hreply hv

theorem view_receipts_exact {hash : Hash} {rs : List NodeReceipt}
    (hreply : endpoint (.receipts hash) = .result v)
    (hv : Decode.nullable (Decode.list NodeReceipt.decode) v = .ok (some rs)) :
    (∀ cs, view endpoint (.receipts hash) = .found cs ↔
      List.Forall₂ NodeReceipt.Carries rs cs) ∧
    ((¬ ∀ r ∈ rs, r.Fits) → ∃ e, (∃ r ∈ rs, r.Defect e) ∧
      view endpoint (.receipts hash) = .failed e.message) :=
  lookup_of_exact NodeReceipt.toReceipts_exact hreply hv

end Node

/-- **Nothing is cut off.** A block converts just if it has a number and all its gas is in words, and
a list of receipts just if each receipt has its gas in a word. What converts has all hashes and
numbers as they were, in the order in which they were. One defect, wherever it is, fails all of the
conversion. The header of a block that converts is what its description alone converts to, also if it
lists the transactions by their hashes. -/
theorem conversions_exact :
    Exact NodeBlock.toBlock NodeBlock.Fits NodeBlock.Carries NodeBlock.Defect ∧
      Exact NodeReceipt.toReceipts (fun rs => ∀ r ∈ rs, r.Fits) (List.Forall₂ NodeReceipt.Carries)
        (fun rs e => ∃ r ∈ rs, r.Defect e) ∧
      ∀ (b : NodeBlock NodeTransaction) (c : Block), b.toBlock = .ok c →
        b.toHeader = .ok c.header ∧ b.listed.toHeader = .ok c.header := by
  refine ⟨NodeBlock.toBlock_exact, NodeReceipt.toReceipts_exact, ?_⟩
  intro b c h
  obtain ⟨hheader, -⟩ := NodeBlock.toBlock_eq_ok_iff.1 h
  exact ⟨hheader, b.toHeader_listed.trans hheader⟩

/-- A block without a hash, with the largest base fee; the gas of its second transaction is given. -/
def extremeBlock (gas : Wei) : NodeBlock NodeTransaction where
  number := some 17
  hash := none
  gasLimit := .ofWord 30000000
  gasUsed := .ofWord 42000
  baseFee := some ⟨Wei.top, by decide⟩
  transactions := [⟨.ofNat 1, .ofWord 50000⟩, ⟨.ofNat 2, gas⟩]

/-- The largest word converts, and one unit of gas more fails the block. -/
theorem conversions_exact_of_extremes :
    (∃ c, (extremeBlock ⟨UInt64.size - 1, by decide⟩).toBlock = .ok c ∧ c.hash = 0 ∧
      c.header.baseFee = some ⟨Wei.top, by decide⟩ ∧
      (extremeBlock ⟨UInt64.size - 1, by decide⟩).toHeader = .ok c.header) ∧
    ∃ e, (extremeBlock ⟨UInt64.size, by decide⟩).toBlock = .error e := by
  obtain ⟨blocks, -, headers⟩ := conversions_exact
  constructor
  · have hgas : ∀ t ∈ (extremeBlock ⟨UInt64.size - 1, by decide⟩).transactions, t.Fits := by
      unfold NodeTransaction.Fits
      decide
    obtain ⟨c, hc⟩ := blocks.exists_iff.2 ⟨⟨rfl, by decide, by decide⟩, hgas⟩
    have carries := blocks.eq_ok_iff.1 hc
    exact ⟨c, hc, carries.header.hash, carries.header.baseFee, (headers _ c hc).1⟩
  · have defect : (extremeBlock ⟨UInt64.size, by decide⟩).Defect
        (.oversized "transaction gas" ⟨UInt64.size, by decide⟩) :=
      .transaction (List.mem_cons_of_mem _ List.mem_cons_self) (.gas (Nat.le_refl _))
    obtain ⟨e, he, -⟩ := blocks.exists_error defect
    exact ⟨e, he⟩

end FeeMarket
