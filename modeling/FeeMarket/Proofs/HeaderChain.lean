import FeeMarket.Consensus
import FeeMarket.Proofs.BaseFee
import FeeMarket.Proofs.Sequence
import Mathlib.Data.List.Chain

/-!
# The base fee rule and the acceptance of headers

**Child** (`Child`). A header that follows another by the base fee rule, for given gas; its hash
is free. **Descends** (`Descends`). A list of headers, each the child of the one before it.

Theorem (`recurrence_agrees_with_acceptance`). Whatever the gas, a header that was built by the rule
stands or falls with its gas limit: its base fee is never the reason against it. A header with
another base fee, or none, is refused for just that, unless its gas limit is refused first. So the
base fees of accepted headers are determined by their numbers and their gas.

Rule and acceptance both ask whether the fork lies behind the parent; `verifyHeader_eq` reads the
acceptance off the base fee that the rule wants.
-/

namespace FeeMarket

variable {config : ChainConfig} {parent child : Header} {gas : BlockGas}

/-- **Acceptance.** The verdict on a header, by the base fee that the rule wants of it. -/
theorem verifyHeader_eq {want : Wei} (hwant : nextBaseFee config parent = .ok want)
    (header : Header) :
    verifyHeader config parent header =
      .ok (match verifyGasLimit (config.referenceGasLimit parent) header.gasLimit with
        | .error e => .error e
        | .ok () =>
          match header.baseFee with
          | none => .error .missingBaseFee
          | some fee =>
            if fee = want then .ok ()
            else .error (.invalidBaseFee fee want parent.baseFeeOrZero parent.gasUsed)) := by
  unfold verifyHeader
  cases verifyGasLimit (config.referenceGasLimit parent) header.gasLimit with
  | error e => rfl
  | ok u =>
    cases header.baseFee with
    | none => rfl
    | some fee =>
      simp only [hwant]
      show (if fee = want then _ else _) = _
      split <;> rfl

/-- The gas limit is never held against the base fee. -/
theorem verifyGasLimit_ne (parentLimit limit : UInt64) :
    verifyGasLimit parentLimit limit ≠ .error .missingBaseFee ∧
      ∀ declared want parentFee used,
        verifyGasLimit parentLimit limit ≠
          .error (.invalidBaseFee declared want parentFee used) := by
  unfold verifyGasLimit
  constructor
  · simp only [ne_eq]
    split
    · simp
    · split <;> simp
  · intro declared want parentFee used
    simp only [ne_eq]
    split
    · simp
    · split <;> simp

/-- A header follows `parent` by the base fee rule. -/
def Child (config : ChainConfig) (parent : Header) (gas : BlockGas) (child : Header) : Prop :=
  childHeader config parent gas = .ok { child with hash := 0 }

namespace Child

theorem eq_ok (h : Child config parent gas child) :
    ∃ fee, nextBaseFee config parent = .ok fee ∧
      Word.add parent.number 1 = .ok child.number ∧ child.gasLimit = gas.limit ∧
      child.gasUsed = gas.used ∧ child.baseFee = some fee := by
  rw [Child, childHeader] at h
  obtain ⟨fee, hfee, h⟩ := bind_eq_ok.1 h
  obtain ⟨number, hnumber, h⟩ := bind_eq_ok.1 h
  obtain ⟨rfl, -, hlimit, hused, hbase⟩ := Header.mk.inj (Except.ok.inj h)
  exact ⟨fee, hfee, hnumber, hlimit.symm, hused.symm, hbase.symm⟩

theorem exists_of_room (valid : config.Valid) (gas : BlockGas)
    (room : parent.number.toNat + 1 < UInt64.size) :
    ∃ child, Child config parent gas child ∧
      child.number.toNat = parent.number.toNat + 1 := by
  obtain ⟨fee, hfee⟩ := nextBaseFee_total valid parent
  have hadd : Word.add parent.number 1 = .ok (parent.number + 1) := if_pos room
  refine ⟨⟨parent.number + 1, 0, gas.limit, gas.used, some fee⟩, ?_, ?_⟩
  · rw [Child, childHeader, hfee, hadd]
    rfl
  · exact (Word.add_eq_ok.1 hadd).symm

end Child

/-- Each header is the child of the one before it. -/
inductive Descends (config : ChainConfig) : Header → List BlockGas → List Header → Prop
  | nil (start) : Descends config start [] []
  | cons {parent gas child gases headers} : Child config parent gas child →
      Descends config child gases headers →
      Descends config parent (gas :: gases) (child :: headers)

namespace Descends

theorem exists_of_room (valid : config.Valid) (gases : List BlockGas) {start : Header}
    (room : start.number.toNat + gases.length < UInt64.size) :
    ∃ headers, Descends config start gases headers := by
  induction gases generalizing start with
  | nil => exact ⟨[], .nil start⟩
  | cons gas gases ih =>
    rw [List.length_cons] at room
    have hnext : start.number.toNat + 1 < UInt64.size := by omega
    obtain ⟨child, hchild, hnumber⟩ := Child.exists_of_room valid gas hnext
    have room' : child.number.toNat + gases.length < UInt64.size := by omega
    obtain ⟨headers, hrest⟩ := ih room'
    exact ⟨child :: headers, .cons hchild hrest⟩

theorem length_eq {start : Header} {gases : List BlockGas} {headers : List Header}
    (h : Descends config start gases headers) : headers.length = gases.length := by
  induction h with
  | nil => rfl
  | cons hchild hrest ih => rw [List.length_cons, List.length_cons, ih]

theorem child_at {start : Header} {gases : List BlockGas} {headers : List Header}
    (h : Descends config start gases headers) {i : Nat} (hp : (start :: headers)[i]? = some parent)
    (hg : gases[i]? = some gas) (hc : headers[i]? = some child) :
    Child config parent gas child := by
  induction h generalizing i with
  | nil => simp at hc
  | cons hchild hrest ih =>
    cases i with
    | zero =>
      cases hp
      cases hg
      cases hc
      exact hchild
    | succ i => exact ih hp hg hc

end Descends

/-- The verdict on a child, and on what differs from it in the base fee. -/
structure Verdict (config : ChainConfig) (parent : Header) (gas : BlockGas) (child : Header) :
    Prop where
  /-- The child is accepted just if its gas limit is, and refused for it otherwise. -/
  decided : verifyHeader config parent child =
    .ok (verifyGasLimit (config.referenceGasLimit parent) gas.limit)
  notMissing : verifyHeader config parent child ≠ .ok (.error .missingBaseFee)
  notInvalid : ∀ declared want parentFee used,
    verifyHeader config parent child ≠ .ok (.error (.invalidBaseFee declared want parentFee used))
  other : verifyGasLimit (config.referenceGasLimit parent) gas.limit = .ok () →
    ∀ fee, some fee ≠ child.baseFee → ∃ want, nextBaseFee config parent = .ok want ∧
      verifyHeader config parent { child with baseFee := some fee } =
        .ok (.error (.invalidBaseFee fee want parent.baseFeeOrZero parent.gasUsed))
  missing : verifyGasLimit (config.referenceGasLimit parent) gas.limit = .ok () →
    verifyHeader config parent { child with baseFee := none } = .ok (.error .missingBaseFee)

theorem Child.verdict (h : Child config parent gas child) : Verdict config parent gas child := by
  obtain ⟨want, hwant, -, hlimit, -, hfee⟩ := h.eq_ok
  have decided : verifyHeader config parent child =
      .ok (verifyGasLimit (config.referenceGasLimit parent) gas.limit) := by
    rw [verifyHeader_eq hwant, hlimit, hfee]
    simp only [if_true]
    cases verifyGasLimit (config.referenceGasLimit parent) gas.limit <;> rfl
  obtain ⟨hmissing, hinvalid⟩ :=
    verifyGasLimit_ne (config.referenceGasLimit parent) gas.limit
  refine ⟨decided, ?_, ?_, ?_, ?_⟩
  · rw [decided]
    exact fun heq => hmissing (Except.ok.inj heq)
  · intro declared want' parentFee used
    rw [decided]
    exact fun heq => hinvalid _ _ _ _ (Except.ok.inj heq)
  · intro hok fee hne
    refine ⟨want, hwant, ?_⟩
    have hne' : fee ≠ want := fun heq => hne (by rw [hfee, heq])
    rw [verifyHeader_eq hwant]
    simp only [hlimit, hok, if_neg hne']
  · intro hok
    rw [verifyHeader_eq hwant]
    simp only [hlimit, hok]

/-- What two headers have to share for the rule to want the same base fee of both. -/
def Header.frame (h : Header) : UInt64 × UInt64 × UInt64 := (h.number, h.gasLimit, h.gasUsed)

/-- Every header may follow the one before it. -/
def Accepted (config : ChainConfig) (headers : List Header) : Prop :=
  headers.IsChain fun parent header => verifyHeader config parent header = .ok (.ok ())

theorem baseFee_of_accepted (valid : config.Valid)
    (h : verifyHeader config parent child = .ok (.ok ())) :
    ∃ fee, nextBaseFee config parent = .ok fee ∧ child.baseFee = some fee := by
  obtain ⟨want, hwant⟩ := nextBaseFee_total valid parent
  rw [verifyHeader_eq hwant, Except.ok.injEq] at h
  split at h
  · cases h
  · split at h
    · cases h
    · rename_i fee hfee
      split at h
      · rename_i heq
        exact ⟨want, hwant, heq ▸ hfee⟩
      · cases h

theorem nextBaseFee_congr {parent' : Header} (hframe : parent.frame = parent'.frame)
    (hfee : parent.baseFee = parent'.baseFee) :
    nextBaseFee config parent = nextBaseFee config parent' := by
  obtain ⟨hnumber, hlimit, hused⟩ : parent.number = parent'.number ∧
      parent.gasLimit = parent'.gasLimit ∧ parent.gasUsed = parent'.gasUsed := by
    simpa [Header.frame] using hframe
  simp only [nextBaseFee, Header.baseFeeOrZero, hnumber, hlimit, hused, hfee]

theorem Accepted.baseFee_eq (valid : config.Valid) {xs ys : List Header} {start start' : Header}
    (hstart : start.frame = start'.frame) (hfee : start.baseFee = start'.baseFee)
    (hx : Accepted config (start :: xs)) (hy : Accepted config (start' :: ys))
    (hframe : xs.map Header.frame = ys.map Header.frame) :
    xs.map Header.baseFee = ys.map Header.baseFee := by
  induction xs generalizing ys start start' with
  | nil => rw [List.map_eq_nil_iff.1 hframe.symm]
  | cons x xs ih =>
    cases ys with
    | nil => cases hframe
    | cons y ys =>
      obtain ⟨hhead, htail⟩ := List.cons.inj hframe
      obtain ⟨hx₁, hx₂⟩ := List.isChain_cons_cons.1 hx
      obtain ⟨hy₁, hy₂⟩ := List.isChain_cons_cons.1 hy
      obtain ⟨fee, hwant, hxfee⟩ := baseFee_of_accepted valid hx₁
      obtain ⟨fee', hwant', hyfee⟩ := baseFee_of_accepted valid hy₁
      rw [nextBaseFee_congr hstart hfee, hwant', Except.ok.injEq] at hwant
      have hsame : x.baseFee = y.baseFee := by rw [hxfee, hyfee, hwant]
      rw [List.map_cons, List.map_cons, hsame, ih hhead hsame hx₂ hy₂ htail]

/-- **The recurrence and the acceptance of headers agree.** -/
theorem recurrence_agrees_with_acceptance (valid : config.Valid) (start : Header)
    (gases : List BlockGas) :
    (start.number.toNat + gases.length < UInt64.size →
      ∃ headers, Descends config start gases headers) ∧
    (∀ {headers}, Descends config start gases headers → headers.length = gases.length ∧
      ∀ {i : Nat} {parent gas child}, (start :: headers)[i]? = some parent →
        gases[i]? = some gas → headers[i]? = some child →
          child.number.toNat = parent.number.toNat + 1 ∧ Verdict config parent gas child) ∧
    ∀ {xs ys}, Accepted config (start :: xs) → Accepted config (start :: ys) →
      xs.map Header.frame = ys.map Header.frame →
        xs.map Header.baseFee = ys.map Header.baseFee := by
  refine ⟨Descends.exists_of_room valid gases, ?_, Accepted.baseFee_eq valid rfl rfl⟩
  intro headers h
  refine ⟨h.length_eq, ?_⟩
  intro i parent gas child hp hg hc
  have hchild := h.child_at hp hg hc
  obtain ⟨-, -, hnumber, -⟩ := hchild.eq_ok
  exact ⟨(Word.add_eq_ok.1 hnumber).symm, hchild.verdict⟩

/-- A fork at block 7. -/
def forkAtSeven : ChainConfig := { forkBlock := some 7 }

/-- The last block before the fork at 7, and the two blocks after it. The first of them uses all of
its gas. -/
def acrossSeven : Fin 3 → Header
  | 0 => ⟨6, 0, 30000000, 30000000, none⟩
  | 1 => ⟨7, 0, 60000000, 60000000, some initialBaseFee⟩
  | 2 => ⟨8, 0, 60000000, 0, some ⟨1125000000, by decide⟩⟩

/-- Two blocks across the fork have the base fees of the rule, and no other ones are accepted. -/
theorem recurrence_agrees_across_seven :
    forkAtSeven.Valid ∧
    (∃ headers, Descends forkAtSeven (acrossSeven 0) [⟨60000000, 60000000⟩, ⟨60000000, 0⟩] headers ∧
      headers.length = 2) ∧
    ∀ {ys}, Accepted forkAtSeven (acrossSeven 0 :: ys) →
      [acrossSeven 1, acrossSeven 2].map Header.frame = ys.map Header.frame →
        [some initialBaseFee, some ⟨1125000000, by decide⟩] = ys.map Header.baseFee := by
  have valid : forkAtSeven.Valid := ⟨by decide, by decide⟩
  have agrees := recurrence_agrees_with_acceptance valid (acrossSeven 0)
    [⟨60000000, 60000000⟩, ⟨60000000, 0⟩]
  have accepted : Accepted forkAtSeven (acrossSeven 0 :: [acrossSeven 1, acrossSeven 2]) :=
    .cons_cons rfl (.cons_cons rfl (.singleton _))
  obtain ⟨headers, hdescends⟩ := agrees.1 (by decide)
  exact ⟨valid, ⟨headers, hdescends, (agrees.2.1 hdescends).1⟩, agrees.2.2 accepted⟩

end FeeMarket
