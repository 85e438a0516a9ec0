import FeeMarket.FeeHistory
import FeeMarket.Proofs.BlockFees
import FeeMarket.Proofs.Numbers

/-!
# Slots do not remember the order

When every number of a range was deposited, and what was deposited depends on the number alone, the
slots are the fees in the order of the numbers, in whatever order the deposits arrived
(`slots_eq`).

The base fees of a history are those of its blocks, and the one that the last of them projects.

**End** (`FeeHistory.IsEndOf`). A history is the end of another one if each of its series of fees
is. That holds if its blocks are the last ones of the other history (`ofFees_isEndOf`).
-/

namespace FeeMarket

namespace FeeHistory

variable {oldest : UInt64} {f : UInt64 → Option ProcessedFees}

theorem length_place (oldest : UInt64) (s : List (Option ProcessedFees)) (d : Deposit) :
    (place oldest s d).length = s.length := List.length_set

theorem length_foldl_place (oldest : UInt64) (s : List (Option ProcessedFees))
    (deposits : List Deposit) : (deposits.foldl (place oldest) s).length = s.length := by
  induction deposits generalizing s with
  | nil => rfl
  | cons d deposits ih => rw [List.foldl_cons, ih, length_place]

theorem slot_eq_iff {k i : Nat} {n : UInt64} (room : oldest.toNat + k ≤ UInt64.size)
    (hn : n ∈ countFrom oldest k) (hi : i < k) :
    (n - oldest).toNat = i ↔ n = oldest + UInt64.ofNat i := by
  obtain ⟨hle, hlt⟩ := (mem_countFrom room).1 hn
  rw [UInt64.toNat_sub_of_le _ _ (UInt64.le_iff_toNat_le.2 hle), ← UInt64.toNat_inj,
    toNat_add_ofNat (by omega)]
  omega

theorem getElem?_foldl_place {s : List (Option ProcessedFees)} {deposits : List Deposit} {i : Nat}
    (room : oldest.toNat + s.length ≤ UInt64.size)
    (hin : ∀ d ∈ deposits, d.number ∈ countFrom oldest s.length)
    (hf : ∀ d ∈ deposits, d.fees? = f d.number) (hi : i < s.length) :
    (deposits.foldl (place oldest) s)[i]? =
      if oldest + UInt64.ofNat i ∈ deposits.map Deposit.number
      then some (f (oldest + UInt64.ofNat i)) else s[i]? := by
  induction deposits generalizing s with
  | nil => simp
  | cons d deposits ih =>
    have hlen := length_place oldest s d
    have hd := slot_eq_iff room (hin d List.mem_cons_self) hi
    rw [List.foldl_cons, ih (hlen ▸ room) (fun x hx => hlen ▸ hin x (List.mem_cons_of_mem d hx))
      (fun x hx => hf x (List.mem_cons_of_mem d hx)) (hlen ▸ hi)]
    by_cases hmem : oldest + UInt64.ofNat i ∈ deposits.map Deposit.number
    · rw [if_pos hmem, List.map_cons, if_pos (List.mem_cons_of_mem _ hmem)]
    · rw [if_neg hmem, place, List.map_cons]
      by_cases hslot : d.number = oldest + UInt64.ofNat i
      · rw [hd.2 hslot, List.getElem?_set_self hi, hf d List.mem_cons_self, hslot,
          if_pos List.mem_cons_self]
      · rw [List.getElem?_set_ne fun h => hslot (hd.1 h), if_neg]
        exact fun h => (List.mem_cons.1 h).elim (fun h => hslot h.symm) hmem

/-- **The order of arrival does not matter.** -/
theorem slots_eq {count : Nat} {deposits : List Deposit}
    (room : oldest.toNat + count ≤ UInt64.size)
    (hall : (deposits.map Deposit.number).Perm (countFrom oldest count))
    (hf : ∀ d ∈ deposits, d.fees? = f d.number) :
    slots oldest count deposits = (countFrom oldest count).map f := by
  have hlen : (slots oldest count deposits).length = count := by
    rw [slots, length_foldl_place, List.length_replicate]
  refine List.ext_getElem? fun i => ?_
  by_cases hi : i < count
  · have hmem : oldest + UInt64.ofNat i ∈ deposits.map Deposit.number :=
      hall.mem_iff.2 (List.mem_map.2 ⟨i, List.mem_range.2 hi, rfl⟩)
    rw [slots, getElem?_foldl_place (f := f), if_pos hmem]
    · simp [countFrom, hi]
    · rwa [List.length_replicate]
    · intro d hd
      rw [List.length_replicate]
      exact hall.subset (List.mem_map.2 ⟨d, hd, rfl⟩)
    · exact hf
    · rwa [List.length_replicate]
  · rw [List.getElem?_eq_none (by omega), List.getElem?_eq_none (by simpa using hi)]

theorem length_leading_le {α : Type} (l : List (Option α)) : (leading l).length ≤ l.length := by
  induction l with
  | nil => exact Nat.le_refl 0
  | cons a? rest ih =>
    cases a? with
    | none => exact Nat.zero_le _
    | some a => exact Nat.succ_le_succ ih

theorem getElem?_of_leading {α : Type} {l : List (Option α)} {i : Nat} {a : α}
    (h : (leading l)[i]? = some a) : l[i]? = some (some a) := by
  induction l generalizing i with
  | nil => cases h
  | cons a? rest ih =>
    cases a? with
    | none => cases h
    | some b =>
      cases i with
      | zero =>
        cases h
        rfl
      | succ i => exact ih h

/-! ## Histories of at least one block -/

/-- What a history of at least one block consists of. -/
theorem ofFees_eq {fees : List ProcessedFees} {x : ProcessedFees} (oldest : UInt64)
    (withRewards : Bool) (h : fees.getLast? = some x) :
    ofFees oldest fees withRewards =
      { oldestBlock := oldest
        reward := if withRewards then some (fees.map fun f => f.reward.getD []) else none
        baseFeePerGas := fees.map ProcessedFees.baseFee ++ [x.nextBaseFee]
        gasUsedRatio := fees.map ProcessedFees.gasUsedRatio
        baseFeePerBlobGas := fees.map ProcessedFees.blobBaseFee ++ [x.nextBlobBaseFee]
        blobGasUsedRatio := fees.map ProcessedFees.blobGasUsedRatio } := by
  rw [ofFees, h]

theorem getLast?_baseFeePerGas {fees : List ProcessedFees} {x : ProcessedFees} (withRewards : Bool)
    (h : fees.getLast? = some x) :
    (ofFees oldest fees withRewards).baseFeePerGas.getLast? = some x.nextBaseFee := by
  rw [ofFees_eq oldest withRewards h]
  exact List.getLast?_concat

theorem getLast?_baseFeePerBlobGas {fees : List ProcessedFees} {x : ProcessedFees}
    (withRewards : Bool) (h : fees.getLast? = some x) :
    (ofFees oldest fees withRewards).baseFeePerBlobGas.getLast? = some x.nextBlobBaseFee := by
  rw [ofFees_eq oldest withRewards h]
  exact List.getLast?_concat

theorem getElem?_baseFeePerGas {fees : List ProcessedFees} {x : ProcessedFees} {i : Nat}
    (withRewards : Bool) (h : fees[i]? = some x) :
    (ofFees oldest fees withRewards).baseFeePerGas[i]? = some x.baseFee := by
  obtain ⟨hi, -⟩ := List.getElem?_eq_some_iff.1 h
  cases hlast : fees.getLast? with
  | none =>
    rw [List.getLast?_eq_none_iff.1 hlast] at hi
    exact absurd hi (Nat.not_lt_zero i)
  | some y =>
    rw [ofFees_eq oldest withRewards hlast]
    show (fees.map ProcessedFees.baseFee ++ [y.nextBaseFee])[i]? = some x.baseFee
    rw [List.getElem?_append_left (by simpa using hi), List.getElem?_map, h]
    rfl

/-! ## Histories without rewards -/

/-- The history without its rewards. -/
def market (h : FeeHistory) : FeeHistory := { h with reward := none }

/-- The series of fees of a history are the ends of those of another one. The rewards are left
out. -/
structure IsEndOf (h k : FeeHistory) : Prop where
  baseFeePerGas : h.baseFeePerGas <:+ k.baseFeePerGas
  gasUsedRatio : h.gasUsedRatio <:+ k.gasUsedRatio
  baseFeePerBlobGas : h.baseFeePerBlobGas <:+ k.baseFeePerBlobGas
  blobGasUsedRatio : h.blobGasUsedRatio <:+ k.blobGasUsedRatio

theorem empty_isEndOf (k : FeeHistory) : empty.IsEndOf k :=
  ⟨List.nil_suffix, List.nil_suffix, List.nil_suffix, List.nil_suffix⟩

variable {fees fees' : List ProcessedFees}

/-- All but the rewards is made of the fees without the rewards. -/
theorem market_ofFees (oldest : UInt64) (fees : List ProcessedFees) (withRewards : Bool) :
    (ofFees oldest fees withRewards).market =
      ofFees oldest (fees.map ProcessedFees.market) false := by
  unfold ofFees
  rw [List.getLast?_map]
  cases fees.getLast? with
  | none => rfl
  | some x => simp [market, ProcessedFees.market, Function.comp_def]

theorem market_isEndOf {h k : FeeHistory} : h.market.IsEndOf k.market ↔ h.IsEndOf k :=
  ⟨fun e => ⟨e.1, e.2, e.3, e.4⟩, fun e => ⟨e.1, e.2, e.3, e.4⟩⟩

/-- Fewer blocks that end alike make a history that ends alike. -/
theorem ofFees_isEndOf (oldest oldest' : UInt64) (withRewards withRewards' : Bool)
    (h : fees <:+ fees') :
    (ofFees oldest fees withRewards).IsEndOf (ofFees oldest' fees' withRewards') := by
  cases hlast : fees.getLast? with
  | none =>
    rw [List.getLast?_eq_none_iff.1 hlast]
    exact empty_isEndOf _
  | some x =>
    obtain ⟨front, rfl⟩ := h
    have hlast' : (front ++ fees).getLast? = some x := by
      rw [List.getLast?_append, hlast, Option.some_or]
    rw [ofFees_eq oldest withRewards hlast, ofFees_eq oldest' withRewards' hlast']
    constructor <;> simp [List.suffix_append]

end FeeHistory

end FeeMarket
