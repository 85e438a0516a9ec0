import FeeMarket.Proofs.Numeral
import FeeMarket.Quantity
import Mathlib.Algebra.Order.Ring.Nat

/-!
# Quantities and hashes read back

The text of an amount and of a word has no more digits than their width allows, so that a reader
takes it (`Wei.ofHex?_toHex`, `Word.ofHex?_toHex`). The text of a hash has all of its 64 digits, the
leading zeros included (`Hash.ofHex?_toHex`).
-/

namespace FeeMarket

namespace Quantity

theorem read?_write {width n : Nat} (hwidth : 0 < width) (hn : n < 16 ^ width) :
    read? width (write n) = some n := by
  have hlength : (Numeral.write 16 n).length ≤ width := Numeral.length_write_le hwidth hn
  show (if (Numeral.write 16 n).length ≤ width then Numeral.read? 16 (Numeral.write 16 n)
    else none) = some n
  rw [if_pos hlength, Numeral.read?_write (by decide) (by decide)]

end Quantity

theorem Wei.ofHex?_toHex (w : Wei) : ofHex? w.toHex = some w := by
  have hn : w.toNat < 16 ^ 64 := Nat.lt_of_lt_of_eq w.lt (by decide)
  rw [ofHex?, toHex, Quantity.toString, String.toList_ofList,
    Quantity.read?_write (by decide) hn, Option.bind_some, dif_pos w.lt]

namespace Word

theorem ofNat?_eq_some {n : Nat} {w : UInt64} : ofNat? n = some w ↔ n = w.toNat := by
  unfold ofNat?
  have hw := w.toNat_lt
  split
  · rename_i hn
    rw [Option.some.injEq, ← UInt64.toNat_inj, UInt64.toNat_ofNat_of_lt' hn]
  · rename_i hn
    simp only [UInt64.size] at hn
    simp only [reduceCtorEq, false_iff]
    omega

@[simp] theorem ofNat?_toNat (w : UInt64) : ofNat? w.toNat = some w := ofNat?_eq_some.2 rfl

theorem ofHex?_toHex (w : UInt64) : ofHex? (toHex w) = some w := by
  have hn : w.toNat < 16 ^ 16 := Nat.lt_of_lt_of_eq w.toNat_lt (by decide)
  rw [ofHex?, toHex, Quantity.toString, String.toList_ofList,
    Quantity.read?_write (by decide) hn, Option.bind_some, ofNat?_toNat]

end Word

namespace Hash

theorem length_lowDigits (count n : Nat) : (lowDigits count n).length = count := by
  induction count generalizing n with
  | zero => rfl
  | succ count ih => rw [lowDigits, List.length_append, ih, List.length_singleton]

theorem readFrom?_lowDigits (count n : Nat) :
    Numeral.readFrom? 16 0 (lowDigits count n) = some (n % 16 ^ count) := by
  induction count generalizing n with
  | zero => simp [lowDigits, Numeral.readFrom?, Nat.mod_one]
  | succ count ih =>
    have hdigit : Numeral.digitValue? 16 (Numeral.digit (n % 16)) = some (n % 16) :=
      Numeral.digitValue?_digit (by decide) (Nat.mod_lt _ (by decide))
    have hsum : n / 16 % 16 ^ count * 16 + n % 16 = n % 16 ^ (count + 1) := by
      rw [Nat.pow_succ, Nat.mul_comm (16 ^ count), Nat.mod_mul]
      omega
    rw [lowDigits, Numeral.readFrom?_append, ih]
    simp [Numeral.readFrom?, hdigit, hsum]

theorem read?_lowDigits {count n : Nat} (hcount : 0 < count) (hn : n < 16 ^ count) :
    Numeral.read? 16 (lowDigits count n) = some n := by
  have hread := readFrom?_lowDigits count n
  have hlength := length_lowDigits count n
  rw [Nat.mod_eq_of_lt hn] at hread
  cases hdigits : lowDigits count n with
  | nil =>
    rw [hdigits, List.length_nil] at hlength
    omega
  | cons c rest => rwa [hdigits] at hread

theorem ofHex?_toHex (h : Hash) : ofHex? h.toHex = some h := by
  have hbits : h.bits.toNat < 16 ^ 64 := Nat.lt_of_lt_of_eq h.bits.isLt (by decide)
  have hunmarked : Quantity.unmarked h.toHex.toList = lowDigits 64 h.bits.toNat := by
    rw [toHex, String.toList_ofList, Quantity.unmarked]
  rw [ofHex?, hunmarked, if_pos (length_lowDigits _ _), read?_lowDigits (by decide) hbits,
    Option.map_some, ofNat, BitVec.ofNat_toNat, BitVec.setWidth_eq]

end Hash

end FeeMarket
