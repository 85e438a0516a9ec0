/-!
# Faults and checked words

**Fault.** What ends a computation without an answer: a division by zero, a place that a list does
not have, a word that would leave its range, a queue that cannot be made, a chain reader that
broke down, a setting whose name is no name, or a variable whose value cannot be set. A fault is
not an answer and not an error of the domain; no caller handles it.

**Checked** (`Checked`). A computation that yields a value or a fault.

**Words.** Block numbers and gas are 64-bit words. The operations of `Word` are exact: where
the exact result is not a word they fault, or stop at the largest word where their name says
so.
-/

namespace FeeMarket

/-- What ends a computation without an answer. -/
inductive Fault where
  | divisionByZero
  | indexOutOfBounds
  | overflow
  | queueTooLong
  | brokenReader
  | unnamedSetting
  | unsettableVariable
deriving DecidableEq

/-- A value, or the fault that prevented it. -/
abbrev Checked := Except Fault

namespace Word

/-- The word of a natural number, if it is one. -/
def ofNat? (n : Nat) : Option UInt64 := if n < UInt64.size then some (UInt64.ofNat n) else none

/-- The sum; a fault if it is not a word. -/
def add (a b : UInt64) : Checked UInt64 :=
  if a.toNat + b.toNat < UInt64.size then .ok (a + b) else .error .overflow

/-- The difference; a fault if it would be negative. -/
def sub (a b : UInt64) : Checked UInt64 :=
  if b ≤ a then .ok (a - b) else .error .overflow

/-- The quotient, rounded down; a fault if the divisor is zero. -/
def div (a b : UInt64) : Checked UInt64 :=
  if b = 0 then .error .divisionByZero else .ok (a / b)

/-- The word nearest to a natural number. -/
def saturate (n : Nat) : UInt64 := UInt64.ofNat (min n (UInt64.size - 1))

/-- The sum, stopping at the largest word. -/
def addUpTo (a b : UInt64) : UInt64 := saturate (a.toNat + b.toNat)

/-- The product, stopping at the largest word. -/
def mulUpTo (a b : UInt64) : UInt64 := saturate (a.toNat * b.toNat)

/-- The difference, stopping at zero. -/
def subDownTo (a b : UInt64) : UInt64 := if b ≤ a then a - b else 0

/-- How far two words lie apart. -/
def distance (a b : UInt64) : UInt64 := if a ≤ b then b - a else a - b

/-! ## What the operations do to the number -/

theorem toNat_saturate (n : Nat) : (saturate n).toNat = min n (UInt64.size - 1) := by
  unfold saturate
  exact UInt64.toNat_ofNat_of_lt' (by simp only [UInt64.size]; omega)

theorem add_eq_ok {a b c : UInt64} : add a b = .ok c ↔ a.toNat + b.toNat = c.toNat := by
  unfold add
  have ha := a.toNat_lt
  have hb := b.toNat_lt
  have hc := c.toNat_lt
  split
  · rename_i h
    rw [Except.ok.injEq, ← UInt64.toNat_inj, UInt64.toNat_add, Nat.mod_eq_of_lt h]
  · rename_i h
    simp only [UInt64.size] at h
    simp only [reduceCtorEq, false_iff]
    omega

theorem toNat_subDownTo (a b : UInt64) : (subDownTo a b).toNat = a.toNat - b.toNat := by
  unfold subDownTo
  split
  · rename_i h
    exact UInt64.toNat_sub_of_le _ _ h
  · rename_i h
    have : a.toNat < b.toNat := by simpa [UInt64.le_iff_toNat_le] using h
    simp only [UInt64.toNat_zero]
    omega

theorem toNat_distance (a b : UInt64) :
    (distance a b).toNat = (a.toNat - b.toNat) + (b.toNat - a.toNat) := by
  unfold distance
  split
  · rename_i h
    have hle := UInt64.le_iff_toNat_le.1 h
    rw [UInt64.toNat_sub_of_le _ _ h]
    omega
  · rename_i h
    have hlt := UInt64.not_le.1 h
    have hlt' := UInt64.lt_iff_toNat_lt.1 hlt
    rw [UInt64.toNat_sub_of_le _ _ (UInt64.le_of_lt hlt)]
    omega

@[simp] theorem subDownTo_zero (a : UInt64) : subDownTo a 0 = a := by simp [subDownTo]

theorem subDownTo_mono {a b : UInt64} (h : a ≤ b) (c : UInt64) :
    subDownTo a c ≤ subDownTo b c := by
  rw [UInt64.le_iff_toNat_le, toNat_subDownTo, toNat_subDownTo]
  have := UInt64.le_iff_toNat_le.1 h
  omega

end Word

end FeeMarket
