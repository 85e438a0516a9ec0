/-!
# Amounts of wei

**Amount** (`Wei`). A natural number below `2 ^ 256`.

**Saturation.** Amounts never wrap. `Wei.saturate` sends every natural number to the nearest
amount, sums stop at the largest amount, and differences stop at zero. Division and the mean
need no such rule, as they never leave the range.
-/

namespace FeeMarket

/-- How many amounts there are: `2 ^ 256`. -/
abbrev Wei.size : Nat := 0x10000000000000000000000000000000000000000000000000000000000000000

/-- An amount of wei: a natural number below `2 ^ 256`. -/
@[ext]
structure Wei where
  toNat : Nat
  lt : toNat < Wei.size
deriving DecidableEq

namespace Wei

/-- The largest natural number that is an amount. -/
def top : Nat := size - 1

/-- The amount nearest to a natural number. -/
def saturate (n : Nat) : Wei := ⟨min n top, by simp only [top, size]; omega⟩

/-- A word is an amount as it stands. -/
def ofWord (w : UInt64) : Wei := ⟨w.toNat, by have := w.toNat_lt; simp only [size]; omega⟩

instance : Zero Wei := ⟨⟨0, by decide⟩⟩

instance : One Wei := ⟨⟨1, by decide⟩⟩

instance : Inhabited Wei := ⟨0⟩

instance : LE Wei := ⟨fun a b => a.toNat ≤ b.toNat⟩

instance : LT Wei := ⟨fun a b => a.toNat < b.toNat⟩

instance (a b : Wei) : Decidable (a ≤ b) := inferInstanceAs (Decidable (a.toNat ≤ b.toNat))

instance (a b : Wei) : Decidable (a < b) := inferInstanceAs (Decidable (a.toNat < b.toNat))

instance : Max Wei := ⟨fun a b => if a ≤ b then b else a⟩

instance : Min Wei := ⟨fun a b => if a ≤ b then a else b⟩

/-- The sum, stopping at the largest amount. -/
instance : Add Wei := ⟨fun a b => saturate (a.toNat + b.toNat)⟩

/-- The difference, stopping at zero. -/
instance : Sub Wei := ⟨fun a b => ⟨a.toNat - b.toNat, by have := a.lt; omega⟩⟩

/-- The quotient by a count, rounded down. -/
def div (a : Wei) (n : Nat) : Wei :=
  ⟨a.toNat / n, Nat.lt_of_le_of_lt (Nat.div_le_self _ _) a.lt⟩

/-! ## What the operations do to the number -/

@[simp] theorem toNat_zero : (0 : Wei).toNat = 0 := rfl

@[simp] theorem toNat_one : (1 : Wei).toNat = 1 := rfl

@[simp] theorem toNat_saturate (n : Nat) : (saturate n).toNat = min n top := rfl

@[simp] theorem toNat_ofWord (w : UInt64) : (ofWord w).toNat = w.toNat := rfl

@[simp] theorem toNat_add (a b : Wei) : (a + b).toNat = min (a.toNat + b.toNat) top := rfl

@[simp] theorem toNat_sub (a b : Wei) : (a - b).toNat = a.toNat - b.toNat := rfl

@[simp] theorem toNat_div (a : Wei) (n : Nat) : (a.div n).toNat = a.toNat / n := rfl

theorem le_iff {a b : Wei} : a ≤ b ↔ a.toNat ≤ b.toNat := Iff.rfl

theorem toNat_le_top (a : Wei) : a.toNat ≤ top := by
  have := a.lt
  unfold top
  omega

/-! ## Saturation -/

theorem saturate_toNat (a : Wei) : saturate a.toNat = a := by
  have := a.toNat_le_top
  apply Wei.ext
  rw [toNat_saturate, Nat.min_eq_left this]

theorem saturate_mono {m n : Nat} (h : m ≤ n) : saturate m ≤ saturate n := by
  rw [le_iff, toNat_saturate, toNat_saturate]
  omega

/-- Saturating on the way to a sum makes no difference. -/
theorem saturate_add (m n : Nat) : saturate ((saturate m).toNat + n) = saturate (m + n) := by
  apply Wei.ext
  simp only [toNat_saturate]
  omega

/-- A difference from an amount is an amount. -/
theorem sub_saturate (a : Wei) (n : Nat) : a - saturate n = saturate (a.toNat - n) := by
  have := a.toNat_le_top
  apply Wei.ext
  rw [toNat_sub, toNat_saturate, toNat_saturate]
  omega

theorem toNat_max (a b : Wei) : (max a b).toNat = max a.toNat b.toNat := by
  show (if a ≤ b then b else a).toNat = _
  split
  · rename_i h
    rw [Nat.max_eq_right (le_iff.1 h)]
  · rename_i h
    rw [le_iff] at h
    rw [Nat.max_eq_left (by omega)]

/-- An increase by at least one, saturated before it is added or after. -/
theorem add_max_saturate (a : Wei) (n : Nat) :
    a + max (saturate n) 1 = saturate (a.toNat + max n 1) := by
  have htop : 1 ≤ top := by decide
  apply Wei.ext
  rw [toNat_add, toNat_max, toNat_saturate, toNat_saturate, toNat_one]
  omega

end Wei

end FeeMarket
