import Mathlib.Data.Prod.Lex
import Mathlib.Order.Compare

/-!
# The order of doubles

**Rank** (`Double.rank?`). A double that is a number has a rank: first where it stands, from minus
infinity over the negative numbers, zero and the positive numbers up to infinity, then its exponent,
then its significand, both the other way round if it is negative. The two zeros have one rank, and a
double that is not a number has none.

Doubles compare as their ranks do (`lt_iff`, `le_iff`). So `<` is transitive, and among doubles that
have a rank one is at most the other or greater. With no rank on one side nothing holds.
-/

namespace FeeMarket

namespace Double

open Float.Model (UnpackedFloat)

/-- Ranks, compared place by place. -/
abbrev Rank := Int ×ₗ Int ×ₗ Int

/-- A rank from its three places. -/
def rank (standing exponent significand : Int) : Rank :=
  toLex (standing, toLex (exponent, significand))

/-- The rank of a double that is taken apart. -/
def rankOf? : UnpackedFloat → Option Rank
  | .notANumber => none
  | .infinity .negative => some (rank (-2) 0 0)
  | .finite .negative m e _ => some (rank (-1) (-e) (-m))
  | .zero _ => some (rank 0 0 0)
  | .finite .positive m e _ => some (rank 1 e m)
  | .infinity .positive => some (rank 2 0 0)

/-- The rank of a double, if it is a number. -/
def rank? (p : Float) : Option Rank := rankOf? p.toModel.unpack

theorem compare_rank (s e m s' e' m' : Int) :
    compare (rank s e m) (rank s' e' m') =
      (compare s s').then ((compare e e').then (compare m m')) := rfl

theorem compare_neg (a b : Int) : compare (-a) (-b) = (compare a b).swap := by
  rw [Int.compare_swap]
  simp only [Int.compare_eq_ite_lt, Int.neg_lt_neg_iff]

theorem compare_natCast (a b : Nat) : compare (a : Int) b = compare a b := by
  simp only [Int.compare_eq_ite_lt, Nat.compare_eq_ite_lt, Int.ofNat_lt]

/-- **Doubles compare as their ranks do.** -/
theorem compare_eq (a b : UnpackedFloat) :
    a.compare b = (rankOf? a).bind fun x => (rankOf? b).map fun y => compare x y := by
  rcases a with (_ | _) | _ | _ | ⟨(_ | _), m, e, hm⟩ <;>
    rcases b with (_ | _) | _ | _ | ⟨(_ | _), m', e', hm'⟩ <;> try rfl
  -- Where a double stands settles all but two finite ones of the same sign.
  · show some ((compare e e').then (compare m m')).swap =
      some (compare (rank (-1) (-e) (-m)) (rank (-1) (-e') (-m')))
    rw [compare_rank, compare_neg e e', compare_neg m m', compare_natCast, Ordering.swap_then]
    rfl
  · show some ((compare e e').then (compare m m')) = some (compare (rank 1 e m) (rank 1 e' m'))
    rw [compare_rank, compare_natCast]
    rfl

theorem lt_iff {p q : Float} :
    p < q ↔ ∃ x y, rank? p = some x ∧ rank? q = some y ∧ x < y := by
  have hunpack : p < q ↔ (p.toModel.unpack.compare q.toModel.unpack == some .lt) = true :=
    decide_eq_true_iff
  rw [hunpack, compare_eq, rank?, rank?]
  cases rankOf? p.toModel.unpack with
  | none => simp
  | some x =>
    cases rankOf? q.toModel.unpack with
    | none => simp
    | some y => simp [compare_lt_iff_lt]

theorem le_iff {p q : Float} :
    p ≤ q ↔ ∃ x y, rank? p = some x ∧ rank? q = some y ∧ x ≤ y := by
  have hunpack : p ≤ q ↔ (p.toModel.unpack.compare q.toModel.unpack).any (·.isLE) = true :=
    decide_eq_true_iff
  rw [hunpack, compare_eq, rank?, rank?]
  cases rankOf? p.toModel.unpack with
  | none => simp
  | some x =>
    cases rankOf? q.toModel.unpack with
    | none => simp
    | some y => simp [Ordering.isLE_iff_ne_gt, compare_le_iff_le]

theorem exists_rank {p : Float} : (∃ x, rank? p = some x) ↔ p.isNaN = false := by
  show (∃ x, rankOf? p.toModel.unpack = some x) ↔ p.toModel.unpack.isNaN = false
  cases p.toModel.unpack with
  | notANumber => exact ⟨nofun, nofun⟩
  | zero s => exact ⟨fun _ => rfl, fun _ => ⟨_, rfl⟩⟩
  | infinity s | finite s => cases s <;> exact ⟨fun _ => rfl, fun _ => ⟨_, rfl⟩⟩

/-! ## What follows of the order -/

variable {p q r : Float}

theorem lt_trans (hpq : p < q) (hqr : q < r) : p < r := by
  obtain ⟨x, y, hx, hy, hxy⟩ := lt_iff.1 hpq
  obtain ⟨y', z, hy', hz, hyz⟩ := lt_iff.1 hqr
  cases hy.symm.trans hy'
  exact lt_iff.2 ⟨x, z, hx, hz, hxy.trans hyz⟩

instance instTransLt : Trans (· < · : Float → Float → Prop) (· < ·) (· < ·) := ⟨lt_trans⟩

theorem not_lt_of_le (h : p ≤ q) : ¬ q < p := by
  obtain ⟨x, y, hx, hy, hxy⟩ := le_iff.1 h
  intro hlt
  obtain ⟨y', x', hy', hx', hyx⟩ := lt_iff.1 hlt
  cases hx.symm.trans hx'
  cases hy.symm.trans hy'
  exact absurd hyx hxy.not_gt

theorem lt_of_not_le (hp : p.isNaN = false) (hq : q.isNaN = false) (h : ¬ p ≤ q) : q < p := by
  obtain ⟨x, hx⟩ := exists_rank.2 hp
  obtain ⟨y, hy⟩ := exists_rank.2 hq
  exact lt_iff.2 ⟨y, x, hy, hx, lt_of_not_ge fun hle => h (le_iff.2 ⟨x, y, hx, hy, hle⟩)⟩

/-- What compares with anything is a number. -/
theorem isNaN_of_le (h : p ≤ q) : p.isNaN = false ∧ q.isNaN = false := by
  obtain ⟨x, y, hx, hy, -⟩ := le_iff.1 h
  exact ⟨exists_rank.1 ⟨x, hx⟩, exists_rank.1 ⟨y, hy⟩⟩

end Double

end FeeMarket
