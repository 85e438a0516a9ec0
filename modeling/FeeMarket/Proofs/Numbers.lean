import Mathlib.Data.List.Nodup

/-!
# Consecutive numbers

**Counting** (`countFrom`). The first block numbers from one on. As long as they do not leave the
words they are distinct, and just those that lie in between.
-/

namespace FeeMarket

/-- The first `k` numbers from `n` on. -/
def countFrom (n : UInt64) (k : Nat) : List UInt64 :=
  (List.range k).map fun i => n + UInt64.ofNat i

@[simp] theorem length_countFrom (n : UInt64) (k : Nat) : (countFrom n k).length = k := by
  rw [countFrom, List.length_map, List.length_range]

theorem countFrom_succ (n : UInt64) (k : Nat) :
    countFrom n (k + 1) = countFrom n k ++ [n + UInt64.ofNat k] := by
  rw [countFrom, List.range_succ, List.map_append]
  rfl

theorem toNat_add_ofNat {n : UInt64} {i : Nat} (h : n.toNat + i < UInt64.size) :
    (n + UInt64.ofNat i).toNat = n.toNat + i := by
  rw [UInt64.toNat_add, UInt64.toNat_ofNat_of_lt' (by omega)]
  exact Nat.mod_eq_of_lt h

theorem mem_countFrom {n m : UInt64} {k : Nat} (h : n.toNat + k ≤ UInt64.size) :
    m ∈ countFrom n k ↔ n.toNat ≤ m.toNat ∧ m.toNat < n.toNat + k := by
  constructor
  · intro hm
    obtain ⟨i, hi, rfl⟩ := List.mem_map.1 hm
    have hik : i < k := List.mem_range.1 hi
    rw [toNat_add_ofNat (by omega)]
    omega
  · rintro ⟨hn, hk⟩
    refine List.mem_map.2 ⟨m.toNat - n.toNat, List.mem_range.2 (by omega), ?_⟩
    apply UInt64.toNat_inj.1
    rw [toNat_add_ofNat (by omega)]
    omega

theorem nodup_countFrom {n : UInt64} {k : Nat} (h : n.toNat + k ≤ UInt64.size) :
    (countFrom n k).Nodup := by
  refine List.Nodup.map_on ?_ List.nodup_range
  intro i hi j hj hij
  have hi' := List.mem_range.1 hi
  have hj' := List.mem_range.1 hj
  have := congrArg UInt64.toNat hij
  rw [toNat_add_ofNat (by omega), toNat_add_ofNat (by omega)] at this
  omega

theorem countFrom_subset {n : UInt64} {j k : Nat} (h : j ≤ k) :
    countFrom n j ⊆ countFrom n k := by
  intro m hm
  obtain ⟨i, hi, rfl⟩ := List.mem_map.1 hm
  have hij : i < j := List.mem_range.1 hi
  exact List.mem_map.2 ⟨i, List.mem_range.2 (by omega), rfl⟩

theorem countFrom_prefix (n : UInt64) {j k : Nat} (h : j ≤ k) :
    countFrom n j <+: countFrom n k := by
  induction h with
  | refl => exact List.prefix_rfl
  | step _ ih =>
    rw [countFrom_succ]
    exact ih.trans (List.prefix_append _ _)

theorem getElem?_countFrom {n m : UInt64} {k : Nat} (hle : n.toNat ≤ m.toNat)
    (hlt : m.toNat < n.toNat + k) : (countFrom n k)[m.toNat - n.toNat]? = some m := by
  have hm := m.toNat_lt
  rw [countFrom, List.getElem?_map, List.getElem?_range (by omega), Option.map_some,
    Option.some.injEq]
  apply UInt64.toNat_inj.1
  rw [toNat_add_ofNat (by simp only [UInt64.size]; omega)]
  omega

theorem eq_of_getElem?_countFrom {n m : UInt64} {i k : Nat} (h : (countFrom n k)[i]? = some m) :
    m = n + UInt64.ofNat i := by
  rw [countFrom, List.getElem?_map] at h
  obtain ⟨j, hj, rfl⟩ := Option.map_eq_some_iff.1 h
  obtain ⟨hi, hij⟩ := List.getElem?_eq_some_iff.1 hj
  rw [List.getElem_range] at hij
  rw [hij]

theorem add_ofNat_toNat_sub (n m : UInt64) : n + UInt64.ofNat (m - n).toNat = m := by
  rw [UInt64.ofNat_toNat, UInt64.add_comm, UInt64.sub_add_cancel]

theorem toNat_pos {n : UInt64} (h : n ≠ 0) : 0 < n.toNat :=
  Nat.pos_of_ne_zero fun hzero => h (UInt64.toNat_inj.1 hzero)

theorem toNat_min (a b : UInt64) : (min a b).toNat = min a.toNat b.toNat := by
  show (if a ≤ b then a else b).toNat = _
  split
  · rename_i h
    rw [Nat.min_eq_left (UInt64.le_iff_toNat_le.1 h)]
  · rename_i h
    rw [UInt64.le_iff_toNat_le] at h
    rw [Nat.min_eq_right (by omega)]

end FeeMarket
