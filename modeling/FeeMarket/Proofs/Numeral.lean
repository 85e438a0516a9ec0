import FeeMarket.Numeral
import Mathlib.Data.List.Forall2
import Mathlib.Data.Nat.Digits.Defs

/-!
# Which texts are numerals

**Digit** (`Numeral.IsDigit`). A character of one of two tables, whose value is its place there. The
tables differ in the case of the letters.

**Spells** (`Numeral.Spells`). A text that is not empty and holds digits of the base only spells the
number with these digits.

Reading accepts just the texts that spell a number, and gives that number (`read?_eq_some_iff`).
Writing takes the shortest of them, with small letters (`isShortest_write`).
-/

namespace FeeMarket.Numeral

/-! ## Digits -/

/-- The digits up to base 16, with small letters. -/
def smallDigits : List Char := "0123456789abcdef".toList

/-- The digits up to base 16, with capital letters. -/
def capitalDigits : List Char := "0123456789ABCDEF".toList

/-- A digit, in either case, and its value. -/
def IsDigit (c : Char) (value : Nat) : Prop :=
  smallDigits[value]? = some c ∨ capitalDigits[value]? = some c

theorem digit_mem_smallDigits {value : Nat} (h : value < 16) : digit value ∈ smallDigits := by
  have table : ∀ v, v < 16 → digit v ∈ smallDigits := by decide
  exact table value h

/-- The value that is read off a character is its place in a table. -/
theorem digitValue?_eq_some_iff {base : Nat} (hb : base ≤ 16) {c : Char} {value : Nat} :
    digitValue? base c = some value ↔ IsDigit c value ∧ value < base := by
  constructor
  · intro h
    have decimal : ∀ v, v < 10 → smallDigits[v]? = some (Char.ofNat (48 + v)) := by decide
    have small : ∀ v, v < 16 → 10 ≤ v → smallDigits[v]? = some (Char.ofNat (87 + v)) := by decide
    have capital : ∀ v, v < 16 → 10 ≤ v → capitalDigits[v]? = some (Char.ofNat (55 + v)) := by
      decide
    -- The character is known from its code point, and that from the value.
    have known (k : Nat) (hk : k = c.toNat) : Char.ofNat k = c := by
      rw [hk, Char.ofNat_toNat]
    unfold digitValue? at h
    simp only [Option.ite_none_right_eq_some, Option.some.injEq] at h
    obtain ⟨hlt, hvalue⟩ := h
    rw [hvalue] at hlt
    refine ⟨?_, hlt⟩
    split at hvalue
    · exact .inl (known (48 + value) (by omega) ▸ decimal value (by omega))
    · split at hvalue
      · exact .inl (known (87 + value) (by omega) ▸ small value (by omega) (by omega))
      · split at hvalue
        · exact .inr (known (55 + value) (by omega) ▸ capital value (by omega) (by omega))
        · omega
  · rintro ⟨hdigit, hlt⟩
    have table : ∀ b, b ≤ 16 → ∀ v, v < b →
        (smallDigits[v]?.bind (digitValue? b) = some v) ∧
          capitalDigits[v]?.bind (digitValue? b) = some v := by decide
    obtain ⟨hsmall, hcapital⟩ := table base hb value hlt
    rcases hdigit with hc | hc
    · rwa [hc] at hsmall
    · rwa [hc] at hcapital

/-! ## Numerals -/

/-- The text is a numeral of the number, with any count of leading zeros. -/
def Spells (base : Nat) (cs : List Char) (n : Nat) : Prop :=
  cs ≠ [] ∧ ∃ values : List Nat,
    List.Forall₂ (fun c value => IsDigit c value ∧ value < base) cs values ∧
      Nat.ofDigits base values.reverse = n

theorem readFrom?_eq_some_iff {base : Nat} (hb : base ≤ 16) {cs : List Char} {start n : Nat} :
    readFrom? base start cs = some n ↔ ∃ values : List Nat,
      List.Forall₂ (fun c value => IsDigit c value ∧ value < base) cs values ∧
        start * base ^ cs.length + Nat.ofDigits base values.reverse = n := by
  induction cs generalizing start with
  | nil => simp [readFrom?, List.forall₂_nil_left_iff]
  | cons c rest ih =>
    -- The first digit counts as often as there are numerals of the length of the rest.
    have hplace (value : Nat) {values : List Nat} (hlength : rest.length = values.length) :
        start * base ^ (c :: rest).length + Nat.ofDigits base (value :: values).reverse =
          (start * base + value) * base ^ rest.length + Nat.ofDigits base values.reverse := by
      rw [List.reverse_cons, Nat.ofDigits_append, Nat.ofDigits_singleton, List.length_reverse,
        ← hlength, List.length_cons, Nat.pow_succ, Nat.add_mul, Nat.mul_comm (base ^ _) base,
        Nat.mul_assoc, Nat.mul_comm value]
      omega
    rw [readFrom?]
    cases hc : digitValue? base c with
    | none =>
      simp only [reduceCtorEq, false_iff]
      rintro ⟨values, hvalues, -⟩
      cases hvalues with
      | cons hdigit _ => cases hc.symm.trans ((digitValue?_eq_some_iff hb).2 hdigit)
    | some value =>
      simp only [ih]
      constructor
      · rintro ⟨values, hvalues, hsum⟩
        refine ⟨value :: values, .cons ((digitValue?_eq_some_iff hb).1 hc) hvalues, ?_⟩
        rw [hplace value hvalues.length_eq, hsum]
      · rintro ⟨values, hvalues, hsum⟩
        cases hvalues with
        | @cons _ value' _ values hdigit hvalues =>
          cases hc.symm.trans ((digitValue?_eq_some_iff hb).2 hdigit)
          exact ⟨values, hvalues, by rw [← hplace value hvalues.length_eq, hsum]⟩

/-- **Reading accepts just the numerals.** -/
theorem read?_eq_some_iff {base : Nat} (hb : base ≤ 16) {cs : List Char} {n : Nat} :
    read? base cs = some n ↔ Spells base cs n := by
  cases cs with
  | nil => simp [read?, Spells]
  | cons c rest =>
    show readFrom? base 0 (c :: rest) = some n ↔ _
    rw [readFrom?_eq_some_iff hb]
    simp [Spells]

theorem Spells.of_write {base : Nat} (h2 : 2 ≤ base) (hb : base ≤ 16) (n : Nat) :
    Spells base (write base n) n :=
  (read?_eq_some_iff hb).1 (read?_write h2 hb n)

theorem Spells.isDigit {base n : Nat} {cs : List Char} (h : Spells base cs n) {c : Char}
    (hc : c ∈ cs) : ∃ value, IsDigit c value ∧ value < base := by
  obtain ⟨-, values, hvalues, -⟩ := h
  obtain ⟨i, hi, rfl⟩ := List.getElem_of_mem hc
  exact ⟨values.get ⟨i, hvalues.length_eq ▸ hi⟩, hvalues.get hi (hvalues.length_eq ▸ hi)⟩

/-! ## Shortest numerals -/

/-- A numeral with small letters and without a leading zero, unless it is the zero alone. -/
structure IsShortest (cs : List Char) : Prop where
  small : ∀ c ∈ cs, c ∈ smallDigits
  leading : cs = ['0'] ∨ cs.head? ≠ some '0'

theorem mem_smallDigits_of_write {base : Nat} (h2 : 2 ≤ base) (hb : base ≤ 16) (n : Nat) :
    ∀ c ∈ write base n, c ∈ smallDigits := by
  induction n using Nat.strongRecOn with
  | ind n ih =>
    unfold write
    split
    · rename_i h
      simpa using digit_mem_smallDigits (by omega : n < 16)
    · rename_i h
      have hlt : n / base < n := Nat.div_lt_self (by omega) (by omega)
      have hmod : n % base < base := Nat.mod_lt _ (by omega)
      intro c hc
      rcases List.mem_append.1 hc with hc | hc
      · exact ih _ hlt c hc
      · obtain rfl : c = digit (n % base) := by simpa using hc
        exact digit_mem_smallDigits (by omega)

theorem head?_write_ne_zero {base n : Nat} (h2 : 2 ≤ base) (hb : base ≤ 16) (hn : n ≠ 0) :
    (write base n).head? ≠ some '0' := by
  induction n using Nat.strongRecOn with
  | ind n ih =>
    unfold write
    split
    · rename_i h
      have table : ∀ v, v < 16 → v ≠ 0 → digit v ≠ '0' := by decide
      simpa using table n (by omega) hn
    · rename_i h
      have hlt : n / base < n := Nat.div_lt_self (by omega) (by omega)
      have hquotient : n / base ≠ 0 := by
        have := Nat.div_pos (Nat.le_of_not_lt fun hlt => h (.inl hlt)) (by omega : 0 < base)
        omega
      rw [List.head?_append_of_ne_nil _ (write_ne_nil _ _)]
      exact ih _ hlt hquotient

/-- **What is written is the shortest numeral.** -/
theorem isShortest_write {base : Nat} (h2 : 2 ≤ base) (hb : base ≤ 16) (n : Nat) :
    IsShortest (write base n) where
  small := mem_smallDigits_of_write h2 hb n
  leading := by
    by_cases hn : n = 0
    · left
      subst hn
      unfold write
      rw [dif_pos (.inl (by omega))]
      rfl
    · exact .inr (head?_write_ne_zero h2 hb hn)

theorem length_write_le {base k n : Nat} (hk : 0 < k) (hn : n < base ^ k) :
    (write base n).length ≤ k := by
  induction k generalizing n with
  | zero => omega
  | succ k ih =>
    unfold write
    split
    · simp
    · rename_i h
      have hpos : 0 < k := by
        refine Nat.pos_of_ne_zero fun hzero => h (.inl ?_)
        rwa [hzero, Nat.pow_one] at hn
      have hquotient : n / base < base ^ k :=
        Nat.div_lt_of_lt_mul (by rwa [Nat.pow_succ, Nat.mul_comm] at hn)
      rw [List.length_append, List.length_singleton]
      exact Nat.succ_le_succ (ih hpos hquotient)

end FeeMarket.Numeral
