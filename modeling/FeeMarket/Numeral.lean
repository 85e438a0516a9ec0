/-!
# Positional numerals

**Numeral.** A non-empty list of digits in a base from 2 to 16. Digits above nine are letters:
both cases are read, the lower one is written.

**Writing** (`Numeral.write`). The shortest numeral of a number: no leading zero, except that
zero itself has one digit.

**Reading** (`Numeral.read?`). The number of a numeral with any count of leading zeros, and
nothing for an empty list or one that holds anything else than digits of the base.

Main statement: `read?_write`.
-/

namespace FeeMarket.Numeral

/-- The digit of a value below 16. -/
def digit (value : Nat) : Char :=
  if value < 10 then Char.ofNat (48 + value) else Char.ofNat (87 + value)

/-- The value of a digit of the base, in either case. -/
def digitValue? (base : Nat) (c : Char) : Option Nat :=
  let value :=
    if 48 ≤ c.toNat ∧ c.toNat ≤ 57 then c.toNat - 48
    else if 97 ≤ c.toNat ∧ c.toNat ≤ 102 then c.toNat - 87
    else if 65 ≤ c.toNat ∧ c.toNat ≤ 70 then c.toNat - 55
    else base
  if value < base then some value else none

/-- The shortest numeral of a number. -/
def write (base n : Nat) : List Char :=
  if _ : n < base ∨ base < 2 then [digit n] else write base (n / base) ++ [digit (n % base)]
termination_by n
decreasing_by exact Nat.div_lt_self (by omega) (by omega)

/-- Reads digits after those that gave `value`. -/
def readFrom? (base value : Nat) : List Char → Option Nat
  | [] => some value
  | c :: rest =>
    match digitValue? base c with
    | some d => readFrom? base (value * base + d) rest
    | none => none

/-- The number of a numeral. -/
def read? (base : Nat) : List Char → Option Nat
  | [] => none
  | digits => readFrom? base 0 digits

/-- A number in decimal. -/
def decimal (n : Nat) : String := String.ofList (write 10 n)

/-! ## Reading what was written -/

theorem digitValue?_digit {base value : Nat} (hb : base ≤ 16) (hv : value < base) :
    digitValue? base (digit value) = some value := by
  have table : ∀ b, b ≤ 16 → ∀ v, v < b → digitValue? b (digit v) = some v := by decide
  exact table base hb value hv

theorem readFrom?_append (base value : Nat) (a b : List Char) :
    readFrom? base value (a ++ b) =
      (readFrom? base value a).bind fun value' => readFrom? base value' b := by
  induction a generalizing value with
  | nil => rfl
  | cons c rest ih =>
    simp only [List.cons_append, readFrom?]
    split
    · exact ih _
    · rfl

theorem write_ne_nil (base n : Nat) : write base n ≠ [] := by
  unfold write
  split <;> simp

theorem readFrom?_write {base : Nat} (h2 : 2 ≤ base) (hb : base ≤ 16) (n : Nat) :
    readFrom? base 0 (write base n) = some n := by
  induction n using Nat.strongRecOn with
  | ind n ih =>
    unfold write
    split
    · rename_i h
      have hn : n < base := by omega
      simp [readFrom?, digitValue?_digit hb hn]
    · rename_i h
      have hlt : n / base < n := Nat.div_lt_self (by omega) (by omega)
      have hm : n % base < base := Nat.mod_lt _ (by omega)
      rw [readFrom?_append, ih _ hlt]
      simp [readFrom?, digitValue?_digit hb hm, Nat.div_add_mod']

/-- Reading gives back the number that was written. -/
theorem read?_write {base : Nat} (h2 : 2 ≤ base) (hb : base ≤ 16) (n : Nat) :
    read? base (write base n) = some n := by
  have := readFrom?_write h2 hb n
  revert this
  have hne := write_ne_nil base n
  cases h : write base n with
  | nil => exact absurd h hne
  | cons c rest => exact id

end FeeMarket.Numeral
