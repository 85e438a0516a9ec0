import FeeMarket.Text

/-!
# Labels in ASCII

**Written label.** The ASCII characters of a label, a hyphen if there are any, and digits that
tell the other characters: in ascending order, each by how many steps lie between it and the one
before. A step goes to the next place in the label, and from the last place to the next code
point.

**Digits.** The letters stand for 0 to 25 and the decimal digits for 26 to 35. Numbers have their
lowest digit first, and end at a digit below its threshold. The thresholds follow the sizes of the
numbers so far (`bias`).

Main definitions: `encode` writes a label and `decode?` reads it back.
-/

namespace FeeMarket.Url.Name.Punycode

/-! ## Digits -/

def digit (value : Nat) : Char :=
  if value < 26 then Char.ofNat (0x61 + value) else Char.ofNat (0x30 + (value - 26))

/-- The value of a digit; letters are small. -/
def digitValue? (c : Char) : Option Nat :=
  if 'a' ≤ c ∧ c ≤ 'z' then some (c.toNat - 0x61)
  else if '0' ≤ c ∧ c ≤ '9' then some (c.toNat - 0x30 + 26)
  else none

theorem digitValue?_digit {value : Nat} (h : value < 36) :
    digitValue? (digit value) = some value := by
  have table : ∀ v, v < 36 → digitValue? (digit v) = some v := by decide
  exact table value h

/-- The threshold of a digit, by its place times 36. -/
def threshold (bias place : Nat) : Nat := min 26 (max 1 (place - bias))

theorem threshold_pos (bias place : Nat) : 0 < threshold bias place := by
  unfold threshold
  omega

/-- Divides by 35 until a number is small, and counts in steps of 36. -/
def shrink (delta place : Nat) : Nat :=
  if _ : 455 < delta then shrink (delta / 35) (place + 36)
  else place + 36 * delta / (delta + 38)
termination_by delta
decreasing_by exact Nat.div_lt_self (by omega) (by omega)

/-- The bias after a number in a label of some length. -/
def adapt (delta length : Nat) (first : Bool) : Nat :=
  let delta := if first then delta / 700 else delta / 2
  shrink (delta + delta / length) 0

/-! ## Writing -/

/-- The digits of a number. -/
def digitsOf (bias place n : Nat) : List Char :=
  let t := threshold bias place
  if _ : n < t then [digit n]
  else digit (t + (n - t) % (36 - t)) :: digitsOf bias (place + 36) ((n - t) / (36 - t))
termination_by n
decreasing_by
  have := threshold_pos bias place
  exact Nat.lt_of_le_of_lt (Nat.div_le_self _ _) (by omega)

/-- What is written so far, and what the next number depends on: the steps since the last one, the
bias, and how many characters are told. -/
structure Writer where
  out : List Char
  delta : Nat
  bias : Nat
  told : Nat

/-- Passes a place of the label while a code point is told. -/
def Writer.pass (basic code : Nat) (w : Writer) (c : Char) : Writer :=
  if c.toNat < code then { w with delta := w.delta + 1 }
  else if c.toNat = code then
    let told := w.told + 1
    ⟨w.out ++ digitsOf w.bias 36 w.delta, 0, adapt w.delta told (w.told == basic), told⟩
  else w

/-- Tells all places of code points, from one that was reached on. -/
def Writer.tell (label : List Char) (basic : Nat) (reached : Nat) (w : Writer) : List Nat → Writer
  | [] => w
  | code :: later =>
    let w := { w with delta := w.delta + (code - reached) * (w.told + 1) }
    let w := label.foldl (Writer.pass basic code) w
    Writer.tell label basic (code + 1) { w with delta := w.delta + 1 } later

/-- Puts a code point into its place in an ascending list without repetitions. -/
def insertCode (n : Nat) : List Nat → List Nat
  | [] => [n]
  | m :: rest =>
    if n < m then n :: m :: rest else if n = m then m :: rest else m :: insertCode n rest

/-- Whether a character is in ASCII. -/
def isBasic (c : Char) : Bool := c.toNat < 0x80

/-- Writes a label. -/
def encode (label : List Char) : List Char :=
  let basic := label.filter isBasic
  let codes := (label.filter (!isBasic ·)).foldr (fun c => insertCode c.toNat) []
  let start : Writer := ⟨[], 0, 72, basic.length⟩
  (if basic.isEmpty then [] else basic ++ ['-'])
    ++ (start.tell label basic.length 0x80 codes).out

/-! ## Reading -/

/-- Reads a number, which is added to `sum` with a weight. -/
def number? (bias place weight sum : Nat) : List Char → Option (Nat × List Char)
  | [] => none
  | c :: rest => do
    let d ← digitValue? c
    let t := threshold bias place
    let sum := sum + d * weight
    if d < t then return (sum, rest)
    else number? bias (place + 36) (weight * (36 - t)) sum rest

/-- Puts the characters that numbers tell into a label. Each number takes a character. -/
def fill? (bias code place : Nat) (label : List Char) : Nat → List Char → Option (List Char)
  | _, [] => some label
  | 0, _ => none
  | fuel + 1, cs => do
    let (steps, rest) ← number? bias 36 1 place cs
    let length := label.length + 1
    let code := code + steps / length
    let place' := steps % length
    if code < 0xD800 ∨ (0xE000 ≤ code ∧ code < 0x110000) then
      fill? (adapt (steps - place) length (place == 0)) code (place' + 1)
        (label.insertIdx place' (Char.ofNat code)) fuel rest
    else none

/-- Reads a written label. -/
def decode? (cs : List Char) : Option (List Char) :=
  let (basic, rest) :=
    match splitLast '-' cs with
    | some ([], _) => ([], cs)
    | some (basic, rest) => (basic, rest)
    | none => ([], cs)
  fill? 72 0x80 0 basic rest.length rest

end FeeMarket.Url.Name.Punycode
