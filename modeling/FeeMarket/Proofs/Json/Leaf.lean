import FeeMarket.Json.Printer
import FeeMarket.Json.Reader
import FeeMarket.Proofs.Numeral
import FeeMarket.Proofs.Sequence
import Mathlib.Data.List.TakeWhile

/-!
# Reading strings and numbers of a JSON text

**Ending** (`Json.Reader.Ends`). What may follow a value: nothing, a blank, or the comma or the
closing bracket of the container around it.

**Strings.** The quoted text of any string is read as that string, whatever follows.

**Numbers** (`Number.ReadsBack`). A number reads back if its text, alone, is read as that number.
Then it is so before any ending as well. The whole numbers of 64 bits, signed or unsigned, read
back.
-/

namespace FeeMarket

namespace Json.Reader

/-! ## Strings -/

/-- The escape of a control character names its code point. -/
theorem read?_escape_control {c : Char} (h : c.toNat < 0x20) :
    Numeral.read? 16 ['0', '0', Numeral.digit (c.toNat / 16), Numeral.digit (c.toNat % 16)] =
      some c.toNat := by
  have table : ∀ n, n < 0x20 →
      Numeral.read? 16 ['0', '0', Numeral.digit (n / 16), Numeral.digit (n % 16)] = some n := by
    decide
  exact table _ h

theorem stringBody_escape (seen : List Char) (c : Char) (rest : List Char) :
    stringBody none seen (escape c ++ rest) = stringBody none (c :: seen) rest := by
  unfold escape
  split
  -- The characters with an escape of one letter.
  iterate 7 rfl
  · rename_i hquote hbackslash _ _ _ _ _
    split
    · rename_i hcontrol
      have hchar : Char.ofNat c.toNat = c := Char.ofNat_toNat c
      have hunit : joinUnit none c.toNat rest = .ok (.inl c) := by
        unfold joinUnit
        simp only
        rw [if_neg (by omega), if_neg (by simp; omega), hchar]
      show stringBody none seen ('\\' :: 'u' :: _ :: _ :: _ :: _ :: rest) = _
      rw [stringBody, read?_escape_control hcontrol]
      simp only
      rw [hunit]
    · rename_i hcontrol
      show stringBody none seen (c :: rest) = _
      rw [stringBody]
      · rw [if_neg (by simp), if_neg hquote, if_neg hcontrol]
      all_goals simp_all

/-- **The quoted text of a string is read as the string.** -/
theorem stringBody_flatMap_escape (seen s rest : List Char) :
    stringBody none seen (s.flatMap escape ++ '"' :: rest) =
      .ok (String.ofList (seen.reverse ++ s), rest) := by
  induction s generalizing seen with
  | nil =>
    rw [List.flatMap_nil, List.nil_append, List.append_nil, stringBody]
    · rw [if_neg (by simp), if_pos rfl]
    all_goals simp
  | cons c s ih =>
    rw [List.flatMap_cons, List.append_assoc, stringBody_escape, ih]
    simp

/-! ## What follows a value -/

/-- The blanks, the comma and the closing brackets. -/
def endings : List Char := [' ', '\n', '\t', '\r', ',', ']', '}']

/-- Nothing follows, or a character that ends a value. -/
def Ends (rest : List Char) : Prop := ∀ c ∈ rest.head?, c ∈ endings

theorem Ends.nil : Ends [] := by simp [Ends]

theorem Ends.cons {c : Char} (h : c ∈ endings) (rest : List Char) : Ends (c :: rest) := by
  simpa [Ends] using h

/-! ## Parts of a number before an ending -/

variable {rest cs r : List Char}

theorem Ends.head_not (h : Ends rest) {p : Char → Bool} (hp : endings.any p = false) :
    rest.head?.any p = false := by
  cases rest with
  | nil => rfl
  | cons c rest => simpa using List.any_eq_false.1 hp c (h c rfl)

theorem takeWhile_append_of_ends {p : Char → Bool} (hrest : rest.head?.any p = false)
    (cs : List Char) :
    (cs ++ rest).takeWhile p = cs.takeWhile p ∧
      (cs ++ rest).dropWhile p = cs.dropWhile p ++ rest := by
  induction cs with
  | nil =>
    cases rest with
    | nil => simp
    | cons c rest =>
      have hc : p c = false := hrest
      simp [hc]
  | cons c cs ih =>
    cases hc : p c with
    | false => simp [hc]
    | true => simpa [hc] using ih

theorem someDigits_append {digits : List Char} (h : Ends rest)
    (hcs : someDigits cs = .ok (digits, r)) :
    someDigits (cs ++ rest) = .ok (digits, r ++ rest) := by
  have hnodigit := h.head_not (p := Char.isDigit) (by decide)
  obtain ⟨htake, hdrop⟩ := takeWhile_append_of_ends hnodigit cs
  unfold someDigits Decimal.spanDigits at hcs ⊢
  simp only [htake, hdrop] at hcs ⊢
  split at hcs
  · cases hcs
  · rename_i hdigits
    cases hcs
    rw [if_neg hdigits]

theorem wholePart_append {digits : List Char} (h : Ends rest)
    (hcs : wholePart cs = .ok (digits, r)) :
    wholePart (cs ++ rest) = .ok (digits, r ++ rest) := by
  unfold wholePart at hcs
  split at hcs
  · split at hcs
    · cases hcs
    · rename_i hafter
      cases hcs
      have hhead : ¬ (r ++ rest).head?.any Char.isDigit = true := by
        cases r with
        | nil => simpa using h.head_not (p := Char.isDigit) (by decide)
        | cons c after => exact hafter
      show wholePart ('0' :: (r ++ rest)) = _
      rw [wholePart, if_neg hhead]
  · rename_i hzero
    have happend := someDigits_append h hcs
    rwa [wholePart]
    -- The digits are not empty, so that no zero comes first after the ending is added either.
    intro after heq
    cases cs with
    | nil => cases hcs
    | cons c cs =>
      cases heq
      exact hzero _ rfl

theorem fractionPart_append {fraction : Option (List Char)} (h : Ends rest)
    (hcs : fractionPart cs = .ok (fraction, r)) :
    fractionPart (cs ++ rest) = .ok (fraction, r ++ rest) := by
  unfold fractionPart at hcs
  split at hcs
  · rename_i after
    cases hdigits : someDigits after with
    | error e =>
      rw [hdigits] at hcs
      cases hcs
    | ok found =>
      rw [hdigits] at hcs
      cases hcs
      show fractionPart ('.' :: (after ++ rest)) = _
      rw [fractionPart, someDigits_append h hdigits]
      rfl
  · rename_i hpoint
    cases hcs
    rw [fractionPart]
    intro after heq
    cases cs with
    | nil =>
      have hhead := h.head_not (p := (· = '.')) (by decide)
      rw [List.nil_append] at heq
      simp [heq] at hhead
    | cons c cs =>
      cases heq
      exact hpoint _ rfl

theorem spanSign_append {digits : List Char}
    (hcs : someDigits (Decimal.spanSign cs).2 = .ok (digits, r)) :
    Decimal.spanSign (cs ++ rest) =
      ((Decimal.spanSign cs).1, (Decimal.spanSign cs).2 ++ rest) := by
  cases cs with
  | nil => cases hcs
  | cons c cs =>
    by_cases hminus : c = '-'
    · subst hminus
      rfl
    · by_cases hplus : c = '+'
      · subst hplus
        rfl
      · simp [Decimal.spanSign, hminus, hplus]

theorem exponentPart_append {exponent : Option (Bool × List Char)} (h : Ends rest)
    (hcs : exponentPart cs = .ok (exponent, r)) :
    exponentPart (cs ++ rest) = .ok (exponent, r ++ rest) := by
  cases cs with
  | nil =>
    cases hcs
    cases rest with
    | nil => rfl
    | cons c rest =>
      have hmark : ¬ (c = 'e' ∨ c = 'E') := by
        simpa using h.head_not (p := fun c => c = 'e' || c = 'E') (by decide)
      show exponentPart (c :: rest) = _
      rw [exponentPart, if_neg hmark]
      rfl
  | cons c cs =>
    show exponentPart (c :: (cs ++ rest)) = _
    rw [exponentPart] at hcs ⊢
    split at hcs
    · rename_i hmark
      rw [if_pos hmark]
      cases hdigits : someDigits (Decimal.spanSign cs).2 with
      | error e =>
        simp only [hdigits] at hcs
        cases hcs
      | ok found =>
        simp only [hdigits] at hcs
        cases hcs
        simp only [spanSign_append hdigits, someDigits_append h hdigits]
        rfl
    · rename_i hmark
      cases hcs
      rw [if_neg hmark]
      rfl

/-! ## Numbers -/

/-- Splits off a minus sign. -/
def spanMinus : List Char → Bool × List Char
  | '-' :: rest => (true, rest)
  | cs => (false, cs)

/-- The number with the given parts, unless it is out of range. -/
def numberOfParts? (negative : Bool) (whole : List Char) (fraction : Option (List Char))
    (exponent : Option (Bool × List Char)) : Option Number :=
  let value := Decimal.digitsValue whole
  let settle (l : Decimal.Literal) : Option Number :=
    if l.toFloat.isFinite then some (.double l.toFloat) else none
  match fraction, exponent with
  | none, none =>
    if ¬ negative ∧ value < UInt64.size then some (.whole value)
    else if negative ∧ 0 < value ∧ Int64.minValue.toInt ≤ -(value : Int) then
      some (.whole (-(value : Int)))
    else settle ⟨negative, value, 0⟩
  | _, _ =>
    let power : Int :=
      match exponent with
      | some (down, digits) =>
        let n : Int := Decimal.digitsValue digits
        if down then -n else n
      | none => 0
    settle (.ofParts negative whole (fraction.getD []) power)

/-- **A number is read part by part.** -/
theorem readNumber_eq_ok {n : Number} :
    readNumber cs = .ok (n, r) ↔ ∃ whole afterWhole fraction afterFraction exponent,
      wholePart (spanMinus cs).2 = .ok (whole, afterWhole) ∧
      fractionPart afterWhole = .ok (fraction, afterFraction) ∧
      exponentPart afterFraction = .ok (exponent, r) ∧
      numberOfParts? (spanMinus cs).1 whole fraction exponent = some n := by
  unfold readNumber
  split
  rename_i negative unsigned hsign
  have hsign : spanMinus cs = (negative, unsigned) := by
    rw [← hsign]
    cases cs with
    | nil => rfl
    | cons c cs =>
      by_cases hc : c = '-'
      · subst hc
        rfl
      · simp [spanMinus, hc]
  simp only [hsign, bind_eq_ok, Prod.exists]
  constructor
  · rintro ⟨whole, afterWhole, hwhole, fraction, afterFraction, hfraction, exponent, rest,
      hexponent, hn⟩
    refine ⟨whole, afterWhole, fraction, afterFraction, exponent, hwhole, hfraction, ?_⟩
    unfold numberOfParts?
    cases fraction <;> cases exponent <;> simp only [] at hn ⊢ <;> split_ifs at hn ⊢ <;>
      cases hn <;> exact ⟨hexponent, rfl⟩
  · rintro ⟨whole, afterWhole, fraction, afterFraction, exponent, hwhole, hfraction, hexponent,
      hparts⟩
    refine ⟨whole, afterWhole, hwhole, fraction, afterFraction, hfraction, exponent, r,
      hexponent, ?_⟩
    unfold numberOfParts? at hparts
    cases fraction <;> cases exponent <;> simp only [] at hparts ⊢ <;>
      split_ifs at hparts ⊢ <;> cases hparts <;> rfl

theorem spanMinus_append (h : Ends rest) (cs : List Char) :
    spanMinus (cs ++ rest) = ((spanMinus cs).1, (spanMinus cs).2 ++ rest) := by
  cases cs with
  | nil =>
    cases rest with
    | nil => rfl
    | cons c rest =>
      have hc : c ≠ '-' := by simpa using h.head_not (p := (· = '-')) (by decide)
      simp [spanMinus, hc]
  | cons c cs =>
    by_cases hc : c = '-'
    · subst hc
      rfl
    · simp [spanMinus, hc]

/-- **A number is read in the same way before any ending.** -/
theorem readNumber_append {n : Number} (h : Ends rest) (hcs : readNumber cs = .ok (n, r)) :
    readNumber (cs ++ rest) = .ok (n, r ++ rest) := by
  obtain ⟨whole, afterWhole, fraction, afterFraction, exponent, hwhole, hfraction, hexponent,
    hparts⟩ := readNumber_eq_ok.1 hcs
  refine readNumber_eq_ok.2 ⟨whole, afterWhole ++ rest, fraction, afterFraction ++ rest, exponent,
    ?_, fractionPart_append h hfraction, exponentPart_append h hexponent, ?_⟩
  · rw [spanMinus_append h]
    exact wholePart_append h hwhole
  · rwa [spanMinus_append h]

theorem head_of_readNumber {n : Number} (hcs : readNumber cs = .ok (n, r)) :
    ∃ c rest, cs = c :: rest ∧ (c = '-' ∨ c.isDigit) := by
  obtain ⟨whole, afterWhole, -, -, -, hwhole, -⟩ := readNumber_eq_ok.1 hcs
  cases cs with
  | nil => cases hwhole
  | cons c cs =>
    refine ⟨c, cs, rfl, ?_⟩
    by_cases hminus : c = '-'
    · exact .inl hminus
    · right
      have hspan : (spanMinus (c :: cs)).2 = c :: cs := by simp [spanMinus, hminus]
      rw [hspan] at hwhole
      by_cases hzero : c = '0'
      · subst hzero
        rfl
      · rw [wholePart] at hwhole
        · refine by_contra fun hdigit => ?_
          simp [someDigits, Decimal.spanDigits, hdigit, stop] at hwhole
        · rintro rest heq
          cases heq
          exact hzero rfl

end Json.Reader

/-! ## Numbers that read back -/

/-- The text of the number is read as the number. -/
def Number.ReadsBack (n : Number) : Prop :=
  Json.Reader.readNumber (Json.numberText n).toList = .ok (n, [])

namespace Numeral

theorem isDigit_of_write {n : Nat} {c : Char} (hc : c ∈ write 10 n) : c.isDigit := by
  obtain ⟨value, hdigit, hvalue⟩ := (Spells.of_write (by decide) (by decide) n).isDigit hc
  have table : ∀ v, v < 10 →
      smallDigits[v]?.all Char.isDigit ∧ capitalDigits[v]?.all Char.isDigit := by decide
  obtain ⟨hsmall, hcapital⟩ := table value hvalue
  rcases hdigit with h | h
  · simpa [h] using hsmall
  · simpa [h] using hcapital

end Numeral

namespace Json.Reader

theorem wholePart_write (n : Nat) :
    wholePart (Numeral.write 10 n) = .ok (Numeral.write 10 n, []) := by
  have hdigits : ∀ c ∈ Numeral.write 10 n, c.isDigit := fun c => Numeral.isDigit_of_write
  by_cases hn : n = 0
  · subst hn
    unfold Numeral.write
    rfl
  · have hleading := Numeral.head?_write_ne_zero (by decide) (by decide : 10 ≤ 16) hn
    rw [wholePart]
    · have hspan : Decimal.spanDigits (Numeral.write 10 n) = (Numeral.write 10 n, []) := by
        rw [Decimal.spanDigits, List.takeWhile_eq_self_iff.2 hdigits,
          List.dropWhile_eq_nil_iff.2 hdigits]
      simp [someDigits, hspan, Numeral.write_ne_nil]
    · intro rest heq
      simp [heq] at hleading

theorem digitsValue_write (n : Nat) : Decimal.digitsValue (Numeral.write 10 n) = n := by
  rw [Decimal.digitsValue, Numeral.readFrom?_write (by decide) (by decide)]
  rfl

end Json.Reader

open Json Json.Reader in
/-- **The whole numbers of 64 bits read back**, the negative ones and the unsigned ones. -/
theorem Number.ReadsBack.whole {i : Int} (hlow : Int64.minValue.toInt ≤ i)
    (hhigh : i < UInt64.size) : (Number.whole i).ReadsBack := by
  cases i with
  | ofNat n =>
    have hspan : spanMinus (numberText (.whole (.ofNat n))).toList =
        (false, Numeral.write 10 n) := by
      rw [numberText, Numeral.decimal, String.toList_ofList]
      cases h : Numeral.write 10 n with
      | nil => rfl
      | cons c rest =>
        have hc : c.isDigit := Numeral.isDigit_of_write (h ▸ List.mem_cons_self)
        have hminus : c ≠ '-' := by
          rintro rfl
          cases hc
        simp [spanMinus, hminus]
    refine readNumber_eq_ok.2 ⟨Numeral.write 10 n, [], none, [], none, ?_, rfl, rfl, ?_⟩
    · rw [hspan, wholePart_write]
    · have hn : n < UInt64.size := Int.ofNat_lt.1 hhigh
      rw [hspan, numberOfParts?, digitsValue_write, if_pos ⟨by simp, hn⟩]
      rfl
  | negSucc n =>
    have hspan : spanMinus (numberText (.whole (.negSucc n))).toList =
        (true, Numeral.write 10 (n + 1)) := by
      simp [numberText, Numeral.decimal, spanMinus]
    refine readNumber_eq_ok.2 ⟨Numeral.write 10 (n + 1), [], none, [], none, ?_, rfl, rfl, ?_⟩
    · rw [hspan, wholePart_write]
    · rw [hspan, numberOfParts?, digitsValue_write, if_neg (by simp),
        if_pos ⟨rfl, Nat.succ_pos n, hlow⟩]
      rfl

end FeeMarket
