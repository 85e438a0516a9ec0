import FeeMarket.Selector
import FeeMarket.Proofs.Json.Codec

/-!
# Which texts name a block

**Signed numeral** (`Numeral.Signed`). A numeral, or a plus sign and a numeral.

**Names** (`Selector.Names`). The grammar of selectors: a signed decimal numeral, `0x` and a signed
hexadecimal numeral, or one of three words. Numerals may have any count of leading zeros, but they
stand for a word.

A text is read as a selector just if it names that selector, and is the error itself otherwise
(`Selector.parse_eq_ok_iff`, `Selector.parse_eq_error_iff`). A reader undoes both writers, of which
one is decimal and the other hexadecimal.

Main statement: `selector_text_format`.
-/

namespace FeeMarket

namespace Numeral

/-- A numeral, or a plus sign and a numeral. -/
def Signed (base : Nat) (cs : List Char) (n : Nat) : Prop :=
  Spells base cs n ∨ ∃ digits, cs = '+' :: digits ∧ Spells base digits n

theorem not_isDigit {c : Char} (hsmall : c ∉ smallDigits) (hcapital : c ∉ capitalDigits)
    (value : Nat) : ¬ IsDigit c value := by
  rintro (h | h)
  · exact hsmall (List.mem_of_getElem? h)
  · exact hcapital (List.mem_of_getElem? h)

theorem not_spells_plus {base n : Nat} (digits : List Char) : ¬ Spells base ('+' :: digits) n := by
  intro h
  obtain ⟨value, hdigit, -⟩ := h.isDigit (.head _)
  exact not_isDigit (by decide) (by decide) value hdigit

end Numeral

open Numeral

theorem Word.read?_eq_some_iff {base : Nat} (hb : base ≤ 16) {cs : List Char} {w : UInt64} :
    Word.read? base cs = some w ↔ Signed base cs w.toNat := by
  have hbind (digits : List Char) :
      (Numeral.read? base digits).bind ofNat? = some w ↔ Spells base digits w.toNat := by
    simp only [Option.bind_eq_some_iff, ofNat?_eq_some, exists_eq_right,
      Numeral.read?_eq_some_iff hb]
  unfold Word.read? Signed
  split
  · rename_i digits
    rw [hbind]
    simp [not_spells_plus]
  · rename_i hplus
    rw [hbind]
    constructor
    · exact .inl
    · rintro (h | ⟨digits, rfl, -⟩)
      · exact h
      · exact absurd rfl (hplus digits)

namespace Selector

/-- The grammar of selectors. -/
def Names (text : String) : Selector → Prop
  | .number n =>
    Signed 10 text.toList n.toNat ∨
      ∃ rest, text.toList = '0' :: 'x' :: rest ∧ Signed 16 rest n.toNat
  | .latest => text = "latest"
  | .pending => text = "pending"
  | .finalized => text = "finalized"

theorem readNumber?_eq_some_iff {cs : List Char} {n : UInt64} :
    readNumber? cs = some n ↔
      Signed 10 cs n.toNat ∨ ∃ rest, cs = '0' :: 'x' :: rest ∧ Signed 16 rest n.toNat := by
  unfold readNumber?
  split
  · rename_i digits
    -- The mark is no decimal numeral.
    have hmark : ¬ Signed 10 ('0' :: 'x' :: digits) n.toNat := by
      rintro (h | ⟨_, h, -⟩)
      · obtain ⟨value, hdigit, -⟩ := h.isDigit (.tail _ (.head _))
        exact not_isDigit (by decide) (by decide) value hdigit
      · cases h
    rw [Word.read?_eq_some_iff (by decide)]
    simp [hmark]
  · rename_i hmark
    rw [Word.read?_eq_some_iff (by decide)]
    constructor
    · exact .inl
    · rintro (h | ⟨rest, rfl, -⟩)
      · exact h
      · exact absurd rfl (hmark rest)

theorem not_names_number {text : String} (h : text ∈ ["latest", "pending", "finalized"])
    (n : UInt64) : ¬ Names text (.number n) := by
  intro hnames
  have hread : readNumber? text.toList = some n := readNumber?_eq_some_iff.2 hnames
  have hnone : readNumber? text.toList = none := by
    simp only [List.mem_cons, List.not_mem_nil, or_false] at h
    obtain rfl | rfl | rfl := h <;> decide
  cases hread.symm.trans hnone

/-- **A text is read as the selector that it names.** -/
theorem read?_eq_some_iff {text : String} {s : Selector} :
    read? text = some s ↔ Names text s := by
  unfold read?
  by_cases hlatest : text = "latest"
  · subst hlatest
    cases s with
    | number n => simp [not_names_number]
    | _ => simp [Names]
  · by_cases hpending : text = "pending"
    · subst hpending
      cases s with
      | number n => simp [not_names_number]
      | _ => simp [Names]
    · by_cases hfinalized : text = "finalized"
      · subst hfinalized
        cases s with
        | number n => simp [not_names_number]
        | _ => simp [Names]
      · rw [if_neg hlatest, if_neg hpending, if_neg hfinalized, Option.map_eq_some_iff]
        cases s with
        | number n =>
          simp only [Selector.number.injEq, exists_eq_right]
          exact readNumber?_eq_some_iff
        | _ => simp [Names, *]

theorem parse_eq_ok_iff {text : String} {s : Selector} : parse text = .ok s ↔ Names text s := by
  rw [← read?_eq_some_iff, parse]
  cases read? text <;> simp

theorem parse_eq_error_iff {text : String} {e : InvalidSelector} :
    parse text = .error e ↔ e = ⟨text⟩ ∧ ∀ s, ¬ Names text s := by
  simp only [← read?_eq_some_iff, parse]
  cases read? text with
  | none => simp [eq_comm]
  | some s => simp

/-! ## Reading what was written -/

theorem parse_display (s : Selector) : parse s.display = .ok s := by
  rw [parse_eq_ok_iff]
  cases s with
  | number n =>
    left
    left
    rw [display, Word.toDecimal, Numeral.decimal, String.toList_ofList]
    exact .of_write (by decide) (by decide) n.toNat
  | _ => rfl

/-- The text of a number in JSON is `0x` and its shortest hexadecimal numeral. -/
theorem toList_jsonText_number (n : UInt64) :
    (jsonText (.number n)).toList = '0' :: 'x' :: Numeral.write 16 n.toNat := by
  rw [jsonText, Word.toHex, Quantity.toString, String.toList_ofList, Quantity.write]

theorem parse_jsonText (s : Selector) : parse s.jsonText = .ok s := by
  cases s with
  | number n =>
    rw [parse_eq_ok_iff]
    exact .inr ⟨_, toList_jsonText_number n, .inl (.of_write (by decide) (by decide) _)⟩
  | latest => exact parse_display .latest
  | pending => exact parse_display .pending
  | finalized => exact parse_display .finalized

/-- What decodes is a string that names the selector. -/
theorem decode_eq_ok_iff {v : Json} {s : Selector} :
    decode v = .ok s ↔ ∃ text, v = .string text ∧ Names text s := by
  cases v with
  | string text =>
    simp only [decode, Json.string.injEq, exists_eq_left', ← parse_eq_ok_iff]
    cases parse text <;> simp [Except.mapError]
  | _ => simp [decode]

/-- A string that does not decode is the error, which says the same as that of parsing. -/
theorem error_of_decode {text : String} {e : DecodeError} (h : decode (.string text) = .error e) :
    parse text = .error ⟨text⟩ ∧ e.message? = some (InvalidSelector.message ⟨text⟩) := by
  cases hparse : parse text with
  | ok s =>
    rw [decode, hparse] at h
    cases h
  | error own =>
    obtain ⟨rfl, -⟩ := parse_eq_error_iff.1 hparse
    rw [decode, hparse] at h
    cases h
    exact ⟨rfl, rfl⟩

theorem decodes (s : Selector) : Json.Decodes decode s.encode s := by
  have hnames : Names s.jsonText s := parse_eq_ok_iff.1 s.parse_jsonText
  have hdecode : decode (.string s.jsonText) = .ok s := decode_eq_ok_iff.2 ⟨_, rfl, hnames⟩
  intro inOrder
  cases inOrder <;> exact hdecode

end Selector

open Json Selector

/-- **The text format of selectors.** A text is parsed as a selector just if it names it, and is
the error otherwise; a JSON value decodes just if it is a string that names a selector, and a
string that does not has the same message. The text for readers and the text in JSON of a selector
both give it back. The number in JSON is hexadecimal, with small letters and no leading zero, so
that a text that was parsed and written once stays as it is. -/
theorem selector_text_format :
    (∀ text s, parse text = .ok s ↔ Names text s) ∧
    (∀ text e, parse text = .error e ↔ e = ⟨text⟩ ∧ ∀ s, ¬ Names text s) ∧
    (∀ v s, decode v = .ok s ↔ ∃ text, v = .string text ∧ Names text s) ∧
    (∀ text e, decode (.string text) = .error e →
      parse text = .error ⟨text⟩ ∧ e.message? = some (InvalidSelector.message ⟨text⟩)) ∧
    (∀ s, parse (display s) = .ok s) ∧
    (∀ s, parse (jsonText s) = .ok s) ∧
    Lossless encode decode ∧
    (∀ n, ∃ digits, (jsonText (.number n)).toList = '0' :: 'x' :: digits ∧
      Spells 16 digits n.toNat ∧ IsShortest digits) ∧
    ∀ text text', (parse text).map jsonText = .ok text' →
      (parse text').map jsonText = .ok text' := by
  refine ⟨fun _ _ => parse_eq_ok_iff, fun _ _ => parse_eq_error_iff, fun _ _ => decode_eq_ok_iff,
    fun _ _ => error_of_decode, parse_display, parse_jsonText, ?_, fun n => ?_, ?_⟩
  · exact .of_decodes decodes (fun _ => .string _) (by decide)
  · exact ⟨_, toList_jsonText_number n, .of_write (by decide) (by decide) _,
      isShortest_write (by decide) (by decide) _⟩
  · intro text text' htext
    cases hparse : parse text with
    | error e =>
      rw [hparse] at htext
      cases htext
    | ok s =>
      rw [hparse] at htext
      cases htext
      rw [parse_jsonText]
      rfl

theorem selector_text_format_signed_hex :
    ((parse "0x+00Ff").map jsonText = .ok "0xff" ∧ (parse "0xff").map jsonText = .ok "0xff") ∧
      decode (.string "0X1") = .error (.selector "0X1") ∧ parse "0X1" = .error ⟨"0X1"⟩ := by
  have hwritten : (parse "0x+00Ff").map jsonText = .ok "0xff" := by decide +kernel
  have hrefused : decode (.string "0X1") = .error (.selector "0X1") := by decide +kernel
  obtain ⟨-, -, -, hmessage, -, -, -, -, hidempotent⟩ := selector_text_format
  exact ⟨⟨hwritten, hidempotent _ _ hwritten⟩, hrefused, (hmessage _ _ hrefused).1⟩

example : ["", "+", "0x", "0X1", "-1", " 1", "0x0x1", "18446744073709551616"].all
    (fun text => parse text = .error ⟨text⟩) = true := by decide +kernel

end FeeMarket
