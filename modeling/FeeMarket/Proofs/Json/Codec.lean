import FeeMarket.Block
import FeeMarket.Proofs.Json.Text
import FeeMarket.Proofs.Quantity

/-!
# Decoding what was written

**Arrangement** (`Json.arranged`). A written value reaches a decoder as it stands, or in order when
it went through a text.

**Decodes** (`Json.Decodes`). A JSON value that gives the same value of the data model in either
arrangement.

**Shallow** (`Json.Shallow`). A JSON value whose containers are nested no deeper than a given depth,
and whose numbers read back.

**Lossless** (`Json.Lossless`). Whatever is written is got back, from the JSON value and from its
text in both layouts; and a text that was decoded and written once does not change any more
(`Json.Lossless.of_decodes`).
-/

namespace FeeMarket

namespace Json

variable {α : Type} {decode : Json → Decoded α} {depth : Nat} {a : α}

/-! ## Fields in order -/

theorem lookup_cons_eq (key name : String) (value : Json) (fields : List (String × Json)) :
    ((name, value) :: fields).lookup key =
      if key = name then some value else fields.lookup key := by
  by_cases h : key = name
  · simp [h]
  · rw [List.lookup_cons, beq_false_of_ne h, if_neg h]

theorem lookup_insertField (key name : String) (value : Json) (fields : List (String × Json)) :
    (insertField name value fields).lookup key =
      if key = name then some value else fields.lookup key := by
  induction fields with
  | nil => rw [insertField, lookup_cons_eq]
  | cons field rest ih =>
    obtain ⟨other, kept⟩ := field
    rw [insertField]
    split
    · rw [lookup_cons_eq]
    · split
      · rename_i hother
        simp only [lookup_cons_eq, ← hother]
        split <;> rfl
      · rename_i hother
        rw [lookup_cons_eq, ih, lookup_cons_eq]
        split
        · rename_i hkey
          rw [if_neg (hkey ▸ Ne.symm hother)]
        · rfl

/-- Fields in order have the values they had, the last one for each name. -/
theorem lookup_sortFields (key : String) (fields : List (String × Json)) :
    (sortFields fields).lookup key = fields.reverse.lookup key := by
  have hfold (sorted : List (String × Json)) :
      (fields.foldl (fun sorted field => insertField field.1 field.2 sorted) sorted).lookup key =
        (fields.reverse.lookup key).or (sorted.lookup key) := by
    induction fields generalizing sorted with
    | nil => rfl
    | cons field rest ih =>
      rw [List.foldl_cons, ih, lookup_insertField, List.reverse_cons, List.lookup_append,
        lookup_cons_eq]
      cases rest.reverse.lookup key with
      | some value => rfl
      | none => split <;> rfl
  rw [sortFields, hfold]
  cases fields.reverse.lookup key <;> rfl

theorem lookup_reverse {fields : List (String × Json)} (distinct : (fields.map Prod.fst).Nodup)
    (key : String) : fields.reverse.lookup key = fields.lookup key := by
  induction fields with
  | nil => rfl
  | cons field rest ih =>
    obtain ⟨name, value⟩ := field
    rw [List.map_cons, List.nodup_cons] at distinct
    rw [List.reverse_cons, List.lookup_append, ih distinct.2, lookup_cons_eq, lookup_cons_eq]
    split
    · rename_i hkey
      have hrest : rest.lookup key = none := by
        rw [List.lookup_eq_none_iff]
        intro field hfield
        rw [bne_iff_ne]
        rintro rfl
        exact distinct.1 (List.mem_map.2 ⟨field, hfield, hkey⟩)
      rw [hrest]
      rfl
    · cases rest.lookup key <;> rfl

theorem lookup_map_sorted (key : String) (fields : List (String × Json)) :
    (fields.map fun field => (field.1, field.2.sorted)).lookup key =
      (fields.lookup key).map sorted := by
  induction fields with
  | nil => rfl
  | cons field rest ih =>
    rw [List.map_cons, lookup_cons_eq, ih, lookup_cons_eq]
    split <;> rfl

/-! ## Values in either arrangement -/

/-- The value as it stands, or in order. -/
def arranged (inOrder : Bool) (v : Json) : Json := if inOrder then v.sorted else v

/-- The value decodes to `a` in either arrangement. -/
def Decodes (decode : Json → Decoded α) (v : Json) (a : α) : Prop :=
  ∀ inOrder, decode (v.arranged inOrder) = .ok a

namespace Decodes

theorem word (w : UInt64) : Decodes Decode.word (.word w) w := by
  have hdecode : Decode.word (.word w) = .ok w := by
    show Decode.word (.number (.whole (.ofNat w.toNat))) = _
    rw [Decode.word, Word.ofNat?_toNat]
  intro inOrder
  cases inOrder <;> exact hdecode

theorem double (f : Float) : Decodes Decode.double (.number (.double f)) f := by
  intro inOrder
  cases inOrder <;> rfl

theorem text {read? : String → Option α} {s : String} (h : read? s = some a) :
    Decodes (Decode.text read?) (.string s) a := by
  have hdecode : Decode.text read? (.string s) = .ok a := by rw [Decode.text, h]
  intro inOrder
  cases inOrder <;> exact hdecode

theorem hash (h : Hash) : Decodes Decode.hash h.encode h := text h.ofHex?_toHex

theorem wei (w : Wei) : Decodes Decode.wei w.encode w := text w.ofHex?_toHex

theorem quantity (w : UInt64) : Decodes Decode.quantity (.string (Word.toHex w)) w :=
  text (Word.ofHex?_toHex w)

/-- Null stands for absence, where it does not decode by itself. -/
theorem nullable {encode : α → Json} (hnull : ∀ a, decode .null ≠ .ok a)
    (h : ∀ a, Decodes decode (encode a) a) (o : Option α) :
    Decodes (Decode.nullable decode) (.nullable encode o) o := by
  intro inOrder
  cases o with
  | none => cases inOrder <;> rfl
  | some a =>
    have hdecoded := h a inOrder
    show Decode.nullable decode ((encode a).arranged inOrder) = _
    rw [Decode.nullable, hdecoded]
    · rfl
    · intro hv
      rw [hv] at hdecoded
      exact hnull a hdecoded

theorem list {encode : α → Json} (h : ∀ a, Decodes decode (encode a) a) (as : List α) :
    Decodes (Decode.list decode) (.list encode as) as := by
  intro inOrder
  have harranged : (Json.list encode as).arranged inOrder =
      .array (as.map fun a => (encode a).arranged inOrder) := by
    cases inOrder with
    | false => rfl
    | true =>
      show sorted (.array _) = _
      rw [sorted, sortedItems_eq_map, List.map_map]
      rfl
  rw [harranged, Decode.list]
  exact mapM_map_eq_ok (fun a => h a inOrder) as

end Decodes

/-- Fields that offer what some written ones do, arranged. -/
def Offers (own fields : List (String × Json)) (inOrder : Bool) : Prop :=
  ∀ name, own.lookup name = (fields.lookup name).map (arranged inOrder)

section Offers

variable {own fields : List (String × Json)} {inOrder : Bool} {v : Json}

theorem Offers.visit (hown : Offers own fields inOrder) (name : String)
    (hv : Decodes decode v a) (hname : fields.lookup name = some v) :
    Decode.Record.visit ⟨own, true⟩ name decode = .ok (some a) := by
  rw [Decode.Record.visit, hown name, hname]
  show (decode (v.arranged inOrder)).map some = _
  rw [hv inOrder]
  rfl

/-- A field that is read by its name alone gives the same. -/
theorem Offers.field (hown : Offers own fields inOrder) (name : String)
    (hv : Decodes decode v a) (hname : fields.lookup name = some v) :
    decode ((Json.object own).field name) = .ok a := by
  show decode ((own.lookup name).getD .null) = _
  rw [hown name, hname]
  exact hv inOrder

theorem Offers.field? (hown : Offers own fields inOrder) (name : String)
    (hv : Decodes decode v a) (hname : fields.lookup name = some v) :
    ((Json.object own).field? name).mapM decode = .ok (some a) := by
  show (own.lookup name).mapM decode = _
  rw [hown name, hname]
  show (decode (v.arranged inOrder) >>= fun b => pure (some b)) = _
  rw [hv inOrder]
  rfl

theorem Offers.visit_optional {β : Type} {encode : β → Json} {f : β → α} {o : Option β}
    (hown : Offers own fields inOrder) (name : String) (hv : ∀ b, Decodes decode (encode b) (f b))
    (hname : fields.lookup name = o.map encode) :
    Decode.Record.visit ⟨own, true⟩ name decode = .ok (o.map f) := by
  cases o with
  | none =>
    rw [Decode.Record.visit, hown name, hname]
    rfl
  | some b => exact hown.visit name (hv b) hname

/-- An object decodes as its fields do, however they are arranged. -/
theorem Decodes.record (distinct : (fields.map Prod.fst).Nodup)
    (h : ∀ own inOrder, Offers own fields inOrder → decode (.object own) = .ok a) :
    Decodes decode (.object fields) a := by
  intro inOrder
  cases inOrder with
  | false =>
    refine h fields false fun name => ?_
    cases fields.lookup name <;> rfl
  | true =>
    refine h _ true fun name => ?_
    rw [sortedFields_eq_map, lookup_sortFields, lookup_reverse, lookup_map_sorted]
    · rfl
    · simpa [Function.comp_def] using distinct

end Offers

/-! ## Values that fit into a text -/

/-- Containers nested no deeper than `depth`, and numbers that read back. -/
def Shallow (depth : Nat) (v : Json) : Prop := ∀ room, depth ≤ room → Readable room v

namespace Shallow

theorem mono {depth' : Nat} {v : Json} (h : Shallow depth v) (hle : depth ≤ depth') :
    Shallow depth' v := fun room hroom => h room (hle.trans hroom)

theorem word (w : UInt64) : Shallow 0 (.word w) := by
  have hlow : Int64.minValue.toInt ≤ 0 := by decide
  exact fun _ _ =>
    .number (.whole (hlow.trans (Int.natCast_nonneg _)) (Int.ofNat_lt.2 w.toNat_lt))

theorem string (s : String) : Shallow 0 (.string s) := fun _ _ => .string

theorem nullable {encode : α → Json} (h : ∀ a, Shallow depth (encode a)) (o : Option α) :
    Shallow depth (.nullable encode o) := by
  cases o with
  | none => exact fun _ _ => .null
  | some a => exact h a

theorem list {encode : α → Json} {as : List α} (h : ∀ a ∈ as, Shallow depth (encode a)) :
    Shallow (depth + 1) (.list encode as) := by
  intro room hroom
  obtain ⟨room, rfl⟩ : ∃ inner, room = inner + 1 := ⟨room - 1, by omega⟩
  refine .array fun v hv => ?_
  obtain ⟨a, ha, rfl⟩ := List.mem_map.1 hv
  exact h a ha room (by omega)

theorem object {fields : List (String × Json)}
    (h : fields.Forall fun field => Shallow depth field.2) :
    Shallow (depth + 1) (.object fields) := by
  intro room hroom
  obtain ⟨room, rfl⟩ : ∃ inner, room = inner + 1 := ⟨room - 1, by omega⟩
  rw [List.forall_iff_forall_mem] at h
  exact .object fun field hfield => h field hfield room (by omega)

end Shallow

/-! ## Texts -/

/-- Reads a text and decodes its value. -/
def readAs (decode : Json → Decoded α) (text : String) : Option α :=
  (read? text).bind fun v => (decode v).toOption

/-- Decodes a text and writes it again. -/
def rewrite (encode : α → Json) (decode : Json → Decoded α) (text : String) : Option String :=
  (readAs decode text).map fun a => compact (encode a)

theorem readAs_compact {v : Json} (hv : Decodes decode v a) (hs : Shallow Reader.maxDepth v) :
    readAs decode (compact v) = some a := by
  have hread := (hs _ (Nat.le_refl _)).read_compact
  rw [readAs, read?, hread]
  show (decode v.sorted).toOption = _
  rw [show decode v.sorted = .ok a from hv true]
  rfl

theorem readAs_indented {v : Json} (hv : Decodes decode v a) (hs : Shallow Reader.maxDepth v) :
    readAs decode (indented v) = some a := by
  have hread := (hs _ (Nat.le_refl _)).read_indented
  rw [readAs, read?, hread]
  show (decode v.sorted).toOption = _
  rw [show decode v.sorted = .ok a from hv true]
  rfl

/-- What is written is got back. -/
structure Lossless (encode : α → Json) (decode : Json → Decoded α) : Prop where
  /-- From the JSON value. -/
  value (a : α) : decode (encode a) = .ok a
  /-- From the text without blanks. -/
  compact (a : α) : readAs decode (compact (encode a)) = some a
  /-- From the text over several lines. -/
  indented (a : α) : readAs decode (indented (encode a)) = some a
  /-- A value that was decoded is got back from what is written for it. -/
  redecoded {v : Json} {a : α} : decode v = .ok a → decode (encode a) = decode v
  /-- A text that was decoded and written decodes to the same value, and is written as it is. -/
  rewritten {text text' : String} : rewrite encode decode text = some text' →
    readAs decode text' = readAs decode text ∧ rewrite encode decode text' = some text'

theorem Lossless.of_decodes {encode : α → Json} (hdecodes : ∀ a, Decodes decode (encode a) a)
    (hshallow : ∀ a, Shallow depth (encode a)) (hdepth : depth ≤ Reader.maxDepth) :
    Lossless encode decode := by
  have hcompact (a : α) : readAs decode (Json.compact (encode a)) = some a :=
    readAs_compact (hdecodes a) ((hshallow a).mono hdepth)
  refine ⟨fun a => hdecodes a false, hcompact,
    fun a => readAs_indented (hdecodes a) ((hshallow a).mono hdepth), ?_, ?_⟩
  · intro v a hv
    rw [hv]
    exact hdecodes a false
  · intro text text' htext
    obtain ⟨a, ha, rfl⟩ := Option.map_eq_some_iff.1 htext
    refine ⟨by rw [hcompact a, ha], ?_⟩
    rw [rewrite, hcompact a]
    rfl

end Json

end FeeMarket
