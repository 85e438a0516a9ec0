import FeeMarket.Proofs.Json.Leaf

/-!
# Reading the text of a JSON value

**Layout** (`Json.Layout`). The blanks that a writer puts at the line breaks of each depth and after
a colon. The compact text has none (`toList_compact`); the indented text has a line break and two
spaces for each level, and a space after each colon (`toList_indented`).

**Sorted** (`Json.sorted`). A reader keeps the fields of an object in the order of their names, the
last value for each name. What it makes of a written value is that value with each object put in
this order.

**Readable** (`Json.Readable`). The containers of the value are nested no deeper than there is
room, and its numbers read back.

Main statement: `Readable.read_eq_ok`: the text of a readable value, in any layout, is read as the
value in order.
-/

namespace FeeMarket.Json

/-! ## Values in order -/

mutual

/-- The value with the fields of each object in the order of their names. -/
def sorted : Json → Json
  | .array items => .array (sortedItems items)
  | .object fields => ofFields (sortedFields fields)
  | v => v

/-- The items, each in order. -/
def sortedItems : List Json → List Json
  | [] => []
  | item :: rest => sorted item :: sortedItems rest

/-- The fields, each value in order. -/
def sortedFields : List (String × Json) → List (String × Json)
  | [] => []
  | (name, value) :: rest => (name, sorted value) :: sortedFields rest

end

@[simp] theorem sortedItems_eq_map (items : List Json) : sortedItems items = items.map sorted := by
  induction items with
  | nil => rfl
  | cons item rest ih => rw [sortedItems, ih, List.map_cons]

@[simp] theorem sortedFields_eq_map (fields : List (String × Json)) :
    sortedFields fields = fields.map fun field => (field.1, field.2.sorted) := by
  induction fields with
  | nil => rfl
  | cons field rest ih => rw [sortedFields, ih, List.map_cons]

/-! ## Layouts -/

/-- Where a writer puts blanks. -/
structure Layout where
  lineBreak : Nat → List Char
  afterColon : List Char
  blank_lineBreak : ∀ depth, Reader.skipBlank (lineBreak depth) = []
  blank_afterColon : Reader.skipBlank afterColon = []

namespace Layout

/-- No blanks. -/
def tight : Layout := ⟨fun _ => [], [], fun _ => rfl, rfl⟩

/-- Line breaks with two spaces for each level of depth, and a space after a colon. -/
def spread : Layout where
  lineBreak depth := '\n' :: List.replicate (2 * depth) ' '
  afterColon := [' ']
  blank_lineBreak depth := by simp [Reader.skipBlank]
  blank_afterColon := rfl

/-- The texts of the parts of a container, each on a line of its own. -/
def enclose (l : Layout) (depth : Nat) : List (List Char) → List Char
  | [] => []
  | part :: parts =>
    l.lineBreak (depth + 1) ++ part
      ++ (parts.flatMap fun part => ',' :: (l.lineBreak (depth + 1) ++ part)) ++ l.lineBreak depth

mutual

/-- The text of a value at a depth. -/
def text (l : Layout) (depth : Nat) : Json → List Char
  | .array items => '[' :: (l.enclose depth (itemTexts l (depth + 1) items) ++ [']'])
  | .object fields => '\x7b' :: (l.enclose depth (fieldTexts l (depth + 1) fields) ++ ['\x7d'])
  | .null => ['n', 'u', 'l', 'l']
  | .bool true => ['t', 'r', 'u', 'e']
  | .bool false => ['f', 'a', 'l', 's', 'e']
  | .number n => (numberText n).toList
  | .string s => (quote s).toList

/-- The texts of the items of an array. -/
def itemTexts (l : Layout) (depth : Nat) : List Json → List (List Char)
  | [] => []
  | item :: rest => text l depth item :: itemTexts l depth rest

/-- The texts of the fields of an object. -/
def fieldTexts (l : Layout) (depth : Nat) : List (String × Json) → List (List Char)
  | [] => []
  | (name, value) :: rest =>
    ((quote name).toList ++ ':' :: (l.afterColon ++ text l depth value)) :: fieldTexts l depth rest

end

end Layout

/-! ## The two layouts of the writer -/

theorem intercalate_cons {α : Type} (sep part : List α) (parts : List (List α)) :
    sep.intercalate (part :: parts) = part ++ parts.flatMap (sep ++ ·) := by
  induction parts generalizing part with
  | nil => simp [List.intercalate]
  | cons next parts ih =>
    rw [List.intercalate_cons_cons, ih, List.flatMap_cons, List.append_assoc, List.append_assoc]

theorem enclose_tight (depth : Nat) (parts : List (List Char)) :
    Layout.tight.enclose depth parts = [','].intercalate parts := by
  cases parts with
  | nil => rfl
  | cons part parts =>
    rw [intercalate_cons]
    simp [Layout.enclose, Layout.tight]

mutual

/-- **The compact text has no blanks.** -/
theorem toList_compact (depth : Nat) : (v : Json) →
    (compact v).toList = Layout.tight.text depth v
  | .array items => by
    rw [compact, Layout.text, ← map_toList_compactItems (depth + 1) items, enclose_tight]
    simp [String.toList_append, String.toList_intercalate]
  | .object fields => by
    rw [compact, Layout.text, ← map_toList_compactFields (depth + 1) fields, enclose_tight]
    simp [String.toList_append, String.toList_intercalate]
  | .null => by simp [compact, Layout.text]
  | .bool true => by simp [compact, Layout.text]
  | .bool false => by simp [compact, Layout.text]
  | .number _ => by rw [compact, Layout.text]
  | .string _ => by rw [compact, Layout.text]

theorem map_toList_compactItems (depth : Nat) : (items : List Json) →
    (compactItems items).map String.toList = Layout.tight.itemTexts depth items
  | [] => rfl
  | item :: rest => by
    rw [compactItems, Layout.itemTexts, List.map_cons, toList_compact depth item,
      map_toList_compactItems depth rest]

theorem map_toList_compactFields (depth : Nat) : (fields : List (String × Json)) →
    (compactFields fields).map String.toList = Layout.tight.fieldTexts depth fields
  | [] => rfl
  | (name, value) :: rest => by
    rw [compactFields, Layout.fieldTexts, List.map_cons, ← toList_compact depth value,
      map_toList_compactFields depth rest]
    simp [Layout.tight, String.toList_append]

end

theorem toList_block (opening closing : String) (depth : Nat) (parts : List String) :
    (block opening closing depth parts).toList =
      opening.toList
        ++ (Layout.spread.enclose depth (parts.map String.toList) ++ closing.toList) := by
  cases parts with
  | nil => simp [block, Layout.enclose, String.toList_append]
  | cons part parts =>
    have hbreak (d : Nat) : (breakLine d).toList = Layout.spread.lineBreak d := by
      rw [breakLine, String.toList_ofList]
      rfl
    rw [block, if_neg (by simp)]
    simp [Layout.enclose, String.toList_append, String.toList_intercalate, intercalate_cons, hbreak]

mutual

/-- **The indented text breaks lines and puts a space after a colon.** -/
theorem toList_indentedAt (depth : Nat) : (v : Json) →
    (indentedAt depth v).toList = Layout.spread.text depth v
  | .array items => by
    rw [indentedAt, Layout.text, toList_block, map_toList_indentedItems (depth + 1) items]
    rfl
  | .object fields => by
    rw [indentedAt, Layout.text, toList_block, map_toList_indentedFields (depth + 1) fields]
    rfl
  | .null => by simp [indentedAt, Layout.text]
  | .bool true => by simp [indentedAt, Layout.text]
  | .bool false => by simp [indentedAt, Layout.text]
  | .number _ => by rw [indentedAt, Layout.text]
  | .string _ => by rw [indentedAt, Layout.text]

theorem map_toList_indentedItems (depth : Nat) : (items : List Json) →
    (indentedItems depth items).map String.toList = Layout.spread.itemTexts depth items
  | [] => rfl
  | item :: rest => by
    rw [indentedItems, Layout.itemTexts, List.map_cons, toList_indentedAt depth item,
      map_toList_indentedItems depth rest]

theorem map_toList_indentedFields (depth : Nat) : (fields : List (String × Json)) →
    (indentedFields depth fields).map String.toList = Layout.spread.fieldTexts depth fields
  | [] => rfl
  | (name, value) :: rest => by
    rw [indentedFields, Layout.fieldTexts, List.map_cons, ← toList_indentedAt depth value,
      map_toList_indentedFields depth rest]
    simp [Layout.spread, String.toList_append]

end

/-! ## Readable values -/

/-- Containers nested no deeper than there is room, and numbers that read back. -/
inductive Readable : Nat → Json → Prop where
  | null {room : Nat} : Readable room .null
  | bool {room : Nat} {b : Bool} : Readable room (.bool b)
  | number {room : Nat} {n : Number} (back : n.ReadsBack) : Readable room (.number n)
  | string {room : Nat} {s : String} : Readable room (.string s)
  | array {room : Nat} {items : List Json} (each : ∀ item ∈ items, Readable room item) :
      Readable (room + 1) (.array items)
  | object {room : Nat} {fields : List (String × Json)}
      (each : ∀ field ∈ fields, Readable room field.2) : Readable (room + 1) (.object fields)

/-! ## Reading -/

namespace Reader

variable {room fuel : Nat} {blank cs rest : List Char} {c : Char}

theorem skipBlank_cons (hc : c ∉ endings ∨ c = ',' ∨ c = ']' ∨ c = '}') :
    skipBlank (c :: cs) = c :: cs := by
  have hblank : ¬ (c = ' ' ∨ c = '\n' ∨ c = '\t' ∨ c = '\r') := by
    rintro (rfl | rfl | rfl | rfl) <;> revert hc <;> decide
  simpa [skipBlank] using hblank

theorem skipBlank_append (hblank : skipBlank blank = [])
    (hc : c ∉ endings ∨ c = ',' ∨ c = ']' ∨ c = '}') :
    skipBlank (blank ++ c :: cs) = c :: cs := by
  have hcs : skipBlank (c :: cs) = c :: cs := skipBlank_cons hc
  unfold skipBlank at hblank hcs ⊢
  rw [List.dropWhile_append, hblank, hcs]
  rfl

theorem Ends.append (hblank : skipBlank blank = []) (hc : c ∈ endings) (rest : List Char) :
    Ends (blank ++ c :: rest) := by
  cases blank with
  | nil => exact Ends.cons hc rest
  | cons b blank =>
    refine Ends.cons ?_ _
    by_contra hb
    rw [skipBlank_cons (.inl hb)] at hblank
    cases hblank

/-- The text is read as the value, whatever ends it. -/
structure Reads (room : Nat) (text : List Char) (v : Json) : Prop where
  head : ∃ c cs, text = c :: cs ∧ c ∉ endings
  read {fuel : Nat} {rest : List Char} : text.length ≤ fuel → Ends rest →
    value fuel room (text ++ rest) = .ok (v, rest)

/-! ### Arrays -/

variable {text text' : List Char} {v v' : Json}

theorem value_array (h : Reads room text v) (hblank : skipBlank blank = []) :
    value (fuel + 1) (room + 1) ('[' :: (blank ++ (text ++ rest))) =
      (items fuel room (text ++ rest)).map fun (items, r) => (.array items, r) := by
  obtain ⟨c, cs, rfl, hc⟩ := h.head
  have hbracket : c ≠ ']' := fun heq => hc (by simp [heq, endings])
  rw [value, if_neg (Nat.succ_ne_zero room), List.cons_append, skipBlank_append hblank (.inl hc)]
  simp [hbracket]

theorem items_last (h : Reads room text v) (hfuel : text.length ≤ fuel)
    (hblank : skipBlank blank = []) :
    items (fuel + 1) room (text ++ (blank ++ ']' :: rest)) = .ok ([v], rest) := by
  have hskip : skipBlank (blank ++ ']' :: rest) = ']' :: rest :=
    skipBlank_append hblank (.inr (.inr (.inl rfl)))
  rw [items, h.read hfuel (.append hblank (by decide) rest)]
  simp only [bind, Except.bind, hskip]
  rfl

theorem items_more (h : Reads room text v) (h' : Reads room text' v') (hfuel : text.length ≤ fuel)
    (hblank : skipBlank blank = []) :
    items (fuel + 1) room (text ++ ',' :: (blank ++ (text' ++ rest))) =
      (items fuel room (text' ++ rest)).map fun (vs, r) => (v :: vs, r) := by
  obtain ⟨c, cs, rfl, hc⟩ := h'.head
  have hbracket : c ≠ ']' := fun heq => hc (by simp [heq, endings])
  have hcomma : skipBlank (',' :: (blank ++ c :: (cs ++ rest))) =
      ',' :: (blank ++ c :: (cs ++ rest)) := skipBlank_cons (.inr (.inl rfl))
  have hmore : skipBlank (blank ++ c :: (cs ++ rest)) = c :: (cs ++ rest) :=
    skipBlank_append hblank (.inl hc)
  rw [items, h.read hfuel (.cons (by decide) _)]
  simp only [List.cons_append, bind, Except.bind, hcomma, hmore]
  cases hitems : items fuel room (c :: (cs ++ rest)) <;>
    simp [hbracket, hitems, pure, Except.pure, Except.map]

/-- **The items between the brackets are read one after the other.** -/
theorem items_enclose {blank' : List Char} {texts : List (List Char)} {vs : List Json}
    (hblank : skipBlank blank = []) (hblank' : skipBlank blank' = [])
    (h : Reads room text v) (hs : List.Forall₂ (Reads room) texts vs)
    (hfuel : (text ++ texts.flatMap fun part => ',' :: (blank ++ part)).length < fuel) :
    items fuel room
      (text ++ (texts.flatMap (fun part => ',' :: (blank ++ part)) ++ (blank' ++ ']' :: rest))) =
        .ok (v :: vs, rest) := by
  induction hs generalizing text v fuel with
  | nil =>
    cases fuel with
    | zero => omega
    | succ fuel =>
      simp only [List.flatMap_nil, List.append_nil, List.nil_append] at hfuel ⊢
      exact items_last h (by omega) hblank'
  | cons h' hs ih =>
    cases fuel with
    | zero => omega
    | succ fuel =>
      simp only [List.flatMap_cons, List.cons_append, List.append_assoc, List.length_append,
        List.length_cons] at hfuel ⊢
      rw [items_more h h' (by omega) hblank, ih h' (by simp only [List.length_append]; omega)]
      rfl

/-! ### Objects -/

theorem quote_append (s : String) (rest : List Char) :
    (quote s).toList ++ rest = '"' :: (s.toList.flatMap escape ++ '"' :: rest) := by
  simp [quote]

theorem stringBody_quote (s : String) (rest : List Char) :
    stringBody none [] (s.toList.flatMap escape ++ '"' :: rest) = .ok (s, rest) := by
  rw [stringBody_flatMap_escape, List.reverse_nil, List.nil_append, String.ofList_toList]

/-- The text is read as the field, whatever ends it. -/
def ReadsField (room : Nat) (text : List Char) (field : String × Json) : Prop :=
  ∃ blank valueText, skipBlank blank = [] ∧ Reads room valueText field.2 ∧
    text = '"' :: (field.1.toList.flatMap escape ++ '"' :: ':' :: (blank ++ valueText))

variable {field field' : String × Json}

theorem value_object (h : ReadsField room text field) (hblank : skipBlank blank = []) :
    value (fuel + 1) (room + 1) ('{' :: (blank ++ (text ++ rest))) =
      (fields fuel room (text ++ rest)).map fun (fields, r) => (ofFields fields, r) := by
  obtain ⟨_, _, -, -, rfl⟩ := h
  rw [value, if_neg (Nat.succ_ne_zero room), List.cons_append,
    skipBlank_append hblank (.inl (by decide))]
  simp

/-- A field is read up to what follows it. -/
theorem fields_step (h : ReadsField room text field) (hfuel : text.length ≤ fuel)
    (hrest : Ends rest) :
    fields (fuel + 1) room (text ++ rest) =
      match skipBlank rest with
      | [] => stop .endInObject []
      | '}' :: after => .ok ([field], after)
      | ',' :: after =>
        match skipBlank after with
        | [] => stop .endInValue []
        | '}' :: brace => stop .trailingComma ('}' :: brace)
        | more => (fields fuel room more).map fun (fields, r) => (field :: fields, r)
      | other => stop .objectCommaOrEndExpected other := by
  obtain ⟨blank, valueText, hblank, hvalue, rfl⟩ := h
  obtain ⟨c, cs, hhead, hc⟩ := hvalue.head
  have hcolon : skipBlank (':' :: (blank ++ (valueText ++ rest))) =
      ':' :: (blank ++ (valueText ++ rest)) := skipBlank_cons (.inl (by decide))
  have hvalued : skipBlank (blank ++ (valueText ++ rest)) = valueText ++ rest := by
    rw [hhead]
    exact skipBlank_append hblank (.inl hc)
  have hread : value fuel room (valueText ++ rest) = .ok (field.2, rest) :=
    hvalue.read (by simp only [List.length_append, List.length_cons] at hfuel; omega) hrest
  simp only [List.cons_append, List.append_assoc]
  rw [fields, stringBody_quote]
  simp only [bind, Except.bind, hcolon, hvalued, hread]
  rfl

theorem fields_last (h : ReadsField room text field) (hfuel : text.length ≤ fuel)
    (hblank : skipBlank blank = []) :
    fields (fuel + 1) room (text ++ (blank ++ '}' :: rest)) = .ok ([field], rest) := by
  rw [fields_step h hfuel (.append hblank (by decide) rest),
    skipBlank_append hblank (.inr (.inr (.inr rfl)))]
  rfl

theorem fields_more (h : ReadsField room text field) (h' : ReadsField room text' field')
    (hfuel : text.length ≤ fuel) (hblank : skipBlank blank = []) :
    fields (fuel + 1) room (text ++ ',' :: (blank ++ (text' ++ rest))) =
      (fields fuel room (text' ++ rest)).map fun (fs, r) => (field :: fs, r) := by
  obtain ⟨_, _, -, -, rfl⟩ := h'
  rw [fields_step h hfuel (.cons (by decide) _), skipBlank_cons (.inr (.inl rfl)), List.cons_append]
  simp only [skipBlank_append hblank (.inl (by decide : '"' ∉ endings))]
  rfl

/-- **The fields between the braces are read one after the other.** -/
theorem fields_enclose {blank' : List Char} {texts : List (List Char)}
    {fs : List (String × Json)} (hblank : skipBlank blank = []) (hblank' : skipBlank blank' = [])
    (h : ReadsField room text field) (hs : List.Forall₂ (ReadsField room) texts fs)
    (hfuel : (text ++ texts.flatMap fun part => ',' :: (blank ++ part)).length < fuel) :
    fields fuel room
      (text ++ (texts.flatMap (fun part => ',' :: (blank ++ part)) ++ (blank' ++ '}' :: rest))) =
        .ok (field :: fs, rest) := by
  induction hs generalizing text field fuel with
  | nil =>
    cases fuel with
    | zero => omega
    | succ fuel =>
      simp only [List.flatMap_nil, List.append_nil, List.nil_append] at hfuel ⊢
      exact fields_last h (by omega) hblank'
  | cons h' hs ih =>
    cases fuel with
    | zero => omega
    | succ fuel =>
      simp only [List.flatMap_cons, List.cons_append, List.append_assoc, List.length_append,
        List.length_cons] at hfuel ⊢
      rw [fields_more h h' (by omega) hblank, ih h' (by simp only [List.length_append]; omega)]
      rfl

/-! ### Values -/

theorem Reads.number {n : Number} (back : n.ReadsBack) :
    Reads room (numberText n).toList (.number n) := by
  obtain ⟨c, cs, hcs, hc⟩ := head_of_readNumber back
  have hend : c ∉ endings := by
    intro hend
    have table : endings.any (fun c => c = '-' || c.isDigit) = false := by decide
    exact List.any_eq_false.1 table c hend (by simpa using hc)
  refine ⟨⟨c, cs, hcs, hend⟩, fun {fuel rest} hfuel hrest => ?_⟩
  have hread := readNumber_append hrest back
  rw [hcs] at hfuel hread ⊢
  cases fuel with
  | zero => simp at hfuel
  | succ fuel =>
    rw [List.cons_append] at hread ⊢
    rw [value, if_pos hc, hread]
    · rfl
    all_goals
      rintro rfl
      revert hc
      decide

theorem Reads.string (s : String) : Reads room (quote s).toList (.string s) := by
  refine ⟨⟨'"', s.toList.flatMap escape ++ ['"'], by simpa using quote_append s [],
    by decide⟩, fun {fuel rest} hfuel hrest => ?_⟩
  rw [quote_append]
  cases fuel with
  | zero => simp [quote] at hfuel
  | succ fuel =>
    rw [value, stringBody_quote]
    rfl

end Reader

theorem Layout.itemTexts_eq_map (l : Layout) (depth : Nat) (items : List Json) :
    l.itemTexts depth items = items.map (l.text depth) := by
  induction items with
  | nil => rfl
  | cons item rest ih => rw [Layout.itemTexts, ih, List.map_cons]

/-- The text of a field at a depth. -/
def Layout.fieldText (l : Layout) (depth : Nat) (field : String × Json) : List Char :=
  (quote field.1).toList ++ ':' :: (l.afterColon ++ l.text depth field.2)

theorem Layout.fieldTexts_eq_map (l : Layout) (depth : Nat) (fields : List (String × Json)) :
    l.fieldTexts depth fields = fields.map (l.fieldText depth) := by
  induction fields with
  | nil => rfl
  | cons field rest ih =>
    rw [Layout.fieldTexts, ih, List.map_cons]
    rfl

open Reader in
/-- **The text of a readable value, in any layout, is read as the value in order.** -/
theorem Readable.reads {room : Nat} {v : Json} (h : Readable room v) (l : Layout) (depth : Nat) :
    Reads room (l.text depth v) v.sorted := by
  induction h generalizing depth with
  | null =>
    refine ⟨⟨'n', _, rfl, by decide⟩, fun {fuel rest} hfuel _ => ?_⟩
    cases fuel with
    | zero => simp [Layout.text] at hfuel
    | succ fuel => rfl
  | @bool room b =>
    refine ⟨by cases b <;> exact ⟨_, _, rfl, by decide⟩, fun {fuel rest} hfuel _ => ?_⟩
    cases fuel with
    | zero => cases b <;> simp [Layout.text] at hfuel
    | succ fuel => cases b <;> rfl
  | number back => exact .number back
  | string => exact .string _
  | @array room items _ ih =>
    refine ⟨⟨'[', _, by rw [Layout.text], by decide⟩, fun {fuel rest} hfuel _ => ?_⟩
    rw [Layout.text, Layout.itemTexts_eq_map] at hfuel ⊢
    rw [sorted, sortedItems_eq_map]
    cases fuel with
    | zero => simp at hfuel
    | succ fuel =>
      cases items with
      | nil => rfl
      | cons item items =>
        have hs : List.Forall₂ (Reads room) (items.map (l.text (depth + 1)))
            (items.map sorted) := by
          rw [List.forall₂_map_left_iff, List.forall₂_map_right_iff, List.forall₂_same]
          exact fun other hother => ih other (.tail _ hother) (depth + 1)
        have hfirst := ih item (.head _) (depth + 1)
        simp only [List.map_cons, Layout.enclose, List.cons_append, List.append_assoc,
          List.nil_append, List.length_append, List.length_cons] at hfuel ⊢
        rw [value_array hfirst (l.blank_lineBreak _),
          items_enclose (l.blank_lineBreak _) (l.blank_lineBreak _) hfirst hs
            (by simp only [List.length_append]; omega)]
        rfl
  | @object room fields _ ih =>
    refine ⟨⟨'{', _, by rw [Layout.text], by decide⟩, fun {fuel rest} hfuel _ => ?_⟩
    rw [Layout.text, Layout.fieldTexts_eq_map] at hfuel ⊢
    rw [sorted, sortedFields_eq_map]
    cases fuel with
    | zero => simp at hfuel
    | succ fuel =>
      cases fields with
      | nil => rfl
      | cons field fields =>
        have hfield (other : String × Json) (hother : other ∈ field :: fields) :
            ReadsField room (l.fieldText (depth + 1) other) (other.1, other.2.sorted) :=
          ⟨_, _, l.blank_afterColon, ih other hother (depth + 1), quote_append _ _⟩
        have hfirst := hfield field (.head _)
        have hs : List.Forall₂ (ReadsField room) (fields.map (l.fieldText (depth + 1)))
            (fields.map fun other => (other.1, other.2.sorted)) := by
          rw [List.forall₂_map_left_iff, List.forall₂_map_right_iff, List.forall₂_same]
          exact fun other hother => hfield other (.tail _ hother)
        simp only [List.map_cons, Layout.enclose, List.cons_append, List.append_assoc,
          List.nil_append, List.length_append, List.length_cons] at hfuel ⊢
        rw [value_object hfirst (l.blank_lineBreak _),
          fields_enclose (l.blank_lineBreak _) (l.blank_lineBreak _) hfirst hs
            (by simp only [List.length_append]; omega)]
        rfl

theorem Readable.read_eq_ok {v : Json} (h : Readable Reader.maxDepth v) (l : Layout) {text : String}
    {depth : Nat} (htext : text.toList = l.text depth v) : read text = .ok v.sorted := by
  have hreads := h.reads l depth
  obtain ⟨c, cs, hcs, hc⟩ := hreads.head
  have hskip : Reader.skipBlank text.toList = l.text depth v := by
    rw [htext, hcs]
    exact Reader.skipBlank_cons (.inl hc)
  have hvalue : Reader.value (2 * text.toList.length + 1) Reader.maxDepth
      (l.text depth v ++ []) = _ := hreads.read (by rw [htext]; omega) .nil
  rw [List.append_nil] at hvalue
  have hdocument : Reader.document text.toList = .ok v.sorted := by
    rw [Reader.document, hskip, hvalue]
    rfl
  rw [read, hdocument]

/-- **The compact text of a readable value is read as the value in order.** -/
theorem Readable.read_compact {v : Json} (h : Readable Reader.maxDepth v) :
    read (compact v) = .ok v.sorted :=
  h.read_eq_ok .tight (toList_compact 0 v)

/-- **The indented text of a readable value is read as the value in order.** -/
theorem Readable.read_indented {v : Json} (h : Readable Reader.maxDepth v) :
    read (indented v) = .ok v.sorted :=
  h.read_eq_ok .spread (toList_indentedAt 0 v)

end FeeMarket.Json
