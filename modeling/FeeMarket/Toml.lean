import FeeMarket.Toml.Moment
import FeeMarket.Toml.Section

/-!
# TOML documents

**Value.** A scalar, an array or a table. A date or a time becomes the string of its normal form.

**Document.** The table that its sections make together. A section puts its entries into the table
at its header, and the tables on the way are made as needed; a repeated header adds a table to
an array, and later headers that go through it mean its last table. Nothing is defined twice:
neither a key of a table nor a table with a header.

**Gathering.** A table is gathered from the sections whose headers start with its path, from left to
right; entries are used up when their section is reached. What is defined twice is found on the
way, so the first problem in this order is the one that is reported.

Main definition: `Toml.read`, the table of a document or the text of its first problem.
-/

namespace FeeMarket

/-- A value of a TOML document. -/
inductive Toml where
  | scalar (value : Scalar)
  | array (items : List Toml)
  | table (fields : List (String × Toml))

namespace Toml

instance : Inhabited Toml := ⟨.table []⟩

/-- The fields of a table, in the order in which they are defined. -/
abbrev Fields := List (String × Toml)

/-! ## Written values -/

mutual

/-- The value that is written. -/
def ofWritten : Written → Except TomlError Toml
  | .scalar value _ => .ok (.scalar value)
  | .moment text offset =>
    match Moment.read? text with
    | some m => .ok (.scalar (.string m.write))
    | none => .error ⟨.malformedMoment, offset, []⟩
  | .array items _ => (ofWrittenItems items).map .array
  | .table _ entries offset => (ofEntries offset [] entries).map .table

/-- The items that are written. -/
def ofWrittenItems : List Written → Except TomlError (List Toml)
  | [] => .ok []
  | w :: rest => do
    let item ← ofWritten w
    return item :: (← ofWrittenItems rest)

/-- The fields of a table that is written at an offset, after those that are there. -/
def ofEntries (offset : Nat) (there : Fields) :
    List (String × Written) → Except TomlError Fields
  | [] => .ok there
  | (name, w) :: rest => do
    if (there.lookup name).isSome then throw ⟨.duplicateKey name, offset, []⟩
    let v ← ofWritten w
    ofEntries offset (there ++ [(name, v)]) rest

end

/-! ## Gathering -/

/-- Sections, and their entries as long as these are not used. -/
abbrev Gather := StateT (Array (Section × Option Entries)) (Except TomlError)

namespace Gather

def fail {α : Type} (p : Problem) (offset : Nat) : Gather α := throw ⟨p, offset, []⟩

/-- Says of a problem that it concerns a value under a key. -/
def under {α : Type} (key : String) (act : Gather α) : Gather α :=
  tryCatch act fun e => throw (e.under key)

/-- The section at an index. -/
def sectionAt (i : Nat) : Gather Section := do
  return ((← get)[i]?.map Prod.fst).getD ⟨0, [], false, []⟩

/-- The entries of a section, which are used up by this. -/
def takeEntries (i : Nat) : Gather Entries := do
  let (s, left) := ((← get)[i]?).getD (⟨0, [], false, []⟩, none)
  modify fun sections => sections.setIfInBounds i (s, none)
  return left.getD []

/-- The first section from an index up to a limit that passes a test. -/
def find? (first limit : Nat) (test : Section × Option Entries → Bool) : Gather (Option Nat) := do
  let sections ← get
  return (List.range' first (limit - first)).find? fun i => (sections[i]?.map test).getD false

/-- A table that is being gathered: how long its path is, a section that has it, and the sections
that are still to be looked at. -/
structure Scan where
  depth : Nat
  owner : Nat
  next : Nat
  limit : Nat

/-- Adds a field, unless there is one of that name. `last` is where the last section starts. -/
def addField (last : Nat) (there : Fields) (name : String) (v : Gather Toml) : Gather Fields := do
  if (there.lookup name).isSome then fail (.duplicateKey name) last
  let v ← under name v
  return there ++ [(name, v)]

mutual

/-- The fields of a table after those that are there. `entries` are those of a section that is being
used. -/
def fields (last : Nat) (fuel : Nat) (s : Scan) (there : Fields) (entries : Entries) :
    Gather Fields := do
  match fuel with
  | 0 => return there
  | fuel + 1 =>
    match entries with
    | (name, w) :: rest =>
      let there ← addField last there name (ofWritten w)
      fields last fuel s there rest
    | [] =>
      let path := (← sectionAt s.owner).header.take s.depth
      match ← find? s.next s.limit fun (sect, left) =>
          left.isSome && path.isPrefixOf sect.header with
      | none => return there
      | some i =>
        let owner ← sectionAt s.owner
        let found ← sectionAt i
        if s.owner ≠ i ∧ owner.header = found.header then
          fail (.redefinedTable found.header) found.offset
        let owner := if found.header.length < owner.header.length then i else s.owner
        match found.header[s.depth]? with
        | some name =>
          let there ← addField last there name <|
            if found.repeated ∧ s.depth + 1 = found.header.length then
              .array <$> items last fuel (s.depth + 1) i s.limit
            else .table <$> fields last fuel ⟨s.depth + 1, i, 0, s.limit⟩ [] []
          fields last fuel { s with owner, next := i + 1 } there []
        | none =>
          if found.repeated then fail .redefinedAsArray found.offset
          let entries ← takeEntries i
          fields last fuel { s with owner, next := i } there entries

/-- The tables of an array from a section on. Each reaches up to the section of the next one. -/
def items (last : Nat) (fuel : Nat) (depth i limit : Nat) : Gather (List Toml) := do
  match fuel with
  | 0 => return []
  | fuel + 1 =>
    if i = limit then return []
    let path := (← sectionAt i).header
    let next := (← find? (i + 1) limit fun (sect, _) =>
      sect.repeated && sect.header == path).getD limit
    let entries ← takeEntries i
    let item ← fields last fuel ⟨depth, i, 0, next⟩ [] entries
    return .table item :: (← items last fuel depth next limit)

end

end Gather

/-- How often sections can be looked at, found or used. -/
def effort (sections : List Section) : Nat :=
  sections.foldl (fun n s => n + 2 * s.header.length + s.entries.length + 4) 2

/-- The table that sections make together. -/
def ofSections (sections : List Section) : Except TomlError Fields := do
  let last := (sections.getLast?.map Section.offset).getD 0
  let state := (sections.map fun s => (s, some s.entries)).toArray
  let (fields, _) ←
    (Gather.fields last (effort sections) ⟨0, 0, 0, sections.length⟩ [] []).run state
  return fields

/-- Reads the table of a document. -/
def read (text : String) : Except String Fields :=
  match Section.read text >>= ofSections with
  | .ok fields => .ok fields
  | .error e => .error (e.message text)

end Toml

end FeeMarket
