import FeeMarket.Scalar
import FeeMarket.Yaml.Layout

/-!
# Nodes of YAML documents

**Leaf.** A single value. A plain scalar says what it is by its text, or its tag does; one with
quotes is a string. A text that does not fit its tag, or a reference to a node from within, is
unfit.

**Node.** A leaf, a sequence or a mapping. Where a node is missing there is null.

**Mapping.** Keys and values in turn. An unfit node in the place of a key does not count, so that
the next node is the key. A key that comes again is moved to the end, with its later value.

**Reading** (`readNode`). A node is read from the lexemes of a document; a problem is found when its
lexeme is looked at. Nodes with an anchor are kept for references to them.
-/

namespace FeeMarket.Yaml

/-- A single value. A real keeps its text. -/
inductive Leaf where
  | unfit
  | null
  | bool (value : Bool)
  | integer (value : Int)
  | real (text : String)
  | string (value : String)
deriving DecidableEq

/-- A node of a document. -/
inductive Node where
  | leaf (value : Leaf)
  | sequence (items : List Node)
  | mapping (entries : List (Node × Node))

instance : Inhabited Node := ⟨.leaf .null⟩

/-! ## Leaves -/

namespace Leaf

/-- Whether a text is a real. -/
def isReal (text : String) : Bool :=
  [".inf", ".Inf", ".INF", "+.inf", "+.Inf", "+.INF", "-.inf", "-.Inf", "-.INF", ".nan", "NaN",
    ".NAN"].contains text || (Decimal.read? text).isSome

/-- The integer of a text; one in hexadecimal or octal may have its sign after the mark of its
base. -/
def integer? (text : String) : Option Int :=
  let cs := text.toList
  let based :=
    match cs with
    | '0' :: 'x' :: digits => Scalar.integer? 16 digits
    | '0' :: 'o' :: digits => Scalar.integer? 8 digits
    | '+' :: digits => Scalar.integer? 10 digits
    | _ => none
  based.or (Scalar.integer? 10 cs)

/-- What a plain scalar is by its text. -/
def ofText (text : String) : Leaf :=
  match integer? text with
  | some n => .integer n
  | none =>
    if text = "~" ∨ text = "null" then .null
    else if text = "true" then .bool true
    else if text = "false" then .bool false
    else if isReal text then .real text
    else .string text

/-- What a plain scalar is that one of the common tags names. -/
def ofTagged (kind text : String) : Leaf :=
  match kind with
  | "bool" => if text = "true" then .bool true else if text = "false" then .bool false else .unfit
  | "int" => ((Scalar.integer? 10 text.toList).map Leaf.integer).getD .unfit
  | "float" => if isReal text then .real text else .unfit
  | "null" => if text = "~" ∨ text = "null" then .null else .unfit
  | _ => .string text

/-- What a scalar is. A tag is a handle and a suffix. -/
def ofScalar (tag : Option (String × String)) (text : String) (plain : Bool) : Leaf :=
  match plain, tag with
  | false, _ => .string text
  | true, some (handle, suffix) =>
    if handle = "!!" then ofTagged suffix text else .string text
  | true, none => ofText text

end Leaf

/-! ## Mappings -/

/-- A mapping whose entries are being read. -/
structure MappingText where
  key : Option Node := none
  entries : List (Node × Node) := []

namespace MappingText

/-- Whether two keys are one. -/
def sameKey : Node → Node → Bool
  | .leaf a, .leaf b => a = b
  | _, _ => false

/-- Adds a node, which is a key or the value of the key before it. -/
def add (m : MappingText) (n : Node) : MappingText :=
  match m.key, n with
  | some key, n =>
    ⟨none, (m.entries.filter fun entry => !sameKey entry.1 key) ++ [(key, n)]⟩
  | none, .leaf .unfit => m
  | none, n => { m with key := some n }

end MappingText

/-! ## Reading -/

/-- The lexemes to come, and the anchors so far: the numbers of those that have a name, the last
first, and the nodes of those that are read. -/
structure Progress where
  lexemes : List Lexeme
  anchored : Nat := 0
  names : List (String × Nat) := []
  nodes : List (Nat × Node) := []

/-- What the next lexemes give. -/
abbrev Reading := StateT Progress (Except YamlError)

def failReading {α : Type} (problem : String) (m : Mark) : Reading α :=
  fun _ => .error ⟨problem, m⟩

/-- The next token and its mark. -/
def peek : Reading (Token × Mark) := fun p =>
  match p.lexemes with
  | ⟨.ok t, m⟩ :: _ => .ok ((t, m), p)
  | ⟨.error problem, m⟩ :: _ => .error ⟨problem, m⟩
  | [] => .ok ((.streamEnd, {}), p)

/-- Passes a token. -/
def advance : Reading Unit := modify fun p => { p with lexemes := p.lexemes.drop 1 }

/-- Whether the next token is one of some. -/
def nextIn (tokens : List Token) : Reading Bool := return tokens.contains (← peek).1

/-- Null, for a node that is missing. -/
def missing : Node := .leaf .null

/-- The number of a new anchor. -/
def newAnchor (name : String) : Reading Nat := do
  let number := (← get).anchored + 1
  modify fun p => { p with anchored := number, names := (name, number) :: p.names }
  return number

/-- Keeps a node for references to its anchor. -/
def keep (anchor : Option Nat) (n : Node) : Reading Node := do
  match anchor with
  | some number => modify fun p => { p with nodes := (number, n) :: p.nodes }
  | none => pure ()
  return n

/-- Reads the anchor and the tag of a node, in any order. -/
def readProperties : Reading (Option Nat × Option (String × String)) := do
  match (← peek).1 with
  | .anchor name =>
    let number ← newAnchor name
    advance
    match (← peek).1 with
    | .tag handle suffix =>
      advance
      return (some number, some (handle, suffix))
    | _ => return (some number, none)
  | .tag handle suffix =>
    advance
    match (← peek).1 with
    | .anchor name =>
      let number ← newAnchor name
      advance
      return (some number, some (handle, suffix))
    | _ => return (none, some (handle, suffix))
  | _ => return (none, none)

/-- The node that a name refers to. -/
def referred (name : String) (m : Mark) : Reading Node := do
  let p ← get
  match p.names.lookup name with
  | none => failReading "while parsing node, found unknown anchor" m
  | some number => return (p.nodes.lookup number).getD (.leaf .unfit)

mutual

/-- Reads a node. `block` tells whether it may be a block collection, and `indentless` whether it
may be a sequence that is indented like the mapping around it. -/
def readNode (block indentless : Bool) : Nat → Reading Node
  | 0 => return missing
  | fuel + 1 => do
    let (t, m) ← peek
    match t with
    | .reference name =>
      advance
      referred name m
    | _ =>
      let (anchor, tag) ← readProperties
      let (t, m) ← peek
      match t, block, indentless with
      | .entry, _, true =>
        keep anchor (.sequence (← readIndentless [] fuel))
      | .scalar text plain, _, _ =>
        advance
        keep anchor (.leaf (.ofScalar tag text plain))
      | .flowSequenceStart, _, _ =>
        advance
        keep anchor (.sequence (← readFlowSequence true [] fuel))
      | .flowMappingStart, _, _ =>
        advance
        keep anchor (.mapping (← readFlowMapping true {} fuel).entries)
      | .blockSequenceStart, true, _ =>
        advance
        keep anchor (.sequence (← readBlockSequence [] fuel))
      | .blockMappingStart, true, _ =>
        advance
        keep anchor (.mapping (← readBlockMapping {} fuel).entries)
      | _, _, _ =>
        if anchor.isSome || tag.isSome then keep anchor (.leaf (.ofScalar tag "" true))
        else failReading "while parsing a node, did not find expected node content" m

/-- Reads a node, which is missing if one of some tokens comes. -/
def readNodeUnless (tokens : List Token) (block indentless : Bool) : Nat → Reading Node
  | 0 => return missing
  | fuel + 1 => do
    if ← nextIn tokens then return missing
    else readNode block indentless fuel

/-- Reads the items of a block sequence, after those that are there, last first. -/
def readBlockSequence (seen : List Node) : Nat → Reading (List Node)
  | 0 => return seen.reverse
  | fuel + 1 => do
    let (t, m) ← peek
    match t with
    | .blockEnd =>
      advance
      return seen.reverse
    | .entry =>
      advance
      let item ← readNodeUnless [.entry, .blockEnd] true false fuel
      readBlockSequence (item :: seen) fuel
    | _ =>
      failReading "while parsing a block collection, did not find expected '-' indicator" m

/-- Reads the items of a block sequence without an indentation of its own. -/
def readIndentless (seen : List Node) : Nat → Reading (List Node)
  | 0 => return seen.reverse
  | fuel + 1 => do
    match (← peek).1 with
    | .entry =>
      advance
      let item ← readNodeUnless [.entry, .key, .value, .blockEnd] true false fuel
      readIndentless (item :: seen) fuel
    | _ => return seen.reverse

/-- Reads the value of a key if there is one. -/
def readValue (tokens : List Token) (block : Bool) : Nat → Reading Node
  | 0 => return missing
  | fuel + 1 => do
    match (← peek).1 with
    | .value =>
      advance
      readNodeUnless tokens block block fuel
    | _ => return missing

/-- Reads the entries of a block mapping. -/
def readBlockMapping (before : MappingText) : Nat → Reading MappingText
  | 0 => return before
  | fuel + 1 => do
    let edges : List Token := [.key, .value, .blockEnd]
    let (t, m) ← peek
    match t with
    | .blockEnd =>
      advance
      return before
    | .key =>
      advance
      let key ← readNodeUnless edges true true fuel
      let value ← readValue edges true fuel
      readBlockMapping ((before.add key).add value) fuel
    | .value =>
      let value ← readValue edges true fuel
      readBlockMapping ((before.add missing).add value) fuel
    | _ => failReading "while parsing a block mapping, did not find expected key" m

/-- Reads a mapping of one key and its value among the items of a flow sequence, after the
indicator of the key. -/
def readPair : Nat → Reading Node
  | 0 => return missing
  | fuel + 1 => do
    let edges : List Token := [.comma, .flowSequenceEnd]
    let key ←
      if ← nextIn (.value :: edges) then
        advance
        pure missing
      else readNode false false fuel
    let value ← readValue edges false fuel
    return .mapping ((({} : MappingText).add key).add value).entries

/-- Reads the items of a flow sequence. -/
def readFlowSequence (first : Bool) (seen : List Node) : Nat → Reading (List Node)
  | 0 => return seen.reverse
  | fuel + 1 => do
    let (t, m) ← peek
    match t, first with
    | .flowSequenceEnd, _ =>
      advance
      return seen.reverse
    | .comma, false => advance
    | _, false => failReading "while parsing a flow sequence, expected ',' or ']'" m
    | _, true => pure ()
    match (← peek).1 with
    | .flowSequenceEnd =>
      advance
      return seen.reverse
    | .key =>
      advance
      let item ← readPair fuel
      readFlowSequence false (item :: seen) fuel
    | _ =>
      let item ← readNode false false fuel
      readFlowSequence false (item :: seen) fuel

/-- Reads the entries of a flow mapping. -/
def readFlowMapping (first : Bool) (before : MappingText) : Nat → Reading MappingText
  | 0 => return before
  | fuel + 1 => do
    let edges : List Token := [.comma, .flowMappingEnd]
    let (t, m) ← peek
    match t, first with
    | .flowMappingEnd, _ =>
      advance
      return before
    | .comma, false => advance
    | _, false =>
      failReading "while parsing a flow mapping, did not find expected ',' or '\x7d'" m
    | _, true => pure ()
    match (← peek).1 with
    | .flowMappingEnd =>
      advance
      return before
    | .key =>
      advance
      let key ← readNodeUnless (.value :: edges) false false fuel
      let value ← readValue edges false fuel
      readFlowMapping false ((before.add key).add value) fuel
    | .value =>
      let value ← readValue edges false fuel
      readFlowMapping false ((before.add missing).add value) fuel
    | _ =>
      let key ← readNode false false fuel
      readFlowMapping false ((before.add key).add missing) fuel

end

end FeeMarket.Yaml
