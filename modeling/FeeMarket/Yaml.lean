import FeeMarket.Yaml.Node

/-!
# YAML documents

**Stream.** Documents in order. Each has one node. All but the first one start with three hyphens,
maybe after directives; three dots may end a document.

**Reading** (`read`). The nodes of the documents of a text. Names of anchors hold within a document.
-/

namespace FeeMarket.Yaml

/-- Passes directives. -/
def passDirectives : Nat → Reading Unit
  | 0 => return
  | fuel + 1 => do
    if ← nextIn [.directive] then
      advance
      passDirectives fuel

/-- Passes the ends of documents. -/
def passEnds : Nat → Reading Unit
  | 0 => return
  | fuel + 1 => do
    if ← nextIn [.documentEnd] then
      advance
      passEnds fuel

/-- Reads a document that starts with its indicator. -/
def readMarked (fuel : Nat) : Reading Node := do
  passDirectives fuel
  let (t, m) ← peek
  if t = .documentStart then
    advance
    readNodeUnless [.directive, .documentStart, .documentEnd, .streamEnd] true false fuel
  else failReading "did not find expected <document start>" m

/-- Reads the documents to come. -/
def readDocuments (first : Bool) (seen : List Node) : Nat → Reading (List Node)
  | 0 => return seen.reverse
  | fuel + 1 => do
    if !first then passEnds fuel
    if ← nextIn [.streamEnd] then return seen.reverse
    modify fun p => { p with names := [] }
    let n ←
      if first && !(← nextIn [.directive, .documentStart]) then readNode true false fuel
      else readMarked fuel
    if ← nextIn [.documentEnd] then advance
    readDocuments false (n :: seen) fuel

/-- Reads the documents of a text. A lexeme is looked at in at most four nested readings. -/
def read (text : String) : Except YamlError (List Node) :=
  let found := lexemes text
  (readDocuments true [] (4 * found.length + 4)).run' { lexemes := found.drop 1 }

end FeeMarket.Yaml
