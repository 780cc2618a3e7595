import Reshape.Yaml.CoreScalar
import Reshape.Yaml.Node

/-!
# Reading YAML

The value of a YAML text with one document. Mappings have the texts of scalars as keys, and of repeated
keys the last value counts. Tags of one's own are refused, and so are documents that nest too deeply or
use their aliases too often.

* `read?`: the value of a text, or none if it is not well formed.
-/

namespace Reshape.Yaml

namespace Node

mutual

/-- The number of parts that a node is made of: one for a scalar, and two for the ends of a collection. -/
def size : Node → Nat
  | scalar _ _ _ _ => 1
  | reference _ => 1
  | sequence _ _ items => 2 + sizeItems items
  | mapping _ _ entries => 2 + sizeEntries entries

def sizeItems : List Node → Nat
  | [] => 0
  | n :: rest => n.size + sizeItems rest

def sizeEntries : List (Node × Node) → Nat
  | [] => 0
  | (key, value) :: rest => key.size + value.size + sizeEntries rest

end

/-- The nodes with anchors, an inner one after those around it. -/
abbrev Anchored := List (Nat × Node)

mutual

def anchored : Node → Anchored
  | n@(scalar anchor _ _ _) => (anchor.map fun a => (a, n)).toList
  | reference _ => []
  | n@(sequence anchor _ items) => (anchor.map fun a => (a, n)).toList ++ anchoredItems items
  | n@(mapping anchor _ entries) => (anchor.map fun a => (a, n)).toList ++ anchoredEntries entries

def anchoredItems : List Node → Anchored
  | [] => []
  | n :: rest => n.anchored ++ anchoredItems rest

def anchoredEntries : List (Node × Node) → Anchored
  | [] => []
  | (key, value) :: rest => key.anchored ++ value.anchored ++ anchoredEntries rest

end

end Node

/-- What the aliases of a document stand for, and how often they may be followed. -/
structure Aliases where
  nodes : Node.Anchored
  limit : Nat

/-- Reads a part of a document, given how often aliases have been followed. -/
abbrev Valuing := StateT Nat Option

/-- A node that is no alias. Of two nodes with one anchor the later is meant. -/
def resolve (aliases : Aliases) : Node → Valuing Node
  | .reference anchor => do
    let used ← get
    set (used + 1)
    if aliases.limit < used + 1 then failure
    else
      match aliases.nodes.reverse.lookup anchor with
      | some n => return n
      | none => failure
  | n => return n

/-- Tags that begin with an exclamation mark have no meaning here. -/
def isForeign (tag : Option String) : Bool :=
  tag.any fun t => t.startsWith "!"

def standardTag (name : String) : String :=
  "tag:yaml.org,2002:" ++ name

/-- The value of a scalar. A tag names its kind; without one a plain scalar is what it spells. -/
def scalarValue? (tag : Option String) (isPlain : Bool) (text : String) : Option Value :=
  match tag with
  | none => if isPlain then coreValue? text else some (.string text)
  | some t =>
    if isForeign tag then none
    else if t = standardTag "bool" then (flag? text).map .bool
    else if t = standardTag "int" then
      ((integer? text.toList).filter isIntegerSize).bind integerValue?
    else if t = standardTag "float" then (float? text.toList).map floatValue
    else if t = standardTag "null" then if spellsNull text then some .null else none
    else some (.string text)

/-- A key is the text of a scalar. -/
def keyText (aliases : Aliases) (n : Node) : Valuing String := do
  match ← resolve aliases n with
  | .scalar _ _ _ text => return text
  | _ => failure

/-- The value of a node in which collections nest to at most a depth. -/
def nodeValue (aliases : Aliases) : Nat → Node → Valuing Value
  | depth, n => do
    match ← resolve aliases n with
    | .scalar _ tag isPlain text => liftM (scalarValue? tag isPlain text)
    | .sequence _ tag items =>
      match depth with
      | 0 => failure
      | inner + 1 =>
        if isForeign tag then failure
        else return .array (← items.mapM (nodeValue aliases inner))
    | .mapping _ tag entries =>
      match depth with
      | 0 => failure
      | inner + 1 =>
        if isForeign tag then failure
        else
          let fields ← entries.mapM fun (key, value) => do
            return (← keyText aliases key, ← nodeValue aliases inner value)
          return .object (Record.ofList fields)
    | .reference _ => failure

/-- Collections nest to at most this depth. -/
def maxDepth : Nat := 128

/-- An alias may be followed a hundred times for each part of the document. -/
def aliasFactor : Nat := 100

def documentValue? (n : Node) : Option Value :=
  ((nodeValue ⟨n.anchored, n.size * aliasFactor⟩ maxDepth n).run 0).map Prod.fst

/-- The value of a text; one without a document is null. -/
def read? (text : String) : Option Value := do
  match ← Node.ofTokens? (← tokens? (← prepare? text)) with
  | none => return .null
  | some n => documentValue? n

end Reshape.Yaml
