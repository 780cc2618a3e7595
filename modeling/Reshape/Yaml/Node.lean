import Reshape.Yaml.Scanner

/-!
# Nodes of a YAML document

A document is a tree of scalars, sequences and mappings with tags and anchors, and of aliases, which
stand for the node with an anchor. Anchors are numbered by the names that are known when they come.

* `Node.ofTokens?`: the node of the only document in a list of tokens, if it has one.
-/

namespace Reshape.Yaml

inductive Node where
  | scalar (anchor : Option Nat) (tag : Option String) (isPlain : Bool) (text : String)
  | sequence (anchor : Option Nat) (tag : Option String) (items : List Node)
  | mapping (anchor : Option Nat) (tag : Option String) (entries : List (Node × Node))
  | reference (anchor : Nat)

/-- What stands in front of a node. -/
structure Properties where
  anchor : Option Nat := none
  tag : Option String := none

namespace Node

def empty (p : Properties) : Node :=
  scalar p.anchor p.tag true ""

def null : Node :=
  empty {}

end Node

/-- The tokens that are left, the numbers of the anchors, and the tag handles. -/
structure Stream where
  tokens : List Token
  anchors : List (String × Nat) := []
  handles : List (String × String) := []

/-- A reader of a part of the tokens. -/
abbrev Reading := StateT Stream Option

namespace Reading

def peek : Reading Token := do
  return (← get).tokens.headD .streamEnd

def skip : Reading Unit :=
  modify fun s => { s with tokens := s.tokens.tail }

/-- The number of a new anchor: the number of names before it. A name may come again. -/
def newAnchor (name : String) : Reading Nat := do
  let s ← get
  let number := s.anchors.length
  set { s with anchors := (name, number) :: s.anchors.filter (·.1 ≠ name) }
  return number

def knownAnchor (name : String) : Reading Nat := do
  match (← get).anchors.lookup name with
  | some number => return number
  | none => failure

/-- The handles that every document has. -/
def standardHandles : List (String × String) :=
  [("!", "!"), ("!!", "tag:yaml.org,2002:")]

def resolveTag (handle suffix : String) : Reading String := do
  if handle.isEmpty then return suffix
  else
    match ((← get).handles ++ standardHandles).lookup handle with
    | some front => return front ++ suffix
    | none => failure

/-- An anchor and a tag in either order. -/
def properties : Reading Properties := do
  match ← peek with
  | .anchor name =>
    skip
    match ← peek with
    | .tag handle suffix =>
      skip
      let tag ← resolveTag handle suffix
      return ⟨some (← newAnchor name), some tag⟩
    | _ => return { anchor := some (← newAnchor name) }
  | .tag handle suffix =>
    skip
    match ← peek with
    | .anchor name =>
      skip
      let tag ← resolveTag handle suffix
      return ⟨some (← newAnchor name), some tag⟩
    | _ => return { tag := some (← resolveTag handle suffix) }
  | _ => return {}

/-- A scalar with the tag `!` has none. -/
def scalarNode (p : Properties) (isPlain : Bool) (text : String) : Node :=
  .scalar p.anchor (p.tag.filter (· ≠ "!")) isPlain text

/-- The tokens that end an entry of a block mapping or leave it empty. -/
def endsEntry : Token → Bool
  | .key => true
  | .value => true
  | .blockEnd => true
  | _ => false

def endsItem : Token → Bool
  | .blockEntry => true
  | .blockEnd => true
  | _ => false

def endsBareItem : Token → Bool
  | .blockEntry => true
  | t => endsEntry t

def endsFlowItem : Token → Bool
  | .flowEntry => true
  | .flowSequenceEnd => true
  | _ => false

def endsFlowEntry : Token → Bool
  | .flowEntry => true
  | .flowMappingEnd => true
  | _ => false

mutual

/-- A node. Block collections are only read if they may stand there, and sequences at the column of their
mapping only as values and keys. -/
def node (block bare : Bool) : Nat → Reading Node
  | 0 => failure
  | fuel + 1 => do
    match ← peek with
    | .reference name =>
      skip
      return .reference (← knownAnchor name)
    | _ =>
      let p ← properties
      match ← peek with
      | .blockEntry =>
        if bare then return .sequence p.anchor p.tag (← bareItems fuel)
        else if p.anchor.isSome ∨ p.tag.isSome then return .empty p
        else failure
      | .scalar isPlain text =>
        skip
        return scalarNode p isPlain text
      | .flowSequence =>
        skip
        return .sequence p.anchor p.tag (← flowItems true fuel)
      | .flowMapping =>
        skip
        return .mapping p.anchor p.tag (← flowEntries true fuel)
      | .blockSequence =>
        if block then
          skip
          return .sequence p.anchor p.tag (← blockItems fuel)
        else if p.anchor.isSome ∨ p.tag.isSome then return .empty p
        else failure
      | .blockMapping =>
        if block then
          skip
          return .mapping p.anchor p.tag (← blockEntries fuel)
        else if p.anchor.isSome ∨ p.tag.isSome then return .empty p
        else failure
      | _ => if p.anchor.isSome ∨ p.tag.isSome then return .empty p else failure

/-- A node, unless one of some tokens comes first. -/
def nodeUnless (ends : Token → Bool) (block bare : Bool) : Nat → Reading Node
  | 0 => failure
  | fuel + 1 => do
    if ends (← peek) then return .null else node block bare fuel

/-- The items of a block sequence, up to its end. -/
def blockItems : Nat → Reading (List Node)
  | 0 => failure
  | fuel + 1 => do
    match ← peek with
    | .blockEntry =>
      skip
      let item ← nodeUnless endsItem true false fuel
      return item :: (← blockItems fuel)
    | .blockEnd =>
      skip
      return []
    | _ => failure

/-- The items of a sequence that has no column of its own. -/
def bareItems : Nat → Reading (List Node)
  | 0 => failure
  | fuel + 1 => do
    match ← peek with
    | .blockEntry =>
      skip
      let item ← nodeUnless endsBareItem true false fuel
      return item :: (← bareItems fuel)
    | _ => return []

/-- The entries of a block mapping, up to its end. -/
def blockEntries : Nat → Reading (List (Node × Node))
  | 0 => failure
  | fuel + 1 => do
    match ← peek with
    | .key =>
      skip
      let key ← nodeUnless endsEntry true true fuel
      match ← peek with
      | .value =>
        skip
        let value ← nodeUnless endsEntry true true fuel
        return (key, value) :: (← blockEntries fuel)
      | _ => return (key, .null) :: (← blockEntries fuel)
    | .blockEnd =>
      skip
      return []
    | _ => failure

/-- The items of a flow sequence, up to its end. A key makes an item a mapping with one entry. -/
def flowItems (first : Bool) : Nat → Reading (List Node)
  | 0 => failure
  | fuel + 1 => do
    match ← peek with
    | .flowSequenceEnd =>
      skip
      return []
    | t =>
      if !first then
        match t with
        | .flowEntry => skip
        | _ => failure
      match ← peek with
      | .flowSequenceEnd =>
        skip
        return []
      | .key =>
        skip
        let entry ← flowPair fuel
        return .mapping none none [entry] :: (← flowItems false fuel)
      | _ =>
        let item ← node false false fuel
        return item :: (← flowItems false fuel)

/-- The entry of an item that is a mapping. Of an empty key the next token is dropped. -/
def flowPair : Nat → Reading (Node × Node)
  | 0 => failure
  | fuel + 1 => do
    let t ← peek
    let key ←
      match t with
      | .value => do
        skip
        pure Node.null
      | t =>
        if endsFlowItem t then do
          skip
          pure Node.null
        else node false false fuel
    match ← peek with
    | .value =>
      skip
      return (key, ← nodeUnless endsFlowItem false false fuel)
    | _ => return (key, .null)

/-- The entries of a flow mapping, up to its end. -/
def flowEntries (first : Bool) : Nat → Reading (List (Node × Node))
  | 0 => failure
  | fuel + 1 => do
    match ← peek with
    | .flowMappingEnd =>
      skip
      return []
    | t =>
      if !first then
        match t with
        | .flowEntry => skip
        | _ => failure
      match ← peek with
      | .flowMappingEnd =>
        skip
        return []
      | .key =>
        skip
        let key ← match ← peek with
          | .value => pure Node.null
          | t => if endsFlowEntry t then pure Node.null else node false false fuel
        match ← peek with
        | .value =>
          skip
          let value ← nodeUnless endsFlowEntry false false fuel
          return (key, value) :: (← flowEntries false fuel)
        | _ => return (key, .null) :: (← flowEntries false fuel)
      | _ =>
        let key ← node false false fuel
        return (key, .null) :: (← flowEntries false fuel)

end

/-! ## Documents -/

/-- The directives in front of a document; a version and a handle may come once. -/
def directives (versionSeen : Bool) : Nat → Reading Unit
  | 0 => failure
  | fuel + 1 => do
    match ← peek with
    | .version major minor =>
      if versionSeen ∨ major ≠ 1 ∨ (minor ≠ 1 ∧ minor ≠ 2) then failure
      else
        skip
        directives true fuel
    | .handle name text =>
      if ((← get).handles.lookup name).isSome then failure
      else
        skip
        modify fun s => { s with handles := (name, text) :: s.handles }
        directives versionSeen fuel
    | _ => return ()

/-- What may follow a document start without a node. -/
def endsDocument : Token → Bool
  | .version _ _ => true
  | .handle _ _ => true
  | .documentStart => true
  | .documentEnd => true
  | .streamEnd => true
  | _ => false

def skipDocumentEnds : Nat → Reading Unit
  | 0 => return ()
  | fuel + 1 => do
    match ← peek with
    | .documentEnd =>
      skip
      skipDocumentEnds fuel
    | _ => return ()

/-- The node of the first document; a text without one has none. -/
def document (fuel : Nat) : Reading (Option Node) := do
  match ← peek with
  | .streamEnd => return none
  | t =>
    if endsDocument t && !(t matches .documentEnd) then
      directives false fuel
      match ← peek with
      | .documentStart =>
        skip
        return some (← nodeUnless endsDocument true false fuel)
      | _ => failure
    else return some (← node true false fuel)

/-- The only document of the tokens. -/
def onlyDocument (fuel : Nat) : Reading (Option Node) := do
  let found ← document fuel
  skipDocumentEnds fuel
  match ← peek with
  | .streamEnd => return found
  | _ => failure

end Reading

def Node.ofTokens? (ts : List Token) : Option (Option Node) :=
  ((Reading.onlyDocument (3 * ts.length + 3)).run { tokens := ts }).map Prod.fst

end Reshape.Yaml
