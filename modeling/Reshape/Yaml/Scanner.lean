import Reshape.Yaml.Token

/-!
# Cutting YAML into tokens

The scanner keeps the columns of the block collections that are open, and for each flow collection the
place where a key may have begun: only the colon behind a key tells that it is one, so the token for a
key is then put in at the place that was kept.

* `tokens?`: the tokens of a text, or none if it cannot be cut.
-/

namespace Reshape.Yaml

/-- A place where a key may have begun. -/
structure KeyStart where
  /-- Nothing else than a key can stand there. -/
  required : Bool
  /-- The number of tokens before it. -/
  position : Nat
  line : Nat
  index : Nat
  column : Nat

structure Scanner where
  cursor : Cursor
  tokens : Array Token := #[]
  /-- The column of the innermost block collection; -1 without one. -/
  indent : Int := -1
  outerIndents : List Int := []
  /-- The last place where a key of the innermost flow collection may have begun. -/
  keyStart : Option KeyStart := none
  /-- Those of the collections around it; there are as many as open flow collections. -/
  outerKeys : List (Option KeyStart) := []
  keyAllowed : Bool := true

namespace Scanner

def inFlow (s : Scanner) : Bool :=
  !s.outerKeys.isEmpty

def push (s : Scanner) (t : Token) : Scanner :=
  { s with tokens := s.tokens.push t }

/-- A token put in after some of the others. -/
def insertAt (s : Scanner) (position : Nat) (t : Token) : Scanner :=
  let before := s.tokens.extract 0 position
  let behind := s.tokens.extract position s.tokens.size
  { s with tokens := before.push t ++ behind }

/-! ## Keys -/

/-- A key is on one line and at most 1024 characters long. -/
def staleKey (c : Cursor) (k : KeyStart) : Bool :=
  k.line < c.line || k.index + 1024 < c.index

def refresh? (c : Cursor) : Option KeyStart → Option (Option KeyStart)
  | none => some none
  | some k =>
    if staleKey c k then if k.required then none else some none else some (some k)

/-- Forgets the places that the scanner has left behind. -/
def refreshKeys? (s : Scanner) : Option Scanner := do
  let keyStart ← refresh? s.cursor s.keyStart
  let outerKeys ← s.outerKeys.mapM (refresh? s.cursor)
  return { s with keyStart, outerKeys }

def dropKey? (s : Scanner) : Option Scanner :=
  if s.keyStart.any KeyStart.required then none else some { s with keyStart := none }

/-- Keeps the current place if a key may begin there. -/
def saveKey? (s : Scanner) : Option Scanner :=
  if s.keyAllowed then do
    let required := !s.inFlow && s.indent = s.cursor.column
    let s ← s.dropKey?
    let c := s.cursor
    return { s with keyStart := some ⟨required, s.tokens.size, c.line, c.index, c.column⟩ }
  else some s

/-! ## Indentation -/

/-- Opens a block collection at a column, if none is open there. -/
def openBlock (s : Scanner) (column position : Nat) (t : Token) : Scanner :=
  if !s.inFlow && s.indent < column then
    { s.insertAt position t with indent := column, outerIndents := s.indent :: s.outerIndents }
  else s

def openBlockHere (s : Scanner) (t : Token) : Scanner :=
  s.openBlock s.cursor.column s.tokens.size t

/-- The tokens for the ends of collections that are indented by more than a column. -/
def closing (column : Int) (indent : Int) : List Int → Nat × Int × List Int
  | [] => (0, indent, [])
  | outer :: rest =>
    if column < indent then
      let (count, left) := closing column outer rest
      (count + 1, left)
    else (0, indent, outer :: rest)

def closeBlocks (s : Scanner) (column : Int) : Scanner :=
  if s.inFlow then s
  else
    let (count, indent, outerIndents) := closing column s.indent s.outerIndents
    { s with
      tokens := s.tokens ++ (List.replicate count Token.blockEnd).toArray
      indent, outerIndents }

/-! ## Tokens -/

/-- A token of some characters. -/
def take (s : Scanner) (length : Nat) (t : Token) : Scanner :=
  { s.push t with cursor := s.cursor.advance length }

def allowKey (s : Scanner) (keyAllowed : Bool) : Scanner :=
  { s with keyAllowed }

def documentMark? (s : Scanner) (t : Token) : Option Scanner := do
  return ((← (s.closeBlocks (-1)).dropKey?).allowKey false).take 3 t

def directive? (s : Scanner) : Option Scanner := do
  let s := (← (s.closeBlocks (-1)).dropKey?).allowKey false
  let (t, cursor) ← Token.directive? s.cursor.next
  return { s.push t with cursor }

def openFlow? (s : Scanner) (t : Token) : Option Scanner := do
  let s ← s.saveKey?
  let s := { s with keyStart := none, outerKeys := s.keyStart :: s.outerKeys, keyAllowed := true }
  return s.take 1 t

def closeFlow? (s : Scanner) (t : Token) : Option Scanner := do
  let s ← s.dropKey?
  let s := match s.outerKeys with
    | [] => s
    | outer :: rest => { s with keyStart := outer, outerKeys := rest }
  return (s.allowKey false).take 1 t

def flowEntry? (s : Scanner) : Option Scanner := do
  return ((← s.dropKey?).allowKey true).take 1 .flowEntry

def blockEntry? (s : Scanner) : Option Scanner :=
  if !s.inFlow && !s.keyAllowed then none
  else do
    return ((← (s.openBlockHere .blockSequence).dropKey?).allowKey true).take 1 .blockEntry

def key? (s : Scanner) : Option Scanner :=
  if !s.inFlow && !s.keyAllowed then none
  else do
    let s ← (s.openBlockHere .blockMapping).dropKey?
    return (s.allowKey (!s.inFlow)).take 1 .key

/-- The colon behind a key. If a key may have begun before it, the token for the key is put in there. -/
def value? (s : Scanner) : Option Scanner :=
  match s.keyStart with
  | some k =>
    let s := (s.insertAt k.position .key).openBlock k.column k.position .blockMapping
    some ({ s with keyStart := none, keyAllowed := false }.take 1 .value)
  | none =>
    if !s.inFlow && !s.keyAllowed then none
    else
      let s := s.openBlockHere .blockMapping
      some ((s.allowKey (!s.inFlow)).take 1 .value)

def anchor? (s : Scanner) (t : String → Token) : Option Scanner := do
  let s := (← s.saveKey?).allowKey false
  let (name, cursor) ← Token.anchorName? s.cursor.next
  return { s.push (t name) with cursor }

def tag? (s : Scanner) : Option Scanner := do
  let s := (← s.saveKey?).allowKey false
  let (t, cursor) ← Token.scanTag? s.inFlow s.cursor
  return { s.push t with cursor }

def scalar (s : Scanner) (isPlain : Bool) (found : Scanned) : Scanner :=
  let s := s.push (.scalar isPlain (String.ofList found.text))
  { s with cursor := found.cursor, keyAllowed := s.keyAllowed || found.atNewLine }

def blockScalar? (s : Scanner) (literal : Bool) : Option Scanner := do
  let s := (← s.dropKey?).allowKey true
  return s.scalar false (← block? literal s.indent s.cursor.next)

def quotedScalar? (s : Scanner) (double : Bool) : Option Scanner := do
  let s := (← s.saveKey?).allowKey false
  return s.scalar false (← quoted? double s.cursor.next)

def plainScalar? (s : Scanner) : Option Scanner := do
  let s := (← s.saveKey?).allowKey false
  return s.scalar true (← plain? s.inFlow (s.indent + 1).toNat s.cursor)

/-- The characters that no plain scalar begins with, those aside that may begin one before a
character that is no white space. -/
def isIndicator (c : Char) : Bool :=
  ['-', '?', ':', ',', '[', ']', '\x7b', '\x7d', '#', '&', '*', '!', '|', '>', '\'', '"', '%', '@',
    '\x60'].contains c

def beginsPlain (flow : Bool) (c : Char) (second : Option Char) : Bool :=
  !(isGap c || isIndicator c)
    || (c = '-' && !(second.map isBlank).getD false)
    || (!flow && (c = '?' || c = ':') && !endsWord second)

/-- One token, or several that come together, at a place that is no white space. -/
def token? (s : Scanner) (c : Char) : Option Scanner :=
  let second := s.cursor.ahead 1
  let open? := s.inFlow || endsWord second
  if s.cursor.column = 0 ∧ c = '%' then s.directive?
  else if s.cursor.marksDocument '-' then s.documentMark? .documentStart
  else if s.cursor.marksDocument '.' then s.documentMark? .documentEnd
  else if c = '[' then s.openFlow? .flowSequence
  else if c = '\x7b' then s.openFlow? .flowMapping
  else if c = ']' then s.closeFlow? .flowSequenceEnd
  else if c = '\x7d' then s.closeFlow? .flowMappingEnd
  else if c = ',' then s.flowEntry?
  else if c = '-' ∧ endsWord second then s.blockEntry?
  else if c = '?' ∧ open? then s.key?
  else if c = ':' ∧ open? then s.value?
  else if c = '*' then s.anchor? .reference
  else if c = '&' then s.anchor? .anchor
  else if c = '!' then s.tag?
  else if c = '|' ∧ !s.inFlow then s.blockScalar? true
  else if c = '>' ∧ !s.inFlow then s.blockScalar? false
  else if c = '\'' then s.quotedScalar? false
  else if c = '"' then s.quotedScalar? true
  else if beginsPlain s.inFlow c second then s.plainScalar?
  else none

/-- Skips white space and comments. A new line may begin a key, except in a flow collection; where a key
may begin, tabs are not skipped. -/
def skipGaps : Nat → Scanner → Scanner
  | 0, s => s
  | fuel + 1, s =>
    let c := if s.cursor.column = 0 ∧ (s.cursor.peek.map isByteOrderMark).getD false
      then s.cursor.next else s.cursor
    let c := c.skip fun ch => ch = ' ' || ((s.inFlow || !s.keyAllowed) && ch = '\t')
    let c := c.skipComment
    if (c.peek.map isBreak).getD false then
      skipGaps fuel { s with cursor := c.next, keyAllowed := s.keyAllowed || !s.inFlow }
    else { s with cursor := c }

/-- The end of the text, which begins a new line. -/
def finish? (s : Scanner) : Option Scanner := do
  return (← (s.closeBlocks (-1)).dropKey?).push .streamEnd

def run? : Nat → Scanner → Option Scanner
  | 0, _ => none
  | fuel + 1, s => do
    let s ← (skipGaps (s.cursor.rest.length + 1) s).refreshKeys?
    let s := s.closeBlocks s.cursor.column
    match s.cursor.peek with
    | none => s.finish?
    | some c => run? fuel (← s.token? c)

end Scanner

def tokens? (text : List Char) : Option (List Token) :=
  (Scanner.run? (text.length + 1) { cursor := { rest := text } }).map (·.tokens.toList)

end Reshape.Yaml
