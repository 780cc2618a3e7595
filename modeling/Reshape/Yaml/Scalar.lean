import Reshape.Yaml.Cursor

/-!
# Scalars in YAML

A scalar is written plainly, between single or double quotes, or as a block of lines. In the first
three forms a line break is folded: a single one becomes a space, and of several the first is
dropped. A block keeps its breaks if it is literal and folds them between lines of text otherwise.

* `plain?`, `quoted?`, `block?`: the text of a scalar and the place after it.
-/

namespace Reshape.Yaml

/-- What white space between two parts of a scalar stands for. After an escaped break the first break
is not counted. -/
def foldGap (escaped : Bool) (gap : List Char) : List Char :=
  match gap.filter isBreak with
  | [] => if escaped then [] else gap
  | first :: others =>
    if escaped then first :: others
    else if first = '\n' then if others.isEmpty then [' '] else others
    else first :: others

/-! ## Plain scalars -/

def isFlowMark (c : Char) : Bool :=
  [',', '[', ']', '\x7b', '\x7d'].contains c

/-- The part of a plain scalar up to white space or a character that ends it. In a flow collection a
colon in front of a mark is refused. -/
def plainPart? (flow : Bool) : List Char → Option (List Char)
  | [] => some []
  | c :: rest =>
    if isGap c then some []
    else if flow && c = ':' && rest.head?.any fun d => isFlowMark d || d = '?' then none
    else if c = ':' && endsWord rest.head? then some []
    else if flow && isFlowMark c then some []
    else (plainPart? flow rest).map (c :: ·)

/-- No tab may stand before the indentation of a line that continues a scalar. -/
def tabsAllowed (indent : Nat) (inLine : Bool) (column : Nat) : List Char → Bool
  | [] => true
  | c :: rest =>
    if isBreak c then tabsAllowed indent true 0 rest
    else (!inLine || c ≠ '\t' || indent ≤ column)
      && tabsAllowed indent inLine (column + 1) rest

/-- A scanned scalar: its text, the place after it, and whether it ended at a new line. -/
structure Scanned where
  text : List Char
  cursor : Cursor
  atNewLine : Bool := false

/-- A plain scalar from a place on, after `text` and a gap. Lines that continue it are indented by
`indent` columns, except in a flow collection. -/
def plainFrom? (flow : Bool) (indent : Nat) : Nat → Scanned → List Char → Option Scanned
  | 0, _, _ => none
  | fuel + 1, s, gap =>
    if s.cursor.atDocumentMark || s.cursor.peek = some '#' then some s
    else do
      let part ← plainPart? flow s.cursor.rest
      let c := s.cursor.advance part.length
      let s := if part.isEmpty then s
        else { text := s.text ++ foldGap false gap ++ part, cursor := c : Scanned }
      if (c.peek.map isGap).getD false then
        let (gap, next) := c.span isGap
        let broken := gap.any isBreak
        if !tabsAllowed indent false c.column gap then none
        else
          let s := { s with cursor := next, atNewLine := broken }
          if !flow && next.column < indent then some s
          else plainFrom? flow indent fuel s gap
      else some s

def plain? (flow : Bool) (indent : Nat) (c : Cursor) : Option Scanned :=
  plainFrom? flow indent (c.rest.length + 1) { text := [], cursor := c } []

/-! ## Quoted scalars -/

/-- The character of a one-letter escape. -/
def escape? (c : Char) : Option Char :=
  [('0', 0x00), ('a', 0x07), ('b', 0x08), ('t', 0x09), ('\t', 0x09), ('n', 0x0A), ('v', 0x0B),
    ('f', 0x0C), ('r', 0x0D), ('e', 0x1B), (' ', 0x20), ('"', 0x22), ('/', 0x2F), ('\\', 0x5C),
    ('N', 0x85), ('_', 0xA0), ('L', 0x2028), ('P', 0x2029)].lookup c |>.map Char.ofNat

/-- The number of digits of an escape by code point. -/
def codeLength? (c : Char) : Option Nat :=
  [('x', 2), ('u', 4), ('U', 8)].lookup c

def ofHexDigits (ds : List Char) : Nat :=
  ds.foldl (fun n d => n * 16 + hexValue d) 0

/-- The character of a code point; surrogates have none. -/
def codePoint? (n : Nat) : Option Char :=
  if n.isValidChar then some (Char.ofNat n) else none

/-- An escape after its backslash: the character, and the number of characters of the escape. -/
def readEscape? : List Char → Option (Char × Nat)
  | [] => none
  | c :: rest =>
    match codeLength? c with
    | some length =>
      let ds := rest.take length
      if ds.length = length ∧ ds.all isHexDigit then
        (codePoint? (ofHexDigits ds)).map fun ch => (ch, length + 1)
      else none
    | none => (escape? c).map fun ch => (ch, 1)

/-- Why a part of a quoted scalar ends. -/
inductive PartEnd where
  | quote
  | gap
  | escapedBreak

/-- A part of a quoted scalar up to white space, an escaped break or the closing quote. -/
def quotedPart? (double : Bool) : Nat → List Char → Cursor → Option (List Char × Cursor × PartEnd)
  | 0, _, _ => none
  | fuel + 1, text, c =>
    match c.rest with
    | [] => some (text, c, .gap)
    | ch :: rest =>
      if isGap ch then some (text, c, .gap)
      else if !double && ch = '\'' then
        if rest.head? = some '\'' then quotedPart? double fuel (text ++ ['\'']) (c.advance 2)
        else some (text, c, .quote)
      else if double && ch = '"' then some (text, c, .quote)
      else if double && ch = '\\' then
        if rest.head?.any isBreak then some (text, c.advance 2, .escapedBreak)
        else
          match readEscape? rest with
          | some (escaped, length) =>
            quotedPart? double fuel (text ++ [escaped]) (c.advance (length + 1))
          | none => none
      else quotedPart? double fuel (text ++ [ch]) c.next

def quotedFrom? (double : Bool) : Nat → List Char → Cursor → Option Scanned
  | 0, _, _ => none
  | fuel + 1, text, c =>
    if c.atDocumentMark || c.rest.isEmpty then none
    else do
      let (part, c, ending) ← quotedPart? double (c.rest.length + 1) [] c
      let text := text ++ part
      match ending with
      | .quote => return { text, cursor := c.next }
      | .gap =>
        let (gap, c) := c.span isGap
        quotedFrom? double fuel (text ++ foldGap false gap) c
      | .escapedBreak =>
        let (gap, c) := c.span isGap
        quotedFrom? double fuel (text ++ foldGap true gap) c

/-- A quoted scalar after its opening quote. -/
def quoted? (double : Bool) (c : Cursor) : Option Scanned :=
  quotedFrom? double (c.rest.length + 1) [] c

/-! ## Block scalars -/

/-- What becomes of the breaks at the end of a block. -/
inductive Chomping where
  | clip
  | strip
  | keep
deriving DecidableEq

/-- The header of a block: how it is chomped, and by how much it is indented, if that is written. -/
structure BlockHeader where
  chomping : Chomping := .clip
  indent : Option Nat := none

def chomping? (c : Char) : Option Chomping :=
  if c = '+' then some .keep else if c = '-' then some .strip else none

/-- An indentation from 1 to 9. -/
def indentMark? (c : Char) : Option Nat :=
  if c.isDigit ∧ c ≠ '0' then some (c.toNat - '0'.toNat) else none

/-- The marks of a header come in either order. -/
def blockHeader (c : Cursor) : BlockHeader × Cursor :=
  match c.peek.bind chomping? with
  | some chomping =>
    match c.next.peek.bind indentMark? with
    | some n => (⟨chomping, some n⟩, c.advance 2)
    | none => (⟨chomping, none⟩, c.next)
  | none =>
    match c.peek.bind indentMark? with
    | some n =>
      match c.next.peek.bind chomping? with
      | some chomping => (⟨chomping, some n⟩, c.advance 2)
      | none => (⟨.clip, some n⟩, c.next)
    | none => ({}, c)

/-- The indentation of a line of a block, as far as it goes. -/
def skipIndent (limit : Option Nat) (c : Cursor) : Cursor :=
  let spaces := (c.rest.takeWhile (· = ' ')).length
  match limit with
  | some n => c.advance (min spaces (n - c.column))
  | none => c.advance spaces

/-- Breaks of empty lines, the place after them, and the largest column reached. A tab where the
indentation is still open is refused. -/
def emptyLines? (limit : Option Nat) :
    Nat → List Char → Nat → Cursor → Option (List Char × Nat × Cursor)
  | 0, _, _, _ => none
  | fuel + 1, breaks, widest, c =>
    let c := skipIndent limit c
    let widest := max widest c.column
    if c.peek = some '\t' ∧ limit.all (c.column < ·) then none
    else
      match c.peek with
      | some ch =>
        if isBreak ch then emptyLines? limit fuel (breaks ++ [ch]) widest c.next
        else some (breaks, widest, c)
      | none => some (breaks, widest, c)

/-- The state of a block between two lines. -/
structure BlockLines where
  text : List Char := []
  /-- The break after the last line. -/
  leading : List Char := []
  /-- Those of the empty lines behind it. -/
  trailing : List Char
  /-- The last line began with a blank. -/
  afterBlank : Bool := false
  cursor : Cursor

/-- The breaks between two lines: in a folded block the first is dropped, or becomes a space, unless one
of the lines begins with a blank. -/
def joinLines (literal beginsBlank : Bool) (b : BlockLines) : List Char :=
  if !literal && b.leading = ['\n'] && !b.afterBlank && !beginsBlank then
    if b.trailing.isEmpty then [' '] else b.trailing
  else b.leading ++ b.trailing

def blockLines? (literal : Bool) (indent : Nat) : Nat → BlockLines → Option BlockLines
  | 0, _ => none
  | fuel + 1, b =>
    if b.cursor.column ≠ indent ∨ b.cursor.rest.isEmpty then some b
    else do
      let blank := (b.cursor.peek.map isBlank).getD false
      let (line, c) := b.cursor.span (!isBreak ·)
      let leading := c.rest.take 1
      let (trailing, _, next) ← emptyLines? (some indent) (c.rest.length + 1) [] 0 c.next
      blockLines? literal indent fuel {
        text := b.text ++ joinLines literal blank b ++ line
        leading, trailing, afterBlank := blank, cursor := next }

/-- A block scalar after its mark, inside a collection that is indented by `outer` columns, or by -1 at
the top. -/
def block? (literal : Bool) (outer : Int) (c : Cursor) : Option Scanned := do
  let (header, c) := blockHeader c
  let c ← c.endLine?
  let limit := header.indent.map fun n => if 0 ≤ outer then outer.toNat + n else n
  let (trailing, widest, c) ← emptyLines? limit (c.rest.length + 1) [] 0 c
  let indent := limit.getD (max widest (max (outer + 1).toNat 1))
  let b ← blockLines? literal indent (c.rest.length + 1) { trailing, cursor := c }
  let tail := match header.chomping with
    | .strip => []
    | .clip => b.leading
    | .keep => b.leading ++ b.trailing
  return { text := b.text ++ tail, cursor := b.cursor }

end Reshape.Yaml
