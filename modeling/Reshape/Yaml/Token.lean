import Reshape.Yaml.Scalar

/-!
# Tokens of YAML

The tokens that a text is cut into, and the scanning of those that hold a name: anchors, aliases,
tags and directives.
-/

namespace Reshape.Yaml

inductive Token where
  | version (major minor : Nat)
  /-- Tags with the handle begin with the text. -/
  | handle (handle text : String)
  | documentStart
  | documentEnd
  | blockSequence
  | blockMapping
  | blockEnd
  | flowSequence
  | flowSequenceEnd
  | flowMapping
  | flowMappingEnd
  | blockEntry
  | flowEntry
  | key
  | value
  | reference (name : String)
  | anchor (name : String)
  | tag (handle suffix : String)
  | scalar (isPlain : Bool) (text : String)
  | streamEnd

namespace Token

/-! ## Anchors and aliases -/

/-- What may stand behind an anchor besides white space. -/
def endsAnchor (c : Option Char) : Bool :=
  endsWord c || c.any fun c => ['?', ':', ',', ']', '\x7d', '%', '@', '\x60'].contains c

/-- A name after its mark. -/
def anchorName? (c : Cursor) : Option (String × Cursor) :=
  let (name, next) := c.span isWord
  if name.isEmpty ∨ !endsAnchor next.peek then none else some (String.ofList name, next)

/-! ## Tags -/

/-- The characters of a tag; inside angle brackets there are more. -/
def isTagChar (bracketed : Bool) (c : Char) : Bool :=
  isWord c || [';', '/', '?', ':', '@', '&', '=', '+', '$', '.', '!', '~', '*', '\'', '(', ')'].contains c
    || (bracketed && [',', '[', ']'].contains c)

/-- The number of bytes of a character by its first byte. -/
def byteCount? (first : Nat) : Option Nat :=
  if first < 0x80 then some 1
  else if 0xC0 ≤ first ∧ first < 0xE0 then some 2
  else if 0xE0 ≤ first ∧ first < 0xF0 then some 3
  else if 0xF0 ≤ first ∧ first < 0xF8 then some 4
  else none

/-- A byte written as a percent sign and two digits. -/
def escapedByte? : List Char → Option (Nat × List Char)
  | '%' :: a :: b :: rest =>
    if isHexDigit a ∧ isHexDigit b then some (hexValue a * 16 + hexValue b, rest) else none
  | _ => none

def continuationBytes? : Nat → Nat → List Char → Option (Nat × List Char)
  | 0, n, rest => some (n, rest)
  | count + 1, n, text => do
    let (b, rest) ← escapedByte? text
    if 0x80 ≤ b ∧ b < 0xC0 then continuationBytes? count (n * 64 + (b - 0x80)) rest else none

/-- A character written by its escaped bytes, and the number of characters of the escapes. -/
def escapedChar? (text : List Char) : Option (Char × Nat) := do
  let (first, rest) ← escapedByte? text
  let count ← byteCount? first
  let lead := if count = 1 then first else first % Nat.pow 2 (7 - count)
  let (n, _) ← continuationBytes? (count - 1) lead rest
  return (Char.ofNat n, 3 * count)

/-- The characters of a tag as far as they go. -/
def tagText? (bracketed : Bool) : Nat → List Char → Cursor → Option (List Char × Cursor)
  | 0, text, c => some (text, c)
  | fuel + 1, text, c =>
    match c.peek with
    | none => some (text, c)
    | some ch =>
      if ch = '%' then
        match escapedChar? c.rest with
        | some (escaped, length) => tagText? bracketed fuel (text ++ [escaped]) (c.advance length)
        | none => none
      else if isTagChar bracketed ch then tagText? bracketed fuel (text ++ [ch]) c.next
      else some (text, c)

def tagRest? (bracketed : Bool) (c : Cursor) : Option (List Char × Cursor) :=
  tagText? bracketed c.rest.length [] c

/-- An exclamation mark with the word characters behind it, and a closing mark if there is one. -/
def handleText? (c : Cursor) : Option (List Char × Cursor) :=
  if c.peek = some '!' then
    let (word, next) := c.next.span isWord
    if next.peek = some '!' then some ('!' :: word ++ ['!'], next.next)
    else some ('!' :: word, next)
  else none

/-- A tag: its text in angle brackets, or a handle with a suffix. -/
def tagAt? (c : Cursor) : Option (Token × Cursor) :=
  if c.ahead 1 = some '<' then do
    let (text, c) ← tagRest? true (c.advance 2)
    if text.isEmpty ∨ c.peek ≠ some '>' then none
    else some (tag "" (String.ofList text), c.next)
  else do
    let (front, c) ← handleText? c
    let (text, c) ← tagRest? false c
    if 2 ≤ front.length ∧ front.getLast? = some '!' then
      if text.isEmpty then none else some (tag (String.ofList front) (String.ofList text), c)
    else
      let suffix := front.drop 1 ++ text
      if suffix.isEmpty then some (tag "" "!", c) else some (tag "!" (String.ofList suffix), c)

/-- A tag ends at white space, or in a flow collection at a comma. -/
def scanTag? (flow : Bool) (c : Cursor) : Option (Token × Cursor) := do
  let (t, c) ← tagAt? c
  if (flow ∧ c.peek = some ',') ∨ endsWord c.peek then some (t, c) else none

/-! ## Directives -/

/-- A number of up to nine digits. -/
def versionNumber? (c : Cursor) : Option (Nat × Cursor) :=
  let (ds, next) := c.span Char.isDigit
  if ds.isEmpty ∨ 9 < ds.length then none else some (Decimal.ofDigits ds, next)

def versionAt? (c : Cursor) : Option (Token × Cursor) := do
  let (major, c) ← versionNumber? (c.skip isBlank)
  if c.peek ≠ some '.' then none
  else
    let (minor, c) ← versionNumber? c.next
    return (version major minor, c)

def handleAt? (c : Cursor) : Option (Token × Cursor) := do
  let (name, c) ← handleText? (c.skip isBlank)
  if name.getLast? ≠ some '!' ∨ ¬ (c.peek.map isBlank).getD false then none
  else
    let (text, c) ← tagRest? true (c.skip isBlank)
    if text.isEmpty ∨ !endsWord c.peek then none
    else some (handle (String.ofList name) (String.ofList text), c)

/-- A directive after its percent sign, up to the next line. -/
def directive? (c : Cursor) : Option (Token × Cursor) := do
  let (name, c) := c.span isWord
  if !endsWord c.peek then none
  else
    let (t, c) ←
      if name = "YAML".toList then versionAt? c
      else if name = "TAG".toList then handleAt? c
      else none
    return (t, ← c.endLine?)

end Token

end Reshape.Yaml
