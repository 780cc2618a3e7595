import Reshape.Decimal.Reading

/-!
# Places in a YAML text

A cursor is the rest of a text with its place in lines and columns. Line breaks are made uniform
before the text is scanned, so that a break is one character.

* `prepare?`: the characters of a text, if all of them may stand in YAML.
* `Cursor.advance`: the place after some characters.
-/

namespace Reshape.Yaml

/-! ## Characters -/

def isBlank (c : Char) : Bool :=
  c = ' ' || c = '\t'

/-- Line breaks after `prepare?`. -/
def isBreak (c : Char) : Bool :=
  c = '\n' || c.toNat = 0x2028 || c.toNat = 0x2029

def isGap (c : Char) : Bool :=
  isBlank c || isBreak c

/-- White space or the end of the text. -/
def endsWord : Option Char → Bool
  | none => true
  | some c => isGap c

/-- The end of a line or of the text. -/
def endsLine : Option Char → Bool
  | none => true
  | some c => isBreak c

/-- The characters of anchors, directives and tag handles. -/
def isWord (c : Char) : Bool :=
  c.isAlphanum || c = '_' || c = '-'

def isHexDigit (c : Char) : Bool :=
  c.isDigit || ('a' ≤ c && c ≤ 'f') || ('A' ≤ c && c ≤ 'F')

def hexValue (c : Char) : Nat :=
  if c.isDigit then c.toNat - '0'.toNat
  else if 'a' ≤ c then c.toNat - 'a'.toNat + 10
  else c.toNat - 'A'.toNat + 10

/-- The characters that may stand in a YAML text. -/
def isPrintable (c : Char) : Bool :=
  let n := c.toNat
  n = 9 || n = 10 || n = 13 || (0x20 ≤ n && n ≤ 0x7E) || n = 0x85 || (0xA0 ≤ n && n ≤ 0xFFFD)
    || 0x10000 ≤ n

/-- Every line break but the Unicode separators as one line feed. -/
def unifyBreaks : List Char → List Char
  | [] => []
  | '\r' :: '\n' :: rest => '\n' :: unifyBreaks rest
  | '\r' :: rest => '\n' :: unifyBreaks rest
  | c :: rest => (if c.toNat = 0x85 then '\n' else c) :: unifyBreaks rest

def isByteOrderMark (c : Char) : Bool :=
  c.toNat = 0xFEFF

/-- The characters to be scanned, without a byte order mark at the start. -/
def prepare? (text : String) : Option (List Char) :=
  let cs := match text.toList with
    | c :: rest => if isByteOrderMark c then rest else c :: rest
    | [] => []
  if cs.all isPrintable then some (unifyBreaks cs) else none

/-! ## Cursors -/

structure Cursor where
  rest : List Char
  index : Nat := 0
  line : Nat := 0
  column : Nat := 0

namespace Cursor

def peek (c : Cursor) : Option Char :=
  c.rest.head?

/-- The character some places ahead. -/
def ahead (c : Cursor) (n : Nat) : Option Char :=
  c.rest[n]?

/-- The place after one character. -/
def next (c : Cursor) : Cursor :=
  match c.rest with
  | [] => c
  | ch :: rest =>
    if isBreak ch then ⟨rest, c.index + 1, c.line + 1, 0⟩
    else ⟨rest, c.index + 1, c.line, c.column + 1⟩

def advance (c : Cursor) : Nat → Cursor
  | 0 => c
  | n + 1 => c.next.advance n

/-- The characters in front that pass a test, and the place after them. -/
def span (c : Cursor) (test : Char → Bool) : List Char × Cursor :=
  let found := c.rest.takeWhile test
  (found, c.advance found.length)

def skip (c : Cursor) (test : Char → Bool) : Cursor :=
  (c.span test).2

def startsWith (c : Cursor) (text : List Char) : Bool :=
  text.isPrefixOf c.rest

/-- Three marks at the start of a line, which begin or end a document. -/
def marksDocument (c : Cursor) (mark : Char) : Bool :=
  c.column = 0 && c.startsWith [mark, mark, mark] && endsWord (c.ahead 3)

def atDocumentMark (c : Cursor) : Bool :=
  c.marksDocument '-' || c.marksDocument '.'

/-- The place after blanks and a comment. -/
def skipComment (c : Cursor) : Cursor :=
  if c.peek = some '#' then c.skip (!isBreak ·) else c

/-- The next line, if only blanks and a comment are left of this one. -/
def endLine? (c : Cursor) : Option Cursor :=
  let c := (c.skip isBlank).skipComment
  if endsLine c.peek then some c.next else none

end Cursor

end Reshape.Yaml
