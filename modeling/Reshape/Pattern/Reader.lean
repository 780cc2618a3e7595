import Reshape.Decimal.Reading
import Reshape.Json.Reader
import Reshape.Pattern.Class
import Reshape.Pattern.Weight
import Reshape.Text.Blank
import Reshape.Unicode.Property

/-!
# Reading patterns

The written form of patterns: literal characters, `.`, bracket classes with set operations, escapes,
anchors and word boundaries, groups with or without number and name, inline flags, alternatives,
and greedy or lazy repetitions. Look-around and references back to groups are refused.
-/

namespace Reshape.Pattern

/-- The inline flags, named for their letters. -/
structure Flags where
  /-- Letters match in either case. -/
  i : Bool := false
  /-- `^` and `$` match at line breaks too. -/
  m : Bool := false
  /-- `.` matches line breaks too. -/
  s : Bool := false
  /-- Repetitions are lazy, and those marked lazy are greedy. -/
  swap : Bool := false
  /-- Classes and case are those of Unicode and not of ASCII. -/
  u : Bool := true
  /-- A carriage return belongs to a line break. -/
  r : Bool := false
  /-- White space and comments between the parts are skipped. -/
  x : Bool := false

namespace Flags

def folding (f : Flags) : Folding :=
  if f.i then if f.u then .unicode else .ascii else .exact

def word (f : Flags) : CharSet :=
  if f.u then .word else .asciiWord

/-- The set of `.`; without Unicode it would match single bytes, which is refused. -/
def dot? (f : Flags) : Option CharSet :=
  if ¬ f.u then none
  else if f.s then some .all
  else if f.r then some (.compl (.ranges [10, 10, 13, 13]))
  else some (.compl (.ranges [10, 10]))

def lineStart (f : Flags) : Place :=
  if f.m then .lineStart f.r else .textStart

def lineEnd (f : Flags) : Place :=
  if f.m then .lineEnd f.r else .textEnd

def set? (f : Flags) (letter : Char) (on : Bool) : Option Flags :=
  if letter = 'i' then some { f with i := on }
  else if letter = 'm' then some { f with m := on }
  else if letter = 's' then some { f with s := on }
  else if letter = 'U' then some { f with swap := on }
  else if letter = 'u' then some { f with u := on }
  else if letter = 'R' then some { f with r := on }
  else if letter = 'x' then some { f with x := on }
  else none

/-- The text after white space and comments up to the line's end, under the flag that skips them. -/
def skipFrom (inComment : Bool) : List Char → List Char
  | [] => []
  | c :: rest =>
    if inComment then skipFrom (c != '\n') rest
    else if c = '#' then skipFrom true rest
    else if Text.isBlank c then skipFrom false rest
    else c :: rest

def skip (f : Flags) (text : List Char) : List Char :=
  if f.x then skipFrom false text else text

end Flags

/-! ## Escapes -/

/-- What an escape stands for. -/
inductive Escape where
  | char (c : Char)
  | set (s : CharSet)
  | place (p : Place)

def isMeta (c : Char) : Bool :=
  ['\\', '.', '+', '*', '?', '(', ')', '|', '[', ']', '\x7b', '\x7d', '^', '$', '#', '&', '-',
    '~'].contains c

/-- Characters that a backslash leaves as they are. -/
def isPlainEscape (c : Char) : Bool :=
  isMeta c || (c.toNat < 128 && !c.isAlphanum && c != '<' && c != '>')

def charOf? (n : Nat) : Option Char :=
  if h : n.isValidChar then some (Char.ofNatAux n h) else none

def hexNumber? : List Char → Option Nat
  | [] => none
  | ds => ds.foldlM (fun n d => (Json.hexValue? d).map fun v => 16 * n + v) 0

/-- A code point in hexadecimal: any number of digits in braces, or exactly `count` of them. -/
def readHex? (count : Nat) : List Char → Option (Char × List Char)
  | '\x7b' :: rest => do
    let ds := rest.takeWhile (· != '\x7d')
    match rest.drop ds.length with
    | _ :: rest => return (← charOf? (← hexNumber? ds), rest)
    | [] => none
  | rest => do
    let ds := rest.take count
    if ds.length = count then return (← charOf? (← hexNumber? ds), rest.drop count) else none

/-- The parts before and behind the first of some separators. -/
def splitAt? (separators : List (List Char)) : List Char → Option (List Char × List Char × List Char)
  | [] => none
  | c :: rest =>
    match separators.find? (·.isPrefixOf (c :: rest)) with
    | some sep => some ([], sep, (c :: rest).drop sep.length)
    | none => (splitAt? separators rest).map fun (before, sep, behind) => (c :: before, sep, behind)

/-- The set of a property in braces: its name, or a name and a value. -/
def propertyInBraces? (text : List Char) : Option CharSet :=
  match splitAt? ["!=".toList] text with
  | some (name, _, value) => (CharSet.propertyValue? name value).map .compl
  | none =>
    match (splitAt? [":".toList] text).or (splitAt? ["=".toList] text) with
    | some (name, _, value) => CharSet.propertyValue? name value
    | none => CharSet.property? text

def readProperty? : List Char → Option (CharSet × List Char)
  | '\x7b' :: rest => do
    let name := rest.takeWhile (· != '\x7d')
    match rest.drop name.length with
    | _ :: rest => return (← propertyInBraces? name, rest)
    | [] => none
  | c :: rest => do return (← CharSet.property? [c], rest)
  | [] => none

/-- The boundary that a name in braces after `\b` asks for, and what follows. Other braces are left
to be read as a repetition. -/
def readBoundary? (f : Flags) (text : List Char) : Option (Place × List Char) :=
  let named : List (String × Place) :=
    [("start", .wordStart f.word), ("end", .wordEnd f.word),
      ("start-half", .wordStartHalf f.word), ("end-half", .wordEndHalf f.word)]
  match text with
  | '\x7b' :: rest =>
    let name := rest.takeWhile fun c => c.isAlpha || c == '-'
    if name.isEmpty then some (.boundary f.word, text)
    else
      match rest.drop name.length with
      | '\x7d' :: after => (named.lookup (String.ofList name)).map fun p => (p, after)
      | _ => none
  | text => some (.boundary f.word, text)

/-- A set or its complement. -/
def signed (negated : Bool) (s : CharSet) : CharSet :=
  if negated then .compl s else s

/-- The set of `\d`, `\s`, `\w` or a capital for its complement. -/
def shorthand? (f : Flags) (c : Char) : Option CharSet :=
  let negated := c.isUpper
  let c := c.toLower
  let s? : Option CharSet :=
    if c = 'd' then some (if f.u then .digit else .asciiDigit)
    else if c = 's' then some (if f.u then .space else .asciiSpace)
    else if c = 'w' then some f.word
    else none
  if negated ∧ ¬ f.u then none else s?.map (signed negated)

def readEscape? (f : Flags) : List Char → Option (Escape × List Char)
  | [] => none
  | c :: rest =>
    if c = 'x' then (readHex? 2 rest).map fun (c, rest) => (.char c, rest)
    else if c = 'u' then (readHex? 4 rest).map fun (c, rest) => (.char c, rest)
    else if c = 'U' then (readHex? 8 rest).map fun (c, rest) => (.char c, rest)
    else if c = 'p' ∨ c = 'P' then
      (readProperty? rest).map fun (s, rest) => (.set (signed (c == 'P') s), rest)
    else if isPlainEscape c then some (.char c, rest)
    else if c = 'a' then some (.char '\x07', rest)
    else if c = 'f' then some (.char '\x0c', rest)
    else if c = 't' then some (.char '\t', rest)
    else if c = 'n' then some (.char '\n', rest)
    else if c = 'r' then some (.char '\r', rest)
    else if c = 'v' then some (.char '\x0b', rest)
    else if c = 'A' then some (.place .textStart, rest)
    else if c = 'z' then some (.place .textEnd, rest)
    else if c = 'b' then (readBoundary? f rest).map fun (p, rest) => (.place p, rest)
    else if c = 'B' then some (.place (.noBoundary f.word), rest)
    else if c = '<' then some (.place (.wordStart f.word), rest)
    else if c = '>' then some (.place (.wordEnd f.word), rest)
    else (shorthand? f c).map fun s => (.set s, rest)

/-! ## Bracket classes -/

/-- A class of ASCII characters such as `[:alpha:]`, after its opening bracket. -/
def readNamedClass? : List Char → Option (CharSet × List Char)
  | ':' :: rest =>
    let (negated, rest) := match rest with
      | '^' :: rest => (true, rest)
      | rest => (false, rest)
    let name := rest.takeWhile (· != ':')
    match rest.drop name.length with
    | ':' :: ']' :: after =>
      (CharSet.bracketClass? (String.ofList name)).map fun s => (signed negated s, after)
    | _ => none
  | _ => none

def readItem? (f : Flags) : List Char → Option (Escape × List Char)
  | '\\' :: rest => readEscape? f rest
  | c :: rest => some (.char c, rest)
  | [] => none

/-- A range of characters, a single one or a set. A hyphen before the closing bracket or another
hyphen makes no range. -/
def readRange? (f : Flags) (text : List Char) : Option (CharSet × List Char) := do
  let (first, rest) ← readItem? f text
  let rest := f.skip rest
  let isRange := match rest with
    | '-' :: after =>
      match f.skip after with
      | ']' :: _ => false
      | '-' :: _ => false
      | _ => true
    | _ => false
  if isRange then
    let (last, after) ← readItem? f (f.skip (rest.drop 1))
    match first, last with
    | .char a, .char b => if a ≤ b then some (.ranges [a.toNat, b.toNat], after) else none
    | _, _ => none
  else
    match first with
    | .char c => some (.single c, rest)
    | .set s => some (s, rest)
    | .place _ => none

inductive ClassOp where
  | inter
  | diff
  | symmDiff

def ClassOp.apply : ClassOp → CharSet → CharSet → CharSet
  | inter => .inter
  | diff => .diff
  | symmDiff => .symmDiff

/-- The operands so far, joined from the left. -/
def closeOp (pending : Option (CharSet × ClassOp)) (items : List CharSet) : CharSet :=
  let s := CharSet.unionAll items.reverse
  match pending with
  | some (left, op) => op.apply left s
  | none => s

/-- The negation, the hyphens and the closing bracket that may stand first in a class as themselves. -/
def classStart (f : Flags) (text : List Char) : Bool × List CharSet × List Char :=
  let (negated, rest) := match f.skip text with
    | '^' :: rest => (true, f.skip rest)
    | rest => (false, rest)
  let hyphens := rest.takeWhile (· == '-')
  let rest := f.skip (rest.drop hyphens.length)
  let items := hyphens.map CharSet.single
  match items, rest with
  | [], ']' :: rest => (negated, [.single ']'], f.skip rest)
  | items, rest => (negated, items, rest)

mutual

/-- A class after its opening bracket. -/
def readClass? : Nat → Flags → List Char → Option (CharSet × List Char)
  | 0, _, _ => none
  | fuel + 1, f, text =>
    let (negated, items, rest) := classStart f text
    (readClassBody? fuel f none items rest).map fun (s, rest) => (signed negated s, rest)

/-- The items and operations of a class up to its closing bracket. -/
def readClassBody? : Nat → Flags → Option (CharSet × ClassOp) → List CharSet → List Char →
    Option (CharSet × List Char)
  | 0, _, _, _, _ => none
  | fuel + 1, f, pending, items, text =>
    match f.skip text with
    | [] => none
    | ']' :: rest => some (closeOp pending items, rest)
    | '&' :: '&' :: rest => readClassBody? fuel f (some (closeOp pending items, .inter)) [] rest
    | '-' :: '-' :: rest => readClassBody? fuel f (some (closeOp pending items, .diff)) [] rest
    | '~' :: '~' :: rest => readClassBody? fuel f (some (closeOp pending items, .symmDiff)) [] rest
    | '[' :: rest =>
      match readNamedClass? rest with
      | some (s, rest) => readClassBody? fuel f pending (s :: items) rest
      | none => do
        let (s, rest) ← readClass? fuel f rest
        readClassBody? fuel f pending (s :: items) rest
    | rest => do
      let (s, rest) ← readRange? f rest
      readClassBody? fuel f pending (s :: items) rest

end

/-! ## Repetitions -/

/-- A count of at most 32 bits, with white space around it. -/
def readCount? (text : List Char) : Option (Option Nat × List Char) :=
  let rest := Text.dropBlank text
  let ds := rest.takeWhile Char.isDigit
  let after := Text.dropBlank (rest.drop ds.length)
  if ds.isEmpty then some (none, after)
  else
    let n := Decimal.ofDigits ds
    if n < 0x100000000 then some (some n, after) else none

/-- Bounds in braces, after the opening one: a number, a lower bound, or both bounds. -/
def readBounds? (text : List Char) : Option (Nat × Option Nat × List Char) := do
  let (low, rest) ← readCount? text
  let low ← low
  match rest with
  | '\x7d' :: rest => some (low, some low, rest)
  | ',' :: rest =>
    match rest with
    | '\x7d' :: rest => some (low, none, rest)
    | rest =>
      let (high, rest) ← readCount? rest
      let high ← high
      match rest with
      | '\x7d' :: rest => if low ≤ high then some (low, some high, rest) else none
      | _ => none
  | _ => none

/-- A question mark after a repetition turns its greed around. -/
def readGreed (f : Flags) (text : List Char) : Bool × List Char :=
  match f.skip text with
  | '?' :: rest => (f.swap, rest)
  | rest => (!f.swap, rest)

/-- A pattern that matches no round matches nothing at all, and its groups are forgotten. -/
def repetition (low : Nat) (high : Option Nat) (greedy : Bool) (p : Pattern) : Pattern :=
  if high = some 0 then .empty else .repeated low high greedy p

/-! ## Groups and alternatives -/

/-- What the reader knows so far: the flags in force, the last group's number, the groups' names. -/
structure Reading where
  flags : Flags
  groups : Nat
  names : List (String × Nat)

/-- Flags up to a colon or a closing parenthesis, each letter at most once, after a minus sign to be
taken back. -/
def readFlags? (f : Flags) (seen : List Char) (on : Bool) (text : List Char) :
    Option (Flags × Char × List Char) :=
  match text with
  | [] => none
  | c :: rest =>
    if c = ':' ∨ c = ')' then
      if seen.head? = some '-' then none
      else if c = ')' ∧ seen.isEmpty then none
      else some (f, c, rest)
    else if c = '-' then if on then readFlags? f ('-' :: seen) false rest else none
    else if seen.contains c then none
    else
      match f.set? c on with
      | some f => readFlags? f (c :: seen) on rest
      | none => none

def startsGroupName (c : Char) : Bool :=
  c == '_' || Unicode.isAlphabetic c

def continuesGroupName (c : Char) : Bool :=
  c == '_' || c == '.' || c == '[' || c == ']' || Unicode.isAlphanumeric c

/-- The name of a group up to its closing angle bracket, none of the names used before. -/
def readGroupName? (names : List (String × Nat)) (text : List Char) :
    Option (String × List Char) :=
  let name := text.takeWhile (· != '>')
  match name, text.drop name.length with
  | c :: cs, _ :: rest =>
    let s := String.ofList name
    if startsGroupName c ∧ cs.all continuesGroupName ∧ (names.lookup s).isNone then some (s, rest)
    else none
  | _, _ => none

/-- How a group begins: a numbered one, one without a number, or flags for the rest of the group
around it. -/
inductive Opening where
  | numbered (st : Reading)
  | plain (st : Reading)
  | flags (f : Flags)

def namedOpening? (st : Reading) (text : List Char) : Option (Opening × List Char) := do
  let (name, rest) ← readGroupName? st.names text
  let number := st.groups + 1
  return (.numbered { st with groups := number, names := st.names ++ [(name, number)] }, rest)

/-- The beginning of a group after its parenthesis. -/
def readOpening? (st : Reading) (text : List Char) : Option (Opening × List Char) :=
  match st.flags.skip text with
  | '?' :: 'P' :: '<' :: rest => namedOpening? st rest
  | '?' :: '<' :: c :: rest =>
    if c = '=' ∨ c = '!' then none else namedOpening? st (c :: rest)
  | '?' :: rest => do
    let (f, close, rest) ← readFlags? st.flags [] true rest
    if close = ')' then return (.flags f, rest) else return (.plain { st with flags := f }, rest)
  | rest => some (.numbered { st with groups := st.groups + 1 }, rest)

/-- The parts of a sequence in reverse; `none` marks flags, which cannot be repeated. -/
abbrev Parts := List (Option Pattern)

def closeSeq (parts : Parts) : Pattern :=
  .seqAll (parts.reverse.filterMap id)

def closeAlt (alternatives : List Pattern) (parts : Parts) : Pattern :=
  .altAll (alternatives.reverse ++ [closeSeq parts])

/-- The parts with the last one repeated. -/
def repeatLast? (low : Nat) (high : Option Nat) (greedy : Bool) : Parts → Option Parts
  | some p :: parts => some (some (repetition low high greedy p) :: parts)
  | _ => none

/-- A single character, anchor or escape. -/
def readPrimitive? (f : Flags) : List Char → Option (Pattern × List Char)
  | [] => none
  | '\\' :: rest => (readEscape? f rest).map fun (e, rest) =>
    match e with
    | .char c => (.set f.folding (.single c), rest)
    | .set s => (.set f.folding s, rest)
    | .place p => (.place p, rest)
  | c :: rest =>
    if c = '.' then f.dot?.map fun s => (.set .exact s, rest)
    else if c = '^' then some (.place f.lineStart, rest)
    else if c = '$' then some (.place f.lineEnd, rest)
    else some (.set f.folding (.single c), rest)

/-- Alternatives up to the end of the text or a closing parenthesis, which is left. -/
def readBody? : Nat → Reading → List Pattern → Parts → List Char →
    Option (Pattern × Reading × List Char)
  | 0, _, _, _, _ => none
  | fuel + 1, st, alternatives, parts, text =>
    match st.flags.skip text with
    | [] => some (closeAlt alternatives parts, st, [])
    | ')' :: rest => some (closeAlt alternatives parts, st, ')' :: rest)
    | '|' :: rest => readBody? fuel st (closeSeq parts :: alternatives) [] rest
    | '(' :: rest => do
      let (opening, rest) ← readOpening? st rest
      match opening with
      | .flags f => readBody? fuel { st with flags := f } alternatives (none :: parts) rest
      | .numbered inner => do
        let (p, after, rest) ← readBody? fuel inner [] [] rest
        match rest with
        | ')' :: rest =>
          let part := some (.group inner.groups p)
          readBody? fuel { after with flags := st.flags } alternatives (part :: parts) rest
        | _ => none
      | .plain inner => do
        let (p, after, rest) ← readBody? fuel inner [] [] rest
        match rest with
        | ')' :: rest =>
          readBody? fuel { after with flags := st.flags } alternatives (some p :: parts) rest
        | _ => none
    | '[' :: rest => do
      let (s, rest) ← readClass? (2 * rest.length + 2) st.flags rest
      readBody? fuel st alternatives (some (.set st.flags.folding s) :: parts) rest
    | '?' :: rest => do
      let (greedy, rest) := readGreed st.flags rest
      readBody? fuel st alternatives (← repeatLast? 0 (some 1) greedy parts) rest
    | '*' :: rest => do
      let (greedy, rest) := readGreed st.flags rest
      readBody? fuel st alternatives (← repeatLast? 0 none greedy parts) rest
    | '+' :: rest => do
      let (greedy, rest) := readGreed st.flags rest
      readBody? fuel st alternatives (← repeatLast? 1 none greedy parts) rest
    | '\x7b' :: rest => do
      let (low, high, rest) ← readBounds? rest
      let (greedy, rest) := readGreed st.flags rest
      readBody? fuel st alternatives (← repeatLast? low high greedy parts) rest
    | rest => do
      let (p, rest) ← readPrimitive? st.flags rest
      readBody? fuel st alternatives (some p :: parts) rest

/-- The pattern that a text writes, if it is well formed and not too heavy; `anyCase` sets the flag `i`
from the start. Every step takes a character, so the length is fuel enough. A group that is forgotten
has no name either. -/
def read? (anyCase : Bool) (text : String) : Option NamedPattern := do
  let chars := text.toList
  let (p, st, rest) ← readBody? (2 * chars.length + 2) ⟨{ i := anyCase }, 0, []⟩ [] [] chars
  if rest.isEmpty ∧ p.weight ≤ maxWeight then
    some ⟨p, st.names.filter fun name => p.numbers.contains name.2⟩
  else none

end Reshape.Pattern
