import Reshape.Unicode.CaseTable
import Reshape.Unicode.Property
import Reshape.Unicode.Sign

/-!
# Upper and lower case

The full case maps of texts, in which one character can become several. A capital sigma at the end
of a word has a small form of its own, which is the only place where the characters around matter.
-/

namespace Reshape.Unicode

/-- The property Case_Ignorable. -/
def isCaseIgnorable (c : Char) : Bool :=
  let n := c.toNat
  midWord.contains n || nonspacingMark.contains n || enclosingMark.contains n || format.contains n
    || modifierLetter.contains n || modifierSymbol.contains n

/-- Whether the first character that is not case-ignorable has case. -/
def meetsCased (cs : List Char) : Bool :=
  match cs.dropWhile isCaseIgnorable with
  | c :: _ => isCased c
  | [] => false

/-- A sigma is final after a letter of its word and before none. `before` is the text in front in
reverse. -/
def isFinal (before after : List Char) : Bool :=
  meetsCased before && !meetsCased after

def lowerChar (c : Char) : List Char :=
  if c = 'İ' then ['i', '\u0307'] else [Char.ofNat (mapBy lowerRuns c.toNat)]

def lowerFrom (before : List Char) : List Char → List Char
  | [] => []
  | c :: rest =>
    (if c = 'Σ' then [if isFinal before rest then 'ς' else 'σ'] else lowerChar c)
      ++ lowerFrom (c :: before) rest

def lowerChars (cs : List Char) : List Char :=
  lowerFrom [] cs

def lower (s : String) : String :=
  String.ofList (lowerChars s.toList)

def upperChar (c : Char) : List Char :=
  match upperSequences.lookup c.toNat with
  | some sequence => sequence.map Char.ofNat
  | none => [Char.ofNat (mapBy upperRuns c.toNat)]

def upper (s : String) : String :=
  String.ofList (s.toList.flatMap upperChar)

end Reshape.Unicode
