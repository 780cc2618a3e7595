import Reshape.Pattern.Matcher
import Reshape.Decimal.Layout
import Reshape.Decimal.Reading

/-!
# Replacements

In a replacement text `$1` to `$99` and `$<name>` stand for groups that the pattern has, `$&` for the
whole match and `$$` for a dollar sign; any other dollar sign stands for itself. `template` turns it
into the plain form that `expand` reads, in which `$$` is a dollar sign and a group's number or name
stands in braces.

* `NamedPattern.replace`: a text with its first match, or all of them, replaced.
-/

namespace Reshape

namespace NamedPattern

/-- A group reference in the plain form. -/
def reference (name : List Char) : List Char :=
  '$' :: '\x7b' :: name ++ ['\x7d']

/-- A number from one to the number of groups. -/
def hasGroup (p : NamedPattern) (n : Nat) : Bool :=
  1 ≤ n && n ≤ p.pattern.groupCount

def digitValue (c : Char) : Nat :=
  c.toNat - '0'.toNat

/-- The group that a dollar sign followed by `text` refers to: its name in the plain form, and the
number of characters of `text` that belong to the reference. -/
def referenceAt? (p : NamedPattern) (text : List Char) : Option (List Char × Nat) :=
  match text with
  | '$' :: _ => some (['$', '$'], 1)
  | '&' :: _ => some (reference ['0'], 1)
  | '<' :: rest =>
    let name := rest.takeWhile (· != '>')
    if name.length < rest.length ∧ (p.names.lookup (String.ofList name)).isSome then
      some (reference name, name.length + 2)
    else none
  | c :: rest =>
    if c.isDigit then
      let one := digitValue c
      let two := match rest with
        | d :: _ => if d.isDigit ∧ p.hasGroup (10 * one + digitValue d) then
            some (10 * one + digitValue d) else none
        | [] => none
      match two with
      | some n => some (reference (Decimal.digits n), 2)
      | none => if p.hasGroup one then some (reference (Decimal.digits one), 1) else none
    else none
  | [] => none

/-- The plain form of a replacement text. `skipped` characters belong to a reference before them. -/
def templateFrom (p : NamedPattern) : Nat → List Char → List Char
  | _, [] => []
  | skipped + 1, _ :: rest => templateFrom p skipped rest
  | 0, c :: rest =>
    if c = '$' then
      match p.referenceAt? rest with
      | some (text, length) => text ++ templateFrom p length rest
      | none => '$' :: '$' :: templateFrom p 0 rest
    else c :: templateFrom p 0 rest

def template (p : NamedPattern) (replacement : List Char) : List Char :=
  p.templateFrom 0 replacement

def slice (text : List Char) (first last : Nat) : List Char :=
  (text.take last).drop first

/-- The text of a numbered group in a match; a group that took no part is empty. -/
def groupText (text : List Char) (m : Match) (number : Nat) : List Char :=
  match m.groups.lookup number with
  | some (first, last) => slice text first last
  | none => []

/-- The number of a group that is referred to by its number or its name. -/
def groupNumber? (p : NamedPattern) (name : List Char) : Option Nat :=
  if ¬ name.isEmpty ∧ name.all Char.isDigit then some (Decimal.ofDigits name)
  else p.names.lookup (String.ofList name)

/-- The text of a group by its number or its name; one that the pattern lacks is empty. -/
def namedText (p : NamedPattern) (text : List Char) (m : Match) (name : List Char) : List Char :=
  match p.groupNumber? name with
  | some number => groupText text m number
  | none => []

/-- A plain form with its references replaced by what they took part with in a match. -/
def expandFrom (p : NamedPattern) (text : List Char) (m : Match) : Nat → List Char → List Char
  | _, [] => []
  | skipped + 1, _ :: rest => expandFrom p text m skipped rest
  | 0, c :: rest =>
    if c = '$' then
      match rest with
      | '$' :: _ => '$' :: expandFrom p text m 1 rest
      | '\x7b' :: inner =>
        let name := inner.takeWhile (· != '\x7d')
        if name.length < inner.length then
          p.namedText text m name ++ expandFrom p text m (name.length + 2) rest
        else '$' :: expandFrom p text m 0 rest
      | _ => '$' :: expandFrom p text m 0 rest
    else c :: expandFrom p text m 0 rest

def expand (p : NamedPattern) (text : List Char) (m : Match) (form : List Char) : List Char :=
  p.expandFrom text m 0 form

/-- The matches replaced one after another; `from` is where the text that is still to be written
begins. -/
def replaceFrom (p : NamedPattern) (text form : List Char) (start : Nat) :
    List Match → List Char
  | [] => text.drop start
  | m :: rest =>
    slice text start m.first.index ++ p.expand text m form
      ++ replaceFrom p text form m.last.index rest

/-- A text with its first match, or all of them, replaced by a plain form. -/
def replace (p : NamedPattern) (everywhere : Bool) (form text : List Char) : List Char :=
  let found := p.pattern.allMatches text
  p.replaceFrom text form 0 (if everywhere then found else found.take 1)

end NamedPattern

end Reshape
