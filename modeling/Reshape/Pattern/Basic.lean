import Reshape.Unicode.Fold
import Reshape.Unicode.Ranges

/-!
# Patterns

Regular expressions as trees: sets of characters, assertions about a place in a text, groups,
sequences, ordered alternatives and repetitions.

* `CharSet.holds`: whether a character is in a set, in its own case or in any.
* `Pattern.groupCount`: the number of numbered groups.
-/

namespace Reshape

/-- Which characters count as equal to one another. -/
inductive Folding where
  | exact
  | unicode
  | ascii
deriving DecidableEq, Repr

def Folding.orbit (f : Folding) (n : Nat) : List Nat :=
  match f with
  | exact => [n]
  | unicode => Unicode.orbit n
  | ascii => Unicode.asciiOrbit n

inductive CharSet where
  | ranges (r : Unicode.Ranges)
  | union (a b : CharSet)
  | inter (a b : CharSet)
  | diff (a b : CharSet)
  | symmDiff (a b : CharSet)
  | compl (a : CharSet)

namespace CharSet

def none : CharSet := ranges []

def all : CharSet := compl none

def single (c : Char) : CharSet := ranges [c.toNat, c.toNat]

/-- The ranges of a set hold a character if they hold one that is equal to it up to folding. -/
def holds (f : Folding) (n : Nat) : CharSet → Bool
  | ranges r => (f.orbit n).any r.contains
  | union a b => a.holds f n || b.holds f n
  | inter a b => a.holds f n && b.holds f n
  | diff a b => a.holds f n && !b.holds f n
  | symmDiff a b => a.holds f n != b.holds f n
  | compl a => !a.holds f n

def unionAll : List CharSet → CharSet
  | [] => none
  | [s] => s
  | s :: rest => union s (unionAll rest)

end CharSet

/-- What an assertion asks of a place: where it lies in the text, which line breaks are around it, or
which sides of it belong to words. -/
inductive Place where
  | textStart
  | textEnd
  | lineStart (crlf : Bool)
  | lineEnd (crlf : Bool)
  | boundary (word : CharSet)
  | noBoundary (word : CharSet)
  | wordStart (word : CharSet)
  | wordEnd (word : CharSet)
  | wordStartHalf (word : CharSet)
  | wordEndHalf (word : CharSet)

inductive Pattern where
  | empty
  | set (f : Folding) (s : CharSet)
  | place (p : Place)
  | group (number : Nat) (p : Pattern)
  | seq (a b : Pattern)
  | alt (a b : Pattern)
  /-- At least `low` times, and at most `high` times if that is set; as often as possible when
  `greedy`, and as rarely as possible otherwise. -/
  | repeated (low : Nat) (high : Option Nat) (greedy : Bool) (p : Pattern)

namespace Pattern

def groupCount : Pattern → Nat
  | empty => 0
  | set _ _ => 0
  | place _ => 0
  | group number p => max number p.groupCount
  | seq a b => max a.groupCount b.groupCount
  | alt a b => max a.groupCount b.groupCount
  | repeated _ _ _ p => p.groupCount

def numbers : Pattern → List Nat
  | empty => []
  | set _ _ => []
  | place _ => []
  | group number p => number :: p.numbers
  | seq a b => a.numbers ++ b.numbers
  | alt a b => a.numbers ++ b.numbers
  | repeated _ _ _ p => p.numbers

def seqAll : List Pattern → Pattern
  | [] => empty
  | [p] => p
  | p :: rest => seq p (seqAll rest)

def altAll : List Pattern → Pattern
  | [] => empty
  | [p] => p
  | p :: rest => alt p (altAll rest)

end Pattern

/-- A pattern with the names of its groups. -/
structure NamedPattern where
  pattern : Pattern
  names : List (String × Nat)

end Reshape
