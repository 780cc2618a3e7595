import Reshape.Json.Writer
import Reshape.Value.Basic

/-!
# Conditions

A condition compares the value at a path with a literal: `<path> <comparison> <literal>`.

* `Comparison.pattern`: what a comparison is recognised by in a written condition.
* `Condition.display`: the written form, with the literal as JSON.
-/

namespace Reshape

inductive Comparison where
  | eq
  | ne
  | gt
  | lt
  | ge
  | le
  | contains
  | startsWith
  | endsWith
deriving DecidableEq, Repr

namespace Comparison

def symbol : Comparison → String
  | eq => "=="
  | ne => "!="
  | gt => ">"
  | lt => "<"
  | ge => ">="
  | le => "<="
  | contains => "contains"
  | startsWith => "startswith"
  | endsWith => "endswith"

/-- Words stand between spaces. -/
def isWord : Comparison → Bool
  | contains => true
  | startsWith => true
  | endsWith => true
  | _ => false

def pattern (c : Comparison) : List Char :=
  if c.isWord then ' ' :: c.symbol.toList ++ [' '] else c.symbol.toList

/-- All comparisons; where two begin at the same place, the earlier one in the list is meant. -/
def all : List Comparison :=
  [ge, le, eq, ne, gt, lt, contains, startsWith, endsWith]

end Comparison

structure Condition where
  path : String
  comparison : Comparison
  literal : Value

inductive ConditionError where
  | noComparison (source : String)
  | noPath (source : String)
deriving DecidableEq, Repr

def Condition.display (c : Condition) : String :=
  c.path ++ " " ++ c.comparison.symbol ++ " " ++ Json.compact c.literal

end Reshape
