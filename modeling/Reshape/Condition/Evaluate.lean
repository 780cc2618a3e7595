import Reshape.Condition.Basic
import Reshape.Record.Path
import Reshape.Text.Search
import Reshape.Unicode.Case
import Reshape.Value.Order

/-!
# Testing a condition on a record

Equality is `looseEq` and order is `compareOrdered`. The word comparisons test texts in small
letters; `contains` on an array asks for an equal item.
-/

namespace Reshape

def Comparison.testText (c : Comparison) (needle text : List Char) : Bool :=
  match c with
  | .contains => Text.occursIn needle text
  | .startsWith => needle.isPrefixOf text
  | .endsWith => needle.isSuffixOf text
  | _ => false

def lowerDisplay (v : Value) : List Char :=
  Unicode.lowerChars v.display.toList

/-- A word comparison of a field with a literal; an absent field or null passes none. -/
def Comparison.testField (c : Comparison) (literal : Value) : Option Value → Bool
  | none => false
  | some .null => false
  | some (.array items) =>
    if c = .contains then items.any fun item => lowerDisplay item == lowerDisplay literal
    else c.testText (lowerDisplay literal) (lowerDisplay (.array items))
  | some v => c.testText (lowerDisplay literal) (lowerDisplay v)

def Comparison.test (c : Comparison) (field : Option Value) (literal : Value) : Bool :=
  let order := compareOrdered field (some literal)
  match c with
  | .eq => looseEq field (some literal)
  | .ne => !looseEq field (some literal)
  | .gt => order == some .gt
  | .lt => order == some .lt
  | .ge => order == some .gt || order == some .eq
  | .le => order == some .lt || order == some .eq
  | .contains => c.testField literal field
  | .startsWith => c.testField literal field
  | .endsWith => c.testField literal field

def Condition.holds (c : Condition) (r : Record) : Bool :=
  c.comparison.test (r.resolve c.path) c.literal

end Reshape
