import Reshape.Condition.Basic
import Reshape.Formula.Message
import Reshape.Value.Numeric

/-!
# Reading a condition

The comparison is the first one in the text; the path stands before it and the literal behind it.
Comparison words are recognised in any letter case. A literal between quotes is a text; without
them `null`, `true`, `false` and numbers are what they spell.
-/

namespace Reshape

namespace Condition

/-- The rest after a pattern in small letters, which matches in any case. -/
def dropPattern? : List Char → List Char → Option (List Char)
  | [], rest => some rest
  | p :: ps, c :: rest => if c.toLower = p then dropPattern? ps rest else none
  | _ :: _, [] => none

/-- The comparison that a text begins with, and the rest after it. -/
def comparisonAt? (text : List Char) : Option (Comparison × List Char) :=
  Comparison.all.findSome? fun c => (dropPattern? c.pattern text).map fun rest => (c, rest)

/-- The first comparison in a text, with what stands before and behind it. -/
def splitAtComparison? : List Char → Option (List Char × Comparison × List Char)
  | [] => none
  | c :: rest =>
    match comparisonAt? (c :: rest) with
    | some (comparison, behind) => some ([], comparison, behind)
    | none => (splitAtComparison? rest).map fun (before, found) => (c :: before, found)

/-- The text between two equal quotes. -/
def unquote? (quote : Char) (text : List Char) : Option (List Char) :=
  match text with
  | first :: rest =>
    if first = quote ∧ rest.getLast? = some quote then some rest.dropLast else none
  | [] => none

/-- The literal that a text without white space around it spells. -/
def literalOf (text : List Char) : Value :=
  match (unquote? '\'' text).or (unquote? '"' text) with
  | some inner => .string (String.ofList inner)
  | none =>
    let s := String.ofList text
    if s = "null" then .null
    else if s = "true" then .bool true
    else if s = "false" then .bool false
    else ((numberIn? s).bind Value.ofFloat?).getD (.string s)

/-- A space is added at the end, so that a comparison word can be the last one. -/
def read (source : String) : Except ConditionError Condition :=
  match splitAtComparison? (source.toList ++ [' ']) with
  | none => .error (.noComparison source)
  | some (before, comparison, behind) =>
    let path := Text.trimChars before
    if path.isEmpty then .error (.noPath source)
    else .ok ⟨String.ofList path, comparison, literalOf (Text.trimChars behind)⟩

end Condition

def ConditionError.message : ConditionError → String
  | .noComparison source => wrongText ("no comparison operator in condition '" ++ source ++ "'")
  | .noPath source => wrongText ("missing field path in condition '" ++ source ++ "'")

end Reshape
