import Reshape.Json.Writer
import Reshape.Value.Numeric

/-!
# Values as text

* `Value.display`: the text of a value where values are joined, padded, masked or looked up.
* `isBlank`: absent, null and the empty text.
* `truthy`: whether a value counts as true.
-/

namespace Reshape

def Number.display : Number → String
  | .int n => Json.intText n
  | .float x => floatText x

/-- Null is empty, and containers are compact JSON. -/
def Value.display : Value → String
  | .null => ""
  | .bool b => if b then "true" else "false"
  | .number n => n.display
  | .string s => s
  | .array items => Json.compact (.array items)
  | .object fields => Json.compact (.object fields)

def displayOf : Option Value → String
  | none => ""
  | some v => v.display

def isBlank : Option Value → Bool
  | none => true
  | some .null => true
  | some (.string s) => s == ""
  | some _ => false

/-- The texts that count as false, so that flags read from text behave as flags do. -/
def falseWords : List String :=
  ["", "false", "0", "no", "n", "off"]

def truthy : Option Value → Bool
  | none => false
  | some .null => false
  | some (.bool b) => b
  | some (.number n) => n.toFloat != 0
  | some (.string s) => !falseWords.contains (Text.asciiLower (Text.trim s))
  | some (.array _) => true
  | some (.object _) => true

end Reshape
