import Reshape.Formula.Basic
import Reshape.Value.Numeric

/-!
# The wording of formula errors
-/

namespace Reshape

/-- A token as it is named in messages; numbers are written positionally. -/
def Token.describe : Token → String
  | .number x => "number " ++ textLayout.write x
  | .text s => "string '" ++ s ++ "'"
  | .name s => "identifier '" ++ s ++ "'"
  | .symbol op => "'" ++ op.symbol ++ "'"
  | .left => "'('"
  | .right => "')'"

def describeFound : Option Token → String
  | some t => t.describe
  | none => "end of expression"

/-- The message of a text that does not fit a grammar. -/
def wrongText (what : String) : String :=
  "syntax error: " ++ what

def FormulaError.message : FormulaError → String
  | .character c offset =>
    wrongText ("unexpected character '" ++ c.toString ++ "' at offset " ++ toString offset)
  | .numeral digits => wrongText ("invalid number '" ++ digits ++ "'")
  | .unclosed => wrongText "unterminated string literal"
  | .empty => wrongText "empty expression"
  | .trailing found => wrongText ("unexpected " ++ found.describe ++ " after end of expression")
  | .noRight found => wrongText ("expected ')', found " ++ describeFound found)
  | .noValue found => wrongText ("expected a value, found " ++ describeFound found)

end Reshape
