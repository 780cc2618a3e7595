/-!
# Groups of three digits

A separator between groups of three digits, counted from the right, in the whole part of a written
number.
-/

namespace Reshape.Text

/-- Digits with a separator in front of every third one from the right, except the first. -/
def groupDigits (separator : List Char) : List Char → List Char
  | [] => []
  | c :: rest =>
    if rest.length % 3 = 0 ∧ rest ≠ [] then c :: separator ++ groupDigits separator rest
    else c :: groupDigits separator rest

/-- A number without its sign; what begins with a point is not grouped. -/
def groupUnsigned (separator text : List Char) : List Char :=
  groupDigits separator (text.takeWhile (· ≠ '.')) ++ text.dropWhile (· ≠ '.')

def groupThousands (separator : List Char) : List Char → List Char
  | '-' :: rest => '-' :: groupUnsigned separator rest
  | text => groupUnsigned separator text

end Reshape.Text
