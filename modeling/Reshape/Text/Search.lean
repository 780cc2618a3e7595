/-!
# Finding a text in a text
-/

namespace Reshape.Text

/-- Whether the first text stands somewhere in the second. -/
def occursIn (needle : List Char) : List Char → Bool
  | [] => needle.isEmpty
  | c :: rest => needle.isPrefixOf (c :: rest) || occursIn needle rest

end Reshape.Text
