/-!
# White space

The characters with the Unicode property White_Space, and trimming them off a text.
-/

namespace Reshape.Text

/-- The characters with the Unicode property White_Space. -/
def isBlank (c : Char) : Bool :=
  let n := c.toNat
  (9 ≤ n && n ≤ 13) || n == 0x20 || n == 0x85 || n == 0xA0 || n == 0x1680
    || (0x2000 ≤ n && n ≤ 0x200A) || n == 0x2028 || n == 0x2029 || n == 0x202F || n == 0x205F
    || n == 0x3000

def dropBlank (cs : List Char) : List Char :=
  cs.dropWhile isBlank

def dropBlankEnd (cs : List Char) : List Char :=
  (cs.reverse.dropWhile isBlank).reverse

/-- A text without the white space at its two ends. -/
def trimChars (cs : List Char) : List Char :=
  dropBlankEnd (dropBlank cs)

def trim (s : String) : String :=
  String.ofList (trimChars s.toList)

/-- The capitals `A` to `Z` made small; every other character is kept. -/
def asciiLower (s : String) : String :=
  String.ofList (s.toList.map Char.toLower)

/-- `sep` between each two of the texts. -/
def join (sep : String) (texts : List String) : String :=
  sep.intercalate texts

end Reshape.Text
