import Reshape.Pattern.Basic
import Reshape.Unicode.Mark
import Reshape.Unicode.Letter
import Reshape.Unicode.Other
import Reshape.Unicode.Script
import Reshape.Unicode.Sign
import Reshape.Unicode.Usage

/-!
# Named sets of characters

The sets that a pattern can name: `\d`, `\s` and `\w`, the bracket classes of ASCII characters such
as `[:alpha:]`, and Unicode properties and scripts such as `\p{Lu}` and `\p{Greek}`.
-/

namespace Reshape.CharSet

def digit : CharSet := ranges Unicode.decimalNumber

def space : CharSet :=
  ranges [0x9, 0xD, 0x20, 0x20, 0x85, 0x85, 0xA0, 0xA0, 0x1680, 0x1680, 0x2000, 0x200A,
    0x2028, 0x2029, 0x202F, 0x202F, 0x205F, 0x205F, 0x3000, 0x3000]

def letter : CharSet :=
  unionAll [ranges Unicode.lowercaseLetter, ranges Unicode.uppercaseLetter,
    ranges Unicode.titlecaseLetter, ranges Unicode.modifierLetter, ranges Unicode.otherLetter]

def alphabetic : CharSet :=
  unionAll [letter, ranges Unicode.letterNumber, ranges Unicode.otherAlphabetic]

def mark : CharSet :=
  unionAll [ranges Unicode.nonspacingMark, ranges Unicode.spacingMark, ranges Unicode.enclosingMark]

/-- Letters, marks, digits, connectors and the two joiners. -/
def word : CharSet :=
  unionAll [alphabetic, mark, digit, ranges Unicode.connectorPunctuation, ranges [0x200C, 0x200D]]

def asciiDigit : CharSet := ranges [0x30, 0x39]

def asciiSpace : CharSet := ranges [0x9, 0xD, 0x20, 0x20]

def asciiWord : CharSet := ranges [0x30, 0x39, 0x41, 0x5A, 0x5F, 0x5F, 0x61, 0x7A]

/-- The bracket class of a name. -/
def bracketClass? (name : String) : Option CharSet :=
  [("alnum", ranges [0x30, 0x39, 0x41, 0x5A, 0x61, 0x7A]),
    ("alpha", ranges [0x41, 0x5A, 0x61, 0x7A]),
    ("ascii", ranges [0x0, 0x7F]),
    ("blank", ranges [0x9, 0x9, 0x20, 0x20]),
    ("cntrl", ranges [0x0, 0x1F, 0x7F, 0x7F]),
    ("digit", asciiDigit),
    ("graph", ranges [0x21, 0x7E]),
    ("lower", ranges [0x61, 0x7A]),
    ("print", ranges [0x20, 0x7E]),
    ("punct", ranges [0x21, 0x2F, 0x3A, 0x40, 0x5B, 0x60, 0x7B, 0x7E]),
    ("space", asciiSpace),
    ("upper", ranges [0x41, 0x5A]),
    ("word", asciiWord),
    ("xdigit", ranges [0x30, 0x39, 0x41, 0x46, 0x61, 0x66])].lookup name

def number : CharSet :=
  unionAll [digit, ranges Unicode.letterNumber, ranges Unicode.otherNumber]

def punctuation : CharSet :=
  unionAll [ranges Unicode.otherPunctuation, ranges Unicode.connectorPunctuation,
    ranges Unicode.dashPunctuation, ranges Unicode.openPunctuation,
    ranges Unicode.closePunctuation, ranges Unicode.initialPunctuation,
    ranges Unicode.finalPunctuation]

def symbol : CharSet :=
  unionAll [ranges Unicode.mathSymbol, ranges Unicode.currencySymbol,
    ranges Unicode.modifierSymbol, ranges Unicode.otherSymbol]

def separator : CharSet :=
  unionAll [ranges Unicode.spaceSeparator, ranges Unicode.lineSeparator,
    ranges Unicode.paragraphSeparator]

/-- The characters of a category other than the unassigned ones. -/
def assigned : CharSet :=
  unionAll [letter, mark, number, punctuation, symbol, separator, ranges Unicode.control,
    ranges Unicode.format, ranges Unicode.privateUse]

/-- The general categories, each with its names in small letters without separators. -/
def categories : List (List String × CharSet) :=
  [(["l", "letter"], letter),
    (["lc", "casedletter"], unionAll [ranges Unicode.lowercaseLetter,
      ranges Unicode.uppercaseLetter, ranges Unicode.titlecaseLetter]),
    (["lu", "uppercaseletter"], ranges Unicode.uppercaseLetter),
    (["ll", "lowercaseletter"], ranges Unicode.lowercaseLetter),
    (["lt", "titlecaseletter"], ranges Unicode.titlecaseLetter),
    (["lm", "modifierletter"], ranges Unicode.modifierLetter),
    (["lo", "otherletter"], ranges Unicode.otherLetter),
    (["m", "mark", "combiningmark"], mark),
    (["mn", "nonspacingmark"], ranges Unicode.nonspacingMark),
    (["mc", "spacingmark"], ranges Unicode.spacingMark),
    (["me", "enclosingmark"], ranges Unicode.enclosingMark),
    (["n", "number"], number),
    (["nd", "decimalnumber", "digit"], digit),
    (["nl", "letternumber"], ranges Unicode.letterNumber),
    (["no", "othernumber"], ranges Unicode.otherNumber),
    (["p", "punctuation", "punct"], punctuation),
    (["pc", "connectorpunctuation"], ranges Unicode.connectorPunctuation),
    (["pd", "dashpunctuation"], ranges Unicode.dashPunctuation),
    (["ps", "openpunctuation"], ranges Unicode.openPunctuation),
    (["pe", "closepunctuation"], ranges Unicode.closePunctuation),
    (["pi", "initialpunctuation"], ranges Unicode.initialPunctuation),
    (["pf", "finalpunctuation"], ranges Unicode.finalPunctuation),
    (["po", "otherpunctuation"], ranges Unicode.otherPunctuation),
    (["s", "symbol"], symbol),
    (["sm", "mathsymbol"], ranges Unicode.mathSymbol),
    (["sc", "currencysymbol"], ranges Unicode.currencySymbol),
    (["sk", "modifiersymbol"], ranges Unicode.modifierSymbol),
    (["so", "othersymbol"], ranges Unicode.otherSymbol),
    (["z", "separator"], separator),
    (["zs", "spaceseparator"], ranges Unicode.spaceSeparator),
    (["zl", "lineseparator"], ranges Unicode.lineSeparator),
    (["zp", "paragraphseparator"], ranges Unicode.paragraphSeparator),
    (["c", "other"], diff all (unionAll [letter, mark, number, punctuation, symbol, separator])),
    (["cc", "control", "cntrl"], ranges Unicode.control),
    (["cf", "format"], ranges Unicode.format),
    (["cs", "surrogate"], none),
    (["co", "privateuse"], ranges Unicode.privateUse),
    (["cn", "unassigned"], compl assigned),
    (["any"], all),
    (["ascii"], ranges [0x0, 0x7F]),
    (["assigned"], assigned)]

def lowercase : CharSet :=
  union (ranges Unicode.lowercaseLetter) (ranges Unicode.otherLowercase)

def uppercase : CharSet :=
  union (ranges Unicode.uppercaseLetter) (ranges Unicode.otherUppercase)

/-- Properties that are no general categories. -/
def properties : List (List String × CharSet) :=
  [(["alphabetic", "alpha"], alphabetic),
    (["lowercase", "lower"], lowercase),
    (["uppercase", "upper"], uppercase),
    (["cased"], unionAll [lowercase, uppercase, ranges Unicode.titlecaseLetter]),
    (["whitespace", "wspace", "space"], space),
    (["emoji"], ranges Unicode.emoji),
    (["emojipresentation", "epres"], ranges Unicode.emojiPresentation),
    (["extendedpictographic", "extpict"], ranges Unicode.pictographic),
    (["ideographic", "ideo"], ranges Unicode.ideographic),
    (["hexdigit", "hex"], ranges Unicode.hexDigit),
    (["asciihexdigit", "ahex"], ranges [0x30, 0x39, 0x41, 0x46, 0x61, 0x66]),
    (["math"], ranges Unicode.mathematical),
    (["dash"], ranges Unicode.dash),
    (["quotationmark", "qmark"], ranges Unicode.quotationMark)]

def scripts : List (List String × CharSet) :=
  Unicode.scripts.map fun (names, r) => (names, ranges r)

/-- Names are compared without case, spaces, hyphens, underscores and a leading `is`. -/
def looseName (name : List Char) : String :=
  let kept := (name.filter fun c => c != ' ' && c != '_' && c != '-').map Char.toLower
  match kept with
  | 'i' :: 's' :: c :: rest => String.ofList (c :: rest)
  | kept => String.ofList kept

def lookupName (table : List (List String × CharSet)) (name : String) : Option CharSet :=
  (table.find? fun entry => entry.1.contains name).map Prod.snd

/-- The set that a property name stands for. -/
def property? (name : List Char) : Option CharSet :=
  let name := looseName name
  ((lookupName properties name).or (lookupName categories name)).or (lookupName scripts name)

/-- The set of a general category or a script, asked for by the name of that property. -/
def propertyValue? (name value : List Char) : Option CharSet :=
  let property := looseName name
  let value := looseName value
  if ["gc", "generalcategory"].contains property then lookupName categories value
  else if ["sc", "script"].contains property then lookupName scripts value
  else none

end Reshape.CharSet
