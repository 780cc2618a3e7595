import Reshape.Unicode.Letter
import Reshape.Unicode.Mark
import Reshape.Unicode.Other

/-!
# Derived properties

The properties of characters that the library asks for, each put together from general categories
and the characters that the standard adds to them.
-/

namespace Reshape.Unicode

def isLetter (n : Nat) : Bool :=
  lowercaseLetter.contains n || uppercaseLetter.contains n || titlecaseLetter.contains n
    || modifierLetter.contains n || otherLetter.contains n

/-- The property Alphabetic. -/
def isAlphabetic (c : Char) : Bool :=
  let n := c.toNat
  isLetter n || letterNumber.contains n || otherAlphabetic.contains n

/-- The general categories of numerals. -/
def isNumeral (c : Char) : Bool :=
  let n := c.toNat
  decimalNumber.contains n || letterNumber.contains n || otherNumber.contains n

def isAlphanumeric (c : Char) : Bool :=
  isAlphabetic c || isNumeral c

def isMark (n : Nat) : Bool :=
  nonspacingMark.contains n || spacingMark.contains n || enclosingMark.contains n

def isLowercase (n : Nat) : Bool :=
  lowercaseLetter.contains n || otherLowercase.contains n

def isUppercase (n : Nat) : Bool :=
  uppercaseLetter.contains n || otherUppercase.contains n

/-- The property Cased. -/
def isCased (c : Char) : Bool :=
  let n := c.toNat
  isLowercase n || isUppercase n || titlecaseLetter.contains n

end Reshape.Unicode
