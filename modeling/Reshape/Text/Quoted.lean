import Reshape.Json.Writer
import Reshape.Unicode.Property
import Reshape.Unicode.Sign

/-!
# Texts shown in messages

A text between double quotes in which every character can be seen: quotes, backslashes and the
usual control characters have short escapes, and other characters that do not show by themselves
are written by their code point.
-/

namespace Reshape.Text

/-- Characters that take up space by themselves: not controls, formats, unassigned or private
characters, nor separators other than the space. -/
def isVisible (c : Char) : Bool :=
  let n := c.toNat
  c == ' ' || Unicode.isLetter n || Unicode.isMark n || Unicode.isNumeral c
    || Unicode.connectorPunctuation.contains n || Unicode.dashPunctuation.contains n
    || Unicode.openPunctuation.contains n || Unicode.closePunctuation.contains n
    || Unicode.initialPunctuation.contains n || Unicode.finalPunctuation.contains n
    || Unicode.otherPunctuation.contains n || Unicode.mathSymbol.contains n
    || Unicode.currencySymbol.contains n || Unicode.modifierSymbol.contains n
    || Unicode.otherSymbol.contains n

/-- Marks that join the character before them. -/
def joinsBefore (c : Char) : Bool :=
  let n := c.toNat
  Unicode.nonspacingMark.contains n || Unicode.enclosingMark.contains n

def escapeVisible (c : Char) : List Char :=
  if c = '"' then ['\\', '"']
  else if c = '\\' then ['\\', '\\']
  else if c = '\n' then ['\\', 'n']
  else if c = '\r' then ['\\', 'r']
  else if c = '\t' then ['\\', 't']
  else if c.toNat = 0 then ['\\', '0']
  else if joinsBefore c || !isVisible c then
    ['\\', 'u', '\x7b'] ++ Nat.toDigits 16 c.toNat ++ ['\x7d']
  else [c]

def quoted (s : String) : String :=
  String.ofList ('"' :: s.toList.flatMap escapeVisible ++ ['"'])

end Reshape.Text
