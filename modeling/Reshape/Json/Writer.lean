import Reshape.Decimal.Layout
import Reshape.Value.Basic

/-!
# Writing JSON

The compact text of a value, without spaces, and the indented one. Strings escape the quote, the
backslash and the characters below U+0020; all other characters stand for themselves.
-/

namespace Reshape.Json

open Decimal

/-- Floats in JSON: positional from `1e-5` to below `1e16`, and always with a point or an
exponent, so that they are not taken for integers. -/
def layout : Layout where
  tie := .even
  positional := some (-5, 15)
  keepsFraction := true
  infinity := "null"
  nan := "null"

def intText (n : Int) : String :=
  String.ofList (if n < 0 then '-' :: digits n.natAbs else digits n.natAbs)

def numberText : Number → String
  | .int n => intText n
  | .float x => layout.write x

def hexDigit (n : Nat) : Char :=
  if n < 10 then Char.ofNat (48 + n) else Char.ofNat (87 + n)

def escape (c : Char) : List Char :=
  if c = '"' then ['\\', '"']
  else if c = '\\' then ['\\', '\\']
  else if c = '\n' then ['\\', 'n']
  else if c = '\r' then ['\\', 'r']
  else if c = '\t' then ['\\', 't']
  else if c = '\x08' then ['\\', 'b']
  else if c = '\x0c' then ['\\', 'f']
  else if c.toNat < 32 then ['\\', 'u', '0', '0', hexDigit (c.toNat / 16), hexDigit (c.toNat % 16)]
  else [c]

def quoted (s : String) : String :=
  String.ofList ('"' :: s.toList.flatMap escape ++ ['"'])

mutual

def compact : Value → String
  | .null => "null"
  | .bool b => if b then "true" else "false"
  | .number n => numberText n
  | .string s => quoted s
  | .array items => "[" ++ ",".intercalate (compactItems items) ++ "]"
  | .object fields => "\x7b" ++ ",".intercalate (compactFields fields) ++ "\x7d"

def compactItems : List Value → List String
  | [] => []
  | item :: rest => compact item :: compactItems rest

def compactFields : List (String × Value) → List String
  | [] => []
  | (key, value) :: rest => (quoted key ++ ":" ++ compact value) :: compactFields rest

end

/-- A line break and two spaces for each level. -/
def lineAt (depth : Nat) : String :=
  String.ofList ('\n' :: List.replicate (2 * depth) ' ')

/-- The parts on lines of their own, one level deeper than the brackets. -/
def block (depth : Nat) (left right : String) (parts : List String) : String :=
  if parts.isEmpty then left ++ right
  else
    left ++ lineAt (depth + 1) ++ ("," ++ lineAt (depth + 1)).intercalate parts ++ lineAt depth
      ++ right

mutual

/-- The text of a value with two spaces of indentation for each level. -/
def indented (depth : Nat) : Value → String
  | .array items => block depth "[" "]" (indentedItems (depth + 1) items)
  | .object fields => block depth "\x7b" "\x7d" (indentedFields (depth + 1) fields)
  | .null => compact .null
  | .bool b => compact (.bool b)
  | .number n => compact (.number n)
  | .string s => compact (.string s)

def indentedItems (depth : Nat) : List Value → List String
  | [] => []
  | item :: rest => indented depth item :: indentedItems depth rest

def indentedFields (depth : Nat) : List (String × Value) → List String
  | [] => []
  | (key, value) :: rest => (quoted key ++ ": " ++ indented depth value) :: indentedFields depth rest

end

def pretty (v : Value) : String :=
  indented 0 v

end Reshape.Json
