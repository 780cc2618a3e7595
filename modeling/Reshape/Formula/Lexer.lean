import Reshape.Decimal.Reading
import Reshape.Formula.Basic
import Reshape.Text.Blank
import Reshape.Unicode.Property

/-!
# The tokens of a formula

`tokens` cuts a text into tokens between white space. A number is digits with at most one point, a
text stands between two equal quotes with a backslash before any character that is meant literally,
and a name starts with a letter, `_` or `$` and goes on with those, digits and points.
-/

namespace Reshape.Formula

def symbol? (c : Char) : Option Token :=
  if c = '+' then some (.symbol .add)
  else if c = '-' then some (.symbol .sub)
  else if c = '*' then some (.symbol .mul)
  else if c = '/' then some (.symbol .div)
  else if c = '(' then some .left
  else if c = ')' then some .right
  else none

def startsNumber (c : Char) : Bool :=
  c.isDigit || c == '.'

def startsName (c : Char) : Bool :=
  Unicode.isAlphabetic c || c == '_' || c == '$'

def continuesName (c : Char) : Bool :=
  Unicode.isAlphanumeric c || c == '_' || c == '$' || c == '.'

def isQuote (c : Char) : Bool :=
  c == '\'' || c == '"'

/-- Digits, and a point unless there has been one; then what follows. -/
def spanNumber (pointSeen : Bool) : List Char → List Char × List Char
  | [] => ([], [])
  | c :: rest =>
    if c.isDigit then
      let (more, after) := spanNumber pointSeen rest
      (c :: more, after)
    else if c = '.' ∧ pointSeen = false then
      let (more, after) := spanNumber true rest
      (c :: more, after)
    else ([], c :: rest)

/-- The text up to its closing quote, then what follows; a backslash keeps the next character. -/
def spanQuoted? (quote : Char) : List Char → Option (List Char × List Char)
  | [] => none
  | '\\' :: c :: rest => (spanQuoted? quote rest).map fun (more, after) => (c :: more, after)
  | c :: rest =>
    if c = '\\' then none
    else if c = quote then some ([], rest)
    else (spanQuoted? quote rest).map fun (more, after) => (c :: more, after)

theorem spanNumber_append (pointSeen : Bool) (cs : List Char) :
    (spanNumber pointSeen cs).1 ++ (spanNumber pointSeen cs).2 = cs := by
  induction cs generalizing pointSeen with
  | nil => rfl
  | cons c rest ih =>
      simp only [spanNumber]
      split
      · simp [ih]
      · split <;> simp [ih]

theorem spanNumber_length (pointSeen : Bool) (cs : List Char) :
    (spanNumber pointSeen cs).2.length ≤ cs.length := by
  have whole := congrArg List.length (spanNumber_append pointSeen cs)
  simp only [List.length_append] at whole
  omega

theorem spanQuoted?_length {quote : Char} {cs more after : List Char}
    (h : spanQuoted? quote cs = some (more, after)) : after.length < cs.length := by
  fun_induction spanQuoted? quote cs generalizing more with
  | case1 => simp at h
  | case2 c rest ih =>
      obtain ⟨⟨inner, left⟩, found, same⟩ := Option.map_eq_some_iff.mp h
      simp only [Prod.mk.injEq] at same
      obtain ⟨rfl, rfl⟩ := same
      have := ih found
      simp only [List.length_cons]
      omega
  | case3 => simp at h
  | case4 =>
      simp only [Option.some.injEq, Prod.mk.injEq] at h
      obtain ⟨rfl, rfl⟩ := h
      simp
  | case5 c rest _ _ _ ih =>
      obtain ⟨⟨inner, left⟩, found, same⟩ := Option.map_eq_some_iff.mp h
      simp only [Prod.mk.injEq] at same
      obtain ⟨rfl, rfl⟩ := same
      have := ih found
      simp only [List.length_cons]
      omega

theorem length_dropWhile_le {α : Type} (p : α → Bool) (xs : List α) :
    (xs.dropWhile p).length ≤ xs.length := by
  induction xs with
  | nil => simp
  | cons x xs ih =>
      simp only [List.dropWhile_cons]
      split
      · simp only [List.length_cons]; omega
      · simp

def byteLength (cs : List Char) : Nat :=
  (String.ofList cs).utf8ByteSize

/-- The tokens of a text that starts `offset` bytes into the formula. -/
def tokensFrom (offset : Nat) : List Char → Except FormulaError (List Token)
  | [] => .ok []
  | c :: rest =>
    if Text.isBlank c then tokensFrom (offset + c.utf8Size) rest
    else
      match symbol? c with
      | some token => do
        let tokens ← tokensFrom (offset + 1) rest
        return token :: tokens
      | none =>
        if startsNumber c then
          let span := spanNumber (c == '.') rest
          have := spanNumber_length (c == '.') rest
          match Decimal.read? (c :: span.1) with
          | some x => do
            let tokens ← tokensFrom (offset + 1 + span.1.length) span.2
            return .number x :: tokens
          | none => .error (.numeral (String.ofList (c :: span.1)))
        else if isQuote c then
          match found : spanQuoted? c rest with
          | some (chars, after) => do
            have := spanQuoted?_length found
            let tokens ← tokensFrom (offset + 1 + (byteLength rest - byteLength after)) after
            return .text (String.ofList chars) :: tokens
          | none => .error .unclosed
        else if startsName c then
          let name := c :: rest.takeWhile continuesName
          have := length_dropWhile_le continuesName rest
          do
            let tokens ← tokensFrom (offset + byteLength name) (rest.dropWhile continuesName)
            return .name (String.ofList name) :: tokens
        else .error (.character c offset)
termination_by cs => cs.length

def tokens (source : String) : Except FormulaError (List Token) :=
  tokensFrom 0 source.toList

end Reshape.Formula
