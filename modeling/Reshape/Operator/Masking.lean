import Reshape.Operator.Argument
import Reshape.Operator.Edit
import Reshape.Value.Display

/-!
# Hiding values

A mask replaces characters of a text by a fill character and keeps their number. What stays in
sight depends on the kind of the mask.
-/

namespace Reshape

inductive MaskKind where
  /-- Half of the part before the `@`, two characters at most, and all from there on. -/
  | email
  /-- The last four digits, and all that is no digit. -/
  | digits
  | full
  /-- Some characters at the start and at the end. -/
  | custom (head tail : Nat)
deriving DecidableEq, Repr

structure Mask where
  kind : MaskKind
  fill : Char := '*'
deriving DecidableEq, Repr

namespace Mask

def hide (m : Mask) (text : List Char) : List Char :=
  List.replicate text.length m.fill

/-- An address without an `@` is hidden as a whole. -/
def email (m : Mask) (text : List Char) : List Char :=
  let front := text.takeWhile (· ≠ '@')
  let shown := min (front.length / 2) 2
  if front.length = text.length then m.hide text
  else front.take shown ++ m.hide (front.drop shown) ++ text.dropWhile (· ≠ '@')

/-- Hides the first digits, as many as are to be hidden. -/
def hideDigits (m : Mask) : Nat → List Char → List Char
  | _, [] => []
  | 0, text => text
  | hidden + 1, c :: rest =>
    if c.isDigit then m.fill :: m.hideDigits hidden rest else c :: m.hideDigits (hidden + 1) rest

/-- The last four digits stay in sight if there are more. -/
def digits (m : Mask) (text : List Char) : List Char :=
  let total := text.countP Char.isDigit
  m.hideDigits (if total ≤ 4 then total else total - 4) text

/-- A text that would be shown as a whole is hidden as a whole. -/
def custom (m : Mask) (head tail : Nat) (text : List Char) : List Char :=
  if text.length ≤ head + tail then m.hide text
  else
    let last := text.length - tail
    text.take head ++ m.hide ((text.take last).drop head) ++ text.drop last

def apply (m : Mask) (text : List Char) : List Char :=
  match m.kind with
  | .email => m.email text
  | .digits => m.digits text
  | .full => m.hide text
  | .custom head tail => m.custom head tail text

/-- Values of every kind but null are masked by their texts. -/
def edit (field : String × Mask) : Edit where
  target := field.1
  outcome initial _ :=
    match initial.resolve field.1 with
    | none => .keep
    | some .null => .keep
    | some v => .write (.string (String.ofList (field.2.apply v.display.toList)))

def readKind (field : String) (args : Record) (name : String) : Except ConfigError MaskKind := do
  let name := Text.asciiLower name
  if name = "email" then return .email
  else if name ∈ ["phone", "card", "creditcard", "credit_card"] then return .digits
  else if name ∈ ["full", "all"] then return .full
  else if name = "custom" then
    let head ← Argument.optional args "showFirst" ["head", "start"] Argument.count
    let tail ← Argument.optional args "showLast" ["tail", "end"] Argument.count
    return .custom (head.getD 0) (tail.getD 0)
  else throw (.inField field (.unknownMask name))

/-- The name of the kind; without one a mapping means a full mask. -/
def readType (field : String) (args : Record) : Except ConfigError String :=
  match args.get? "type" with
  | some (.string name) => .ok name
  | none => .ok "full"
  | some v => .error (.inField field (.notMaskType v.kind))

def readRule (field : String) (v : Value) : Except ConfigError Mask := do
  let (name, args) ← match v with
    | .string name => pure (name, [])
    | .object args => do pure (← readType field args, args)
    | v => throw (.inField field (.notMask v.kind))
  let kind ← readKind field args name
  let fill ← Argument.optional args "char" ["maskChar"] Argument.character
  return ⟨kind, fill.getD '*'⟩

def readFields : Value → Except ConfigError (List (String × Mask)) :=
  Argument.entries "mask" "field" readRule

end Mask

end Reshape
