import Reshape.Operator.Argument
import Reshape.Operator.Edit
import Reshape.Text.Segments
import Reshape.Value.Display

/-!
# The shape of texts

Texts joined from several fields, cut into several fields, shortened to a length and filled up to a
width. Lengths count characters.
-/

namespace Reshape

/-! ## Joining -/

structure Concat where
  target : String
  sources : List String
  separator : String

namespace Concat

/-- The texts of the sources that are not blank. -/
def parts (c : Concat) (r : Record) : List String :=
  ((c.sources.map r.resolve).filter (!isBlank ·)).map displayOf

def edit (c : Concat) : Edit where
  target := c.target
  outcome initial _ := .write (.string (Text.join c.separator (c.parts initial)))

def read (v : Value) : Except ConfigError Concat := do
  let args ← Argument.mapping "concat" v
  let target ← Argument.required args "targetField" ["target"] Argument.text
  let sources ← Argument.required args "sourceFields" ["fields", "sources"] Argument.names
  let separator ← Argument.optional args "separator" [] Argument.text
  return ⟨target, sources, separator.getD " "⟩

end Concat

/-! ## Cutting -/

structure Split where
  source : String
  separator : String
  targets : List String

namespace Split

/-- The parts of a text without the white space around them. -/
def parts (s : Split) (text : String) : List String :=
  (Text.splitAround s.separator.toList text.toList).map fun part =>
    String.ofList (Text.trimChars part)

/-- The part for the target at a position; targets without a part become empty, unless the source is
absent or null. -/
def edit (s : Split) (position : Nat) (target : String) : Edit where
  target
  outcome initial _ :=
    match initial.resolve s.source with
    | none => .keep
    | some .null => .keep
    | some v => .write (.string ((s.parts v.display)[position]?.getD ""))

def edits (s : Split) : List Edit :=
  s.targets.mapIdx s.edit

def read (v : Value) : Except ConfigError Split := do
  let args ← Argument.mapping "split" v
  let separator := (← Argument.optional args "separator" ["delimiter"] Argument.text).getD ","
  if separator.isEmpty then throw (.emptySeparator "split")
  let source ← Argument.required args "sourceField" ["field", "source"] Argument.text
  let targets ← Argument.required args "targetFields" ["targets"] Argument.names
  return ⟨source, separator, targets⟩

end Split

/-! ## Shortening -/

structure Truncation where
  length : Nat
  /-- Marks a text that was cut, and counts toward its length. -/
  suffix : String := "..."
deriving DecidableEq, Repr

namespace Truncation

/-- A text of at most the length. A suffix that leaves no room is not used. -/
def shorten (t : Truncation) (text : List Char) : List Char :=
  let suffix := t.suffix.toList
  if text.length ≤ t.length then text
  else if t.length ≤ suffix.length then text.take t.length
  else text.take (t.length - suffix.length) ++ suffix

/-- Only texts that are too long are written. -/
def edit (field : String × Truncation) : Edit where
  target := field.1
  outcome initial _ :=
    match initial.resolve field.1 with
    | some (.string s) =>
      if s.length ≤ field.2.length then .keep
      else .write (.string (String.ofList (field.2.shorten s.toList)))
    | _ => .keep

def readRule (field : String) : Value → Except ConfigError Truncation
  | .object args => do
    match ← Argument.optional args "length" ["max"] Argument.count with
    | none => throw (.inField field .noLength)
    | some length =>
      let suffix ← Argument.optional args "suffix" [] Argument.text
      return ⟨length, suffix.getD "..."⟩
  | v => do return { length := ← Argument.count field v }

def readFields : Value → Except ConfigError (List (String × Truncation)) :=
  Argument.entries "truncate" "field" readRule

end Truncation

/-! ## Filling up -/

inductive Side where
  | left
  | right
deriving DecidableEq, Repr

structure Padding where
  width : Nat
  fill : Char := ' '
  side : Side := .left
deriving DecidableEq, Repr

namespace Padding

/-- A text of at least the width. Every width gives one here, also those for which no memory is large
enough. -/
def pad (p : Padding) (text : List Char) : List Char :=
  let missing := List.replicate (p.width - text.length) p.fill
  match p.side with
  | .left => missing ++ text
  | .right => text ++ missing

/-- Values of every kind but null become texts. -/
def edit (field : String × Padding) : Edit where
  target := field.1
  outcome initial _ :=
    match initial.resolve field.1 with
    | none => .keep
    | some .null => .keep
    | some v => .write (.string (String.ofList (field.2.pad v.display.toList)))

def readSide : Option String → Except ConfigError Side
  | none => .ok .left
  | some side =>
    let side := Text.asciiLower side
    if side = "left" ∨ side = "start" then .ok .left
    else if side = "right" ∨ side = "end" then .ok .right
    else .error (.unknownSide side)

def readRule (field : String) : Value → Except ConfigError Padding
  | .object args => do
    let written ← Argument.optional args "side" ["direction"] Argument.text
    let side ← (readSide written).mapError (.inField field)
    match ← Argument.optional args "length" ["width"] Argument.count with
    | none => throw (.inField field .noLength)
    | some width =>
      let fill ← Argument.optional args "char" ["fill"] Argument.character
      return ⟨width, fill.getD ' ', side⟩
  | v => do return { width := ← Argument.count field v }

def readFields : Value → Except ConfigError (List (String × Padding)) :=
  Argument.entries "pad" "field" readRule

end Padding

end Reshape
