import Reshape.Calendar.Reading
import Reshape.Calendar.Rendering
import Reshape.Decimal.Fixed
import Reshape.Operator.Argument
import Reshape.Operator.Context
import Reshape.Operator.Edit
import Reshape.Pattern.Reader
import Reshape.Pattern.Replacement
import Reshape.Text.Thousands
import Reshape.Unicode.Case
import Reshape.Value.Display

/-!
# Formatted values

The written forms that a field can be given: a date by a pattern, a number with places and
separators, a text in another case, a label for a flag, a text with replacements, a default for
what is blank. A value that its form does not fit is kept, with a warning.

* `NumberForm.render`: a number as text.
* `FieldForm.outcome`: what becomes of a field.
-/

namespace Reshape

structure NumberForm where
  /-- Without a number of decimals the shortest text is written. -/
  decimals : Option Nat := none
  thousands : Option String := none
  prefixText : String := ""
  suffixText : String := ""
deriving DecidableEq, Repr

namespace NumberForm

def body (f : NumberForm) (x : Float) : String :=
  match f.decimals with
  | some places => Decimal.fixed textLayout places x
  | none => floatText x

def render (f : NumberForm) (x : Float) : String :=
  let grouped := match f.thousands with
    | some separator =>
      String.ofList (Text.groupThousands separator.toList (f.body x).toList)
    | none => f.body x
  f.prefixText ++ grouped ++ f.suffixText

end NumberForm

inductive FieldForm where
  /-- Without a pattern of its own, dates are written by the one of the settings. -/
  | date (pattern : Option String)
  | number (form : NumberForm)
  | upper
  | lower
  | trim
  | flag (yes no : String)
  | replace (pattern : NamedPattern) (everywhere : Bool) (form : List Char)
  | fallback (v : Value)

inductive FormatError where
  | notDate (v : Value)
  | notNumeric (v : Value)

def FormatError.message : FormatError → String
  | notDate v => "cannot read " ++ Json.compact v ++ " as a date"
  | notNumeric v => Json.compact v ++ " is not numeric"

namespace FieldForm

/-- A text becomes another one, and any other value is kept. -/
def onText (f : String → String) : Value → Option Value
  | .string s => some (.string (f s))
  | _ => none

/-- The new value of a field that is neither absent nor null, if it gets one. -/
def apply (settings : Settings) (form : FieldForm) (v : Value) :
    Except FormatError (Option Value) :=
  match form with
  | date pattern =>
    match Calendar.read? v with
    | some t => .ok (some (.string (Calendar.render (pattern.getD settings.dateFormat) t)))
    | none => .error (.notDate v)
  | number form =>
    match v.toFloat? with
    | some x => .ok (some (.string (form.render x)))
    | none => .error (.notNumeric v)
  | upper => .ok (onText Unicode.upper v)
  | lower => .ok (onText Unicode.lower v)
  | trim => .ok (onText Text.trim v)
  | flag yes no => .ok (some (.string (if truthy (some v) then yes else no)))
  | replace pattern everywhere form =>
    .ok (onText (fun s => String.ofList (pattern.replace everywhere form s.toList)) v)
  | fallback _ => .ok none

/-- What becomes of a field. A default takes the place of what is blank. -/
def outcome (settings : Settings) (name : String) (form : FieldForm) (v : Option Value) :
    Outcome :=
  match form, v with
  | fallback d, v => if isBlank v then .write d else .keep
  | _, none => .keep
  | _, some .null => .keep
  | form, some v =>
    match form.apply settings v with
    | .ok value => { value }
    | .error e => { warning := some ("'" ++ name ++ "': " ++ e.message) }

/-- A field is read as the earlier edits have left it. -/
def edit (settings : Settings) (field : String × FieldForm) : Edit where
  target := field.1
  outcome _ current := field.2.outcome settings field.1 (current.resolve field.1)

/-! ## Reading -/

/-- The flags of a replacement: everywhere, and in any case of letters. -/
def readFlags (everywhere anyCase : Bool) : List Char → Except ConfigError (Bool × Bool)
  | [] => .ok (everywhere, anyCase)
  | c :: rest =>
    if c = 'g' then readFlags true anyCase rest
    else if c = 'i' then readFlags everywhere true rest
    else .error (.unknownFlag c)

def readReplace (args : Record) : Except ConfigError FieldForm := do
  let source ← Argument.required args "pattern" ["search", "from"] Argument.text
  let flags ← Argument.optional args "flags" [] Argument.text
  let (everywhere, anyCase) ← readFlags false false (flags.getD "g").toList
  match Pattern.read? anyCase source with
  | none => throw (.badPattern source)
  | some pattern =>
    let replacement ← Argument.optional args "replacement" ["replace", "with"] Argument.text
    return replace pattern everywhere (pattern.template (replacement.getD "").toList)

/-- The separator of thousands, or a flag that asks for a comma. -/
def readThousands (name : String) : Value → Except ConfigError (Option String)
  | .bool true => .ok (some ",")
  | .bool false => .ok none
  | v => (Argument.text name v).map some

def readNumber (args : Record) : Except ConfigError FieldForm := do
  let decimals ← Argument.optional args "decimals" ["precision"] Argument.count
  let thousands ← Argument.optional args "thousands" ["thousandsSeparator"] readThousands
  let before ← Argument.optional args "prefix" [] Argument.text
  let after ← Argument.optional args "suffix" [] Argument.text
  return number ⟨decimals, thousands.join, before.getD "", after.getD ""⟩

def readFlagLabels (args : Record) : Except ConfigError FieldForm := do
  let yes ← Argument.optional args "trueLabel" ["trueValue", "true"] Argument.text
  let no ← Argument.optional args "falseLabel" ["falseValue", "false"] Argument.text
  return flag (yes.getD "Yes") (no.getD "No")

def readForm (args : Record) (name : String) : Except ConfigError FieldForm := do
  let name := Text.asciiLower name
  if name = "date" then
    return date (← Argument.optional args "pattern" ["format"] Argument.text)
  else if name = "number" then readNumber args
  else if name ∈ ["uppercase", "upper"] then return upper
  else if name ∈ ["lowercase", "lower"] then return lower
  else if name = "trim" then return trim
  else if name ∈ ["boolean", "bool"] then readFlagLabels args
  else if name = "replace" then readReplace args
  else if name = "default" then return fallback ((args.get? "value").getD .null)
  else throw (.unknownFormat name)

def readRule (field : String) (v : Value) : Except ConfigError FieldForm :=
  Except.mapError (.inField field) do
    match v with
    | .string name => readForm [] name
    | .object args => readForm args (← Argument.required args "type" [] Argument.text)
    | v => throw (.notFormat v.kind)

def readFields : Value → Except ConfigError (List (String × FieldForm)) :=
  Argument.entries "format" "field" readRule

end FieldForm

end Reshape
