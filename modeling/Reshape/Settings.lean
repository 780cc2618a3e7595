import Reshape.Text.Quoted
import Reshape.Value.Basic

/-!
# Settings

What holds for a whole run unless a step says otherwise. A pipeline document can override any of
them. Both are read from an object with one field for each setting, or from an array with the
settings in order.

* `Settings.ofValue`: settings with defaults for what is missing; unknown fields are ignored.
* `Overrides.ofValue`: overrides, where null leaves a setting alone; unknown fields are refused.
-/

namespace Reshape

structure Settings where
  /-- Between the values that the `list` aggregate joins. -/
  listSeparator : String := ", "
  /-- Between the names of flattened fields. -/
  flattenSeparator : String := "."
  /-- The pattern of formatted dates. -/
  dateFormat : String := "YYYY-MM-DD"
  /-- The number of steps that a pipeline may have. -/
  maxSteps : Nat := 1000
deriving DecidableEq, Repr

structure Overrides where
  listSeparator : Option String := none
  flattenSeparator : Option String := none
  dateFormat : Option String := none
  maxSteps : Option Nat := none
deriving DecidableEq, Repr

def Overrides.applyTo (o : Overrides) (s : Settings) : Settings where
  listSeparator := o.listSeparator.getD s.listSeparator
  flattenSeparator := o.flattenSeparator.getD s.flattenSeparator
  dateFormat := o.dateFormat.getD s.dateFormat
  maxSteps := o.maxSteps.getD s.maxSteps

inductive SettingName where
  | listSeparator
  | flattenSeparator
  | dateFormat
  | maxSteps
deriving DecidableEq, Repr

namespace SettingName

/-- The order of the settings in an array. -/
def all : List SettingName :=
  [listSeparator, flattenSeparator, dateFormat, maxSteps]

def canonical : SettingName → String
  | listSeparator => "list_separator"
  | flattenSeparator => "flatten_separator"
  | dateFormat => "default_date_format"
  | maxSteps => "max_steps"

/-- Other spellings that a document may use. -/
def aliases : SettingName → List String
  | listSeparator => ["listSeparator"]
  | flattenSeparator => ["flattenSeparator"]
  | dateFormat => ["dateFormat", "defaultDateFormat"]
  | maxSteps => ["maxSteps"]

end SettingName

inductive SettingsError where
  | wrongType (found : Value) (expected : String)
  | negative (n : Int)
  | unknown (name : String) (known : List String)
  | duplicate (name : SettingName)
  | tooLong (length : Nat)

/-- The kind of a value, with the value itself if it is small. -/
def Value.describe : Value → String
  | .null => "null"
  | .bool b => if b then "boolean `true`" else "boolean `false`"
  | .number (.int n) => "integer `" ++ Json.intText n ++ "`"
  | .number (.float x) => "floating point `" ++ Json.numberText (.float x) ++ "`"
  | .string s => "string " ++ Text.quoted s
  | .array _ => "sequence"
  | .object _ => "map"

namespace SettingsError

/-- The expectation of a whole number. -/
def wholeNumber : String := "usize"

def message : SettingsError → String
  | wrongType found expected =>
    "invalid type: " ++ found.describe ++ ", expected " ++ expected
  | negative n =>
    "invalid value: integer `" ++ Json.intText n ++ "`, expected " ++ wholeNumber
  | unknown name known =>
    "unknown field `" ++ name ++ "`, expected one of "
      ++ ", ".intercalate (known.map fun k => "`" ++ k ++ "`")
  | duplicate name => "duplicate field `" ++ name.canonical ++ "`"
  | tooLong length =>
    "invalid length " ++ toString length ++ ", expected fewer elements in array"

end SettingsError

def readString : Value → Except SettingsError String
  | .string s => .ok s
  | v => .error (.wrongType v "a string")

def readCount : Value → Except SettingsError Nat
  | .number (.int n) => if n < 0 then .error (.negative n) else .ok n.toNat
  | v => .error (.wrongType v SettingsError.wholeNumber)

namespace Overrides

def set (o : Overrides) (name : SettingName) (v : Value) : Except SettingsError Overrides := do
  match name with
  | .listSeparator => return { o with listSeparator := some (← readString v) }
  | .flattenSeparator => return { o with flattenSeparator := some (← readString v) }
  | .dateFormat => return { o with dateFormat := some (← readString v) }
  | .maxSteps => return { o with maxSteps := some (← readCount v) }

/-- A setting for which null means unset. -/
def setNullable (o : Overrides) (name : SettingName) (v : Value) :
    Except SettingsError Overrides :=
  if v.isNull then .ok o else o.set name v

end Overrides

/-- The settings of an array in order; those at its end may be missing. -/
def readArray (set : Overrides → SettingName → Value → Except SettingsError Overrides)
    (items : List Value) : Except SettingsError Overrides := do
  let o ← (SettingName.all.zip items).foldlM (fun o (name, v) => set o name v) {}
  if SettingName.all.length < items.length then throw (.tooLong items.length) else return o

namespace Settings

def readField (o : Overrides) (field : String × Value) : Except SettingsError Overrides :=
  match SettingName.all.find? fun name => name.canonical == field.1 with
  | some name => o.set name field.2
  | none => .ok o

def ofValue (v : Value) : Except SettingsError Settings := do
  let o ← match v with
    | .array items => readArray Overrides.set items
    | .object r => r.foldlM readField {}
    | v => throw (.wrongType v "struct EngineConfig")
  return o.applyTo {}

end Settings

namespace Overrides

/-- All spellings, setting by setting. -/
def knownNames : List String :=
  SettingName.all.flatMap fun name => name.aliases ++ [name.canonical]

/-- A field of an object, after the settings that have been read. -/
def readField (state : List SettingName × Overrides) (field : String × Value) :
    Except SettingsError (List SettingName × Overrides) := do
  let (seen, o) := state
  match SettingName.all.find? fun name => field.1 ∈ name.canonical :: name.aliases with
  | none => throw (.unknown field.1 knownNames)
  | some name =>
    if name ∈ seen then throw (.duplicate name)
    else return (name :: seen, ← o.setNullable name field.2)

def ofValue : Value → Except SettingsError Overrides
  | .array items => readArray setNullable items
  | .object r => do
    let (_, o) ← r.foldlM readField ([], {})
    return o
  | v => .error (.wrongType v "struct PipelineConfig")

end Overrides

end Reshape
