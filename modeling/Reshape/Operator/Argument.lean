import Reshape.Condition.Reader
import Reshape.Formula.Message
import Reshape.Json.Writer

/-!
# The configuration of a step

A step configures its operator with a value of several possible forms: a text, a list, a mapping.
The readers here take arguments from such values, and name the argument that is at fault. An
argument may have aliases; null counts as missing.

* `ConfigError`: all that can be wrong with a configuration, and `ConfigError.message` its wording.
* `Argument.count`, `Argument.integer`: whole numbers, which may be written as floats.
-/

namespace Reshape

inductive ConfigError where
  | notMapping (what kind : String)
  | notText (what kind : String)
  | notNames (what kind : String)
  | noNames (what : String)
  | missing (name : String)
  | notCount (what : String) (found : Value)
  | notInteger (what : String) (found : Value)
  | notFlag (name kind : String)
  | emptyText (name : String)
  /-- The cause lies in what is configured for a field. -/
  | inField (field : String) (cause : ConfigError)
  | noEntries (operator noun : String)
  | noCount (operator : String)
  | noLength
  | emptySeparator (operator : String)
  | condition (cause : ConditionError)
  | formula (cause : FormulaError)
  | notFormula (found : Value)
  | emptySortKey
  | longSortKey (key : String)
  | notSortKey (found : Value)
  | unknownOrder (order : String)
  | notCounter (found : Value)
  | notSeparator (found : Value)
  | notUnwinding (kind : String)
  | notTable
  | noBranch
  | unknownSide (side : String)
  | notMaskType (kind : String)
  | notMask (kind : String)
  | unknownMask (name : String)
  | notFormat (kind : String)
  | unknownFormat (name : String)
  | unknownFlag (flag : Char)
  /-- The message ends with the pattern. What a regex library goes on to say about it is left out. -/
  | badPattern (pattern : String)
  | unknownAggregate (name : String)
  | notAggregate (name kind : String)
  | noAggregateField (name function : String)

namespace ConfigError

def quote (s : String) : String :=
  "'" ++ s ++ "'"

def message : ConfigError → String
  | notMapping what kind => what ++ " must be a mapping, got " ++ kind
  | notText what kind => what ++ " must be a string, got " ++ kind
  | notNames what kind => what ++ " must be a string or a list of strings, got " ++ kind
  | noNames what => what ++ " must name at least one field"
  | missing name => "missing required " ++ quote name
  | notCount what found => what ++ " must be a non-negative integer, got " ++ Json.compact found
  | notInteger what found => what ++ " must be an integer, got " ++ Json.compact found
  | notFlag name kind => quote name ++ " must be a boolean, got " ++ kind
  | emptyText name => quote name ++ " must not be empty"
  | inField field cause => "field " ++ quote field ++ ": " ++ cause.message
  | noEntries operator noun => operator ++ " needs at least one " ++ noun
  | noCount operator => operator ++ " needs a count"
  | noLength => "missing 'length'"
  | emptySeparator operator => operator ++ " separator must not be empty"
  | condition cause => cause.message
  | formula cause => cause.message
  | notFormula found => "expression must be a string, got " ++ Json.compact found
  | emptySortKey => "sort key must not be empty"
  | longSortKey key => "sort key " ++ quote key ++ " must be 'path' or 'path asc|desc'"
  | notSortKey found => "sort key must be a string or a mapping, got " ++ Json.compact found
  | unknownOrder order => "sort order must be 'asc' or 'desc', got " ++ quote order
  | notCounter found =>
    "addIndex takes a field name or \x7bfield, start\x7d, got " ++ Json.compact found
  | notSeparator found => "flatten takes an optional separator, got " ++ Json.compact found
  | notUnwinding kind => "unwind needs a field path or \x7bfield, preserveEmpty\x7d, got " ++ kind
  | notTable => "lookup 'map' must be a mapping"
  | noBranch => "if needs 'then' or 'else'"
  | unknownSide side => "pad side must be 'left' or 'right', got " ++ quote side
  | notMaskType kind => "mask type must be a string, got " ++ kind
  | notMask kind => "mask must be a type name or a mapping, got " ++ kind
  | unknownMask name => "unknown mask type " ++ quote name
  | notFormat kind => "format must be a type name or a mapping, got " ++ kind
  | unknownFormat name => "unknown format type " ++ quote name
  | unknownFlag flag => "unknown replace flag " ++ quote flag.toString
  | badPattern pattern => "invalid pattern " ++ quote pattern
  | unknownAggregate name => "unknown aggregate operation " ++ quote name
  | notAggregate name kind =>
    "aggregation " ++ quote name ++ " must be an operation name or a mapping, got " ++ kind
  | noAggregateField name function =>
    "aggregation " ++ quote name ++ " (" ++ function ++ ") needs a field"

end ConfigError

namespace Argument

def mapping (what : String) : Value → Except ConfigError Record
  | .object args => .ok args
  | v => .error (.notMapping what v.kind)

/-- The first argument that is given among some names. -/
def given? (args : Record) (names : List String) : Option Value :=
  names.findSome? fun name => (args.get? name).filter (!·.isNull)

def text (what : String) : Value → Except ConfigError String
  | .string s => .ok s
  | v => .error (.notText what v.kind)

/-- An argument that may be missing. -/
def optional {α : Type} (args : Record) (name : String) (aliases : List String)
    (read : String → Value → Except ConfigError α) : Except ConfigError (Option α) :=
  match given? args (name :: aliases) with
  | some v => (read name v).map some
  | none => .ok none

def required {α : Type} (args : Record) (name : String) (aliases : List String)
    (read : String → Value → Except ConfigError α) : Except ConfigError α :=
  match given? args (name :: aliases) with
  | some v => read name v
  | none => .error (.missing name)

/-- One name or a list of names, of which there must be some. -/
def names (what : String) : Value → Except ConfigError (List String)
  | .string s => .ok [s]
  | .array items => do
    let found ← items.mapM (text what)
    if found.isEmpty then throw (.noNames what) else return found
  | v => .error (.notNames what v.kind)

/-- Counts have 64 bits. -/
def countBound : Nat := 0x10000000000000000

/-- A natural number below the bound. A float at the bound counts as the largest such number. -/
def count? : Value → Option Nat
  | .number (.int n) => if 0 ≤ n then some n.toNat else none
  | .number (.float x) => do
    let n ← Decimal.integer? x
    if 0 ≤ n ∧ n ≤ countBound then some (min n.toNat (countBound - 1)) else none
  | _ => none

def count (what : String) (v : Value) : Except ConfigError Nat :=
  match count? v with
  | some n => .ok n
  | none => .error (.notCount what v)

/-- The range of integers in a configuration, which have 64 bits. -/
def minInteger : Int := -0x8000000000000000
def maxInteger : Int := 0x7FFFFFFFFFFFFFFF

/-- An integer of 64 bits. The least one is refused where it is written as a float. -/
def integer? : Value → Option Int
  | .number (.int n) => if minInteger ≤ n ∧ n ≤ maxInteger then some n else none
  | .number (.float x) => do
    let n ← Decimal.integer? x
    if minInteger < n ∧ n ≤ maxInteger then some n else none
  | _ => none

def integer (what : String) (v : Value) : Except ConfigError Int :=
  match integer? v with
  | some n => .ok n
  | none => .error (.notInteger what v)

def flag (name : String) : Value → Except ConfigError Bool
  | .bool b => .ok b
  | v => .error (.notFlag name v.kind)

/-- The first character of a text. -/
def character (name : String) (v : Value) : Except ConfigError Char := do
  match (← text name v).toList with
  | c :: _ => return c
  | [] => throw (.emptyText name)

/-- An argument read for each field of a mapping, of which there must be some. -/
def entries {α : Type} (operator noun : String) (read : String → Value → Except ConfigError α)
    (v : Value) : Except ConfigError (List (String × α)) := do
  let args ← mapping operator v
  if args.isEmpty then throw (.noEntries operator noun)
  args.mapM fun (field, rule) => do return (field, ← read field rule)

end Argument

end Reshape
