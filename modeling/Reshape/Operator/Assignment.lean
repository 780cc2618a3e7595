import Reshape.Calendar.Rendering
import Reshape.Condition.Evaluate
import Reshape.Formula.Evaluate
import Reshape.Formula.Reader
import Reshape.Operator.Argument
import Reshape.Operator.Context
import Reshape.Operator.Edit

/-!
# Fields with new values

The operators that give fields values: from a formula, a table, other fields, a condition or the
configuration itself. A text that begins with a dollar sign refers to a field, unless the dollar
sign is doubled.

* `Source.read`: a configured value as a literal or as a reference to a field.
-/

namespace Reshape

inductive Source where
  | literal (v : Value)
  | field (path : String)

namespace Source

def read : Value → Source
  | .string s =>
    match s.toList with
    | '$' :: '$' :: rest => literal (.string (String.ofList ('$' :: rest)))
    | '$' :: c :: rest => field (String.ofList (c :: rest))
    | _ => literal (.string s)
  | v => literal v

/-- An absent field gives null. -/
def value (r : Record) : Source → Value
  | literal v => v
  | field path => (r.resolve path).getD .null

end Source

/-! ## Constants and the clock -/

inductive Assigned where
  | now
  | today
  | timestamp
  | source (s : Source)

namespace Assigned

def read (v : Value) : Assigned :=
  match v with
  | .string "$now" => now
  | .string "$today" => today
  | .string "$timestamp" => timestamp
  | v => source (.read v)

def value (context : Context) (r : Record) : Assigned → Value
  | now => .string (Calendar.render "YYYY-MM-DDTHH:mm:ssZ" context.now)
  | today => .string (Calendar.render "YYYY-MM-DD" context.now)
  | timestamp => .int context.now.toMillis
  | source s => s.value r

/-- A field sees those that are set before it. -/
def edit (context : Context) (field : String × Assigned) : Edit where
  target := field.1
  outcome _ current := .write (field.2.value context current)

def readFields : Value → Except ConfigError (List (String × Assigned)) :=
  Argument.entries "set" "field" fun _ v => .ok (read v)

end Assigned

/-! ## Formulas -/

namespace Formula

/-- A field that cannot be computed becomes null, with a warning. Later fields see earlier ones. -/
def edit (field : String × Formula) : Edit where
  target := field.1
  outcome _ current :=
    match field.2.evaluate current with
    | .ok v => .write v
    | .error e =>
      { value := some .null, warning := some ("'" ++ field.1 ++ "' set to null: " ++ e.message) }

def readField (field : String) : Value → Except ConfigError Formula
  | .string source => (read source).mapError fun e => .inField field (.formula e)
  | .number n => .ok (number n.toFloat)
  | v => .error (.inField field (.notFormula v))

def readFields : Value → Except ConfigError (List (String × Formula)) :=
  Argument.entries "compute" "field" readField

end Formula

/-! ## Tables -/

structure Lookup where
  source : String
  target : String
  table : Record
  /-- The value of texts that the table lacks; without it they change nothing. -/
  fallback : Option Value := none

namespace Lookup

def edit (l : Lookup) : Edit where
  target := l.target
  outcome initial _ :=
    { value := (l.table.get? (displayOf (initial.resolve l.source))).or l.fallback }

def readTable : Option Value → Except ConfigError Record
  | some (.object table) => .ok table
  | some _ => .error .notTable
  | none => .error (.missing "map")

def read (v : Value) : Except ConfigError Lookup := do
  let args ← Argument.mapping "lookup" v
  let source ← Argument.required args "sourceField" ["field", "source"] Argument.text
  let table ← readTable (Argument.given? args ["map", "table", "mapping"])
  let target ← Argument.optional args "targetField" ["target"] Argument.text
  return ⟨source, target.getD source, table, args.get? "default"⟩

end Lookup

/-! ## The first value among several -/

structure Coalesce where
  target : String
  sources : List String
  fallback : Value

namespace Coalesce

/-- The first value that is not blank. -/
def value (c : Coalesce) (r : Record) : Value :=
  match (c.sources.map r.resolve).find? (!isBlank ·) with
  | some (some v) => v
  | _ => c.fallback

def edit (c : Coalesce) : Edit where
  target := c.target
  outcome initial _ := .write (c.value initial)

def read (v : Value) : Except ConfigError Coalesce := do
  let args ← Argument.mapping "coalesce" v
  let target ← Argument.required args "targetField" ["target"] Argument.text
  let sources ← Argument.required args "sourceFields" ["fields", "sources"] Argument.names
  return ⟨target, sources, (args.get? "default").getD .null⟩

end Coalesce

/-! ## One of two values -/

structure Choice where
  target : String
  condition : Condition
  /-- A branch that is missing leaves the target alone. -/
  yes : Option Source
  no : Option Source

namespace Choice

def edit (c : Choice) : Edit where
  target := c.target
  outcome initial _ :=
    { value := (if c.condition.holds initial then c.yes else c.no).map (·.value initial) }

def read (v : Value) : Except ConfigError Choice := do
  let args ← Argument.mapping "if" v
  let source ← Argument.required args "condition" ["when"] Argument.text
  let condition ← (Condition.read source).mapError .condition
  let yes := (args.get? "then").map Source.read
  let no := (args.get? "else").map Source.read
  if yes.isNone ∧ no.isNone then throw .noBranch
  let target ← Argument.required args "targetField" ["target", "field"] Argument.text
  return ⟨target, condition, yes, no⟩

end Choice

end Reshape
