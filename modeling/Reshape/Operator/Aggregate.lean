import Reshape.Operator.Argument
import Reshape.Record.Path
import Reshape.Value.Display

/-!
# Aggregates

One value computed from a field over several records. The numeric functions see numbers and
numeric texts only and skip all other values.
-/

namespace Reshape

inductive AggregateFunction where
  | sum
  | avg
  | count
  | min
  | max
  | first
  | last
  | list
deriving DecidableEq, Repr

namespace AggregateFunction

def name : AggregateFunction → String
  | sum => "sum"
  | avg => "avg"
  | count => "count"
  | min => "min"
  | max => "max"
  | first => "first"
  | last => "last"
  | list => "list"

def names : List (String × AggregateFunction) :=
  [("sum", sum), ("avg", avg), ("average", avg), ("mean", avg), ("count", count), ("min", min),
    ("max", max), ("first", first), ("last", last), ("list", list), ("concat", list)]

/-- A function by its name in any letter case. -/
def read (name : String) : Except ConfigError AggregateFunction :=
  let name := Text.asciiLower name
  match names.lookup name with
  | some f => .ok f
  | none => .error (.unknownAggregate name)

end AggregateFunction

structure Aggregate where
  /-- The field that holds the result. -/
  name : String
  function : AggregateFunction
  /-- Only `count` may lack a field; it counts the records then. -/
  field : Option String
deriving DecidableEq, Repr

namespace Aggregate

def total (numbers : List Float) : Float :=
  numbers.foldl (· + ·) 0

/-- The number of a list that no other is `better` than. -/
def best (better : Float → Float → Bool) : List Float → Option Float
  | [] => none
  | x :: rest => some (rest.foldl (fun chosen y => if better y chosen then y else chosen) x)

def numeric (f : AggregateFunction) (numbers : List Float) : Option Float :=
  match f with
  | .sum => some (total numbers)
  | .avg => if numbers.isEmpty then none else some (total numbers / Float.ofNat numbers.length)
  | .min => best (fun x y => decide (x < y)) numbers
  | .max => best (fun x y => decide (y < x)) numbers
  | _ => none

/-- One value for the values of a field in several records. -/
def combine (listSeparator : String) (f : AggregateFunction) (values : List (Option Value)) :
    Value :=
  match f with
  | .count => .int (values.countP Option.isSome)
  | .first => values.head?.join.getD .null
  | .last => values.getLast?.join.getD .null
  | .list =>
    .string (Text.join listSeparator
      (((values.filterMap id).filter (!·.isNull)).map Value.display))
  | f => ((numeric f (values.filterMap (·.bind Value.toFloat?))).bind Value.ofFloat?).getD .null

def reduce (a : Aggregate) (listSeparator : String) (rs : List Record) : Value :=
  match a.field with
  | none => .int rs.length
  | some path => combine listSeparator a.function (rs.map fun r => r.resolve path)

def addAll (aggregates : List Aggregate) (listSeparator : String) (rs : List Record)
    (out : Record) : Record :=
  aggregates.foldl (fun out a => out.insert a.name (a.reduce listSeparator rs)) out

/-- The name of a function, or a mapping with the function and the field. A default stands in for a
missing field, except that `count` in a mapping counts the records. -/
def read (default : Option String) (name : String) (v : Value) : Except ConfigError Aggregate := do
  let (function, field) ← match v with
    | .string f => do pure (← AggregateFunction.read f, default)
    | .object args => do
      let f ← AggregateFunction.read
        (← Argument.required args "op" ["operation", "fn"] Argument.text)
      let field ← Argument.optional args "field" ["sourceField", "source"] Argument.text
      pure (f, if f = .count then field else field.or default)
    | v => throw (.notAggregate name v.kind)
  if field.isNone ∧ function ≠ .count then throw (.noAggregateField name function.name)
  return ⟨name, function, field⟩

/-- A mapping from names to aggregates; it may be missing. -/
def readAll (what : String) (fieldIsName : Bool) : Option Value →
    Except ConfigError (List Aggregate)
  | none => .ok []
  | some v => do
    (← Argument.mapping what v).mapM fun (name, spec) =>
      read (if fieldIsName then some name else none) name spec

end Aggregate

end Reshape
