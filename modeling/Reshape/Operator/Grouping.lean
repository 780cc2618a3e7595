import Reshape.Digest.Encoding
import Reshape.Operator.Aggregate

/-!
# Grouping

Records with equal values at some paths form a class. `group` gives one record for each class in
the order of their first records; `summarize` adds one record for the whole sequence.
-/

namespace Reshape

/-- The classes found so far, in the order of their first items, and the place that the class of
each key has among them. -/
structure Classified (κ α : Type) where
  places : List (κ × Nat)
  classes : List (List α)

namespace Classified

variable {κ α : Type} [BEq κ]

def empty : Classified κ α :=
  ⟨[], []⟩

/-- An item joins the class of its key; the first item of a key starts a class behind the others. -/
def add (c : Classified κ α) (key : κ) (item : α) : Classified κ α :=
  match c.places.lookup key with
  | some place => { c with classes := c.classes.modify place (· ++ [item]) }
  | none => ⟨(key, c.classes.length) :: c.places, c.classes ++ [[item]]⟩

end Classified

/-- The lists of those with one key, in the order of the first keys. -/
def classes {α κ : Type} [BEq κ] (key : α → κ) (items : List α) : List (List α) :=
  (items.foldl (fun c item => c.add (key item) item) Classified.empty).classes

structure Grouping where
  paths : List String
  aggregates : List Aggregate

namespace Grouping

def key (g : Grouping) (r : Record) : GroupKey :=
  .ofValues (g.paths.map r.resolve)

/-- The fields of a class by which it was formed, each under its path as a name. -/
def heading (g : Grouping) (members : List Record) : Record :=
  .ofList (g.paths.map fun path =>
    (path, ((members.head?.bind fun r => r.resolve path).getD .null)))

def summary (g : Grouping) (listSeparator : String) (members : List Record) : Record :=
  Aggregate.addAll g.aggregates listSeparator members
    ((g.heading members).insert "_count" (.int members.length))

def apply (g : Grouping) (listSeparator : String) (rs : List Record) : List Record :=
  (classes g.key rs).map (g.summary listSeparator)

def readMapping (args : Record) : Except ConfigError Grouping := do
  let aggregates ← Aggregate.readAll "aggregations" false
    (Argument.given? args ["aggregations", "aggregate", "aggs"])
  let paths ← Argument.required args "by" ["groupBy", "fields"] Argument.names
  return ⟨paths, aggregates⟩

def read : Value → Except ConfigError Grouping
  | v@(.string _) => do return ⟨← Argument.names "group by" v, []⟩
  | v@(.array _) => do return ⟨← Argument.names "group by" v, []⟩
  | v => do readMapping (← Argument.mapping "group" v)

end Grouping

structure Summary where
  aggregates : List Aggregate
  /-- The fields in front of the results. -/
  label : Record

namespace Summary

def totals (s : Summary) (listSeparator : String) (rs : List Record) : Record :=
  Aggregate.addAll s.aggregates listSeparator rs s.label

def apply (s : Summary) (listSeparator : String) (rs : List Record) : List Record :=
  rs ++ [s.totals listSeparator rs]

def read (v : Value) : Except ConfigError Summary := do
  let args ← Argument.mapping "summarize" v
  let aggregates ← Aggregate.readAll "summarize fields" true
    (Argument.given? args ["fields", "aggregations"])
  if aggregates.isEmpty then throw (.noEntries "summarize" "field")
  let label ← match Argument.given? args ["label", "labels"] with
    | none => pure []
    | some v => Argument.mapping "summarize label" v
  return ⟨aggregates, label⟩

end Summary

end Reshape
