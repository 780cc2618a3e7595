import Reshape.Operator.Argument
import Reshape.Record.Path

/-!
# Nested values

* `Nesting.flatten`: the leaves of a record, each under the joined names on the way to it. Arrays
  and empty records are leaves.
* `Unwinding.rows`: a record for each item of an array.
-/

namespace Reshape

namespace Nesting

/-- The name of a field below the names in front; nothing is joined to an empty name. -/
def joinedName (separator front name : String) : String :=
  if front.isEmpty then name else front ++ separator ++ name

mutual

/-- The leaves of a value that has a name. -/
def leavesAt (separator name : String) : Value → List (String × Value)
  | .object fields =>
    if fields.isEmpty then [(name, .object fields)] else leavesBelow separator name fields
  | v => [(name, v)]

/-- The leaves of fields below a name. -/
def leavesBelow (separator front : String) : List (String × Value) → List (String × Value)
  | [] => []
  | (name, v) :: rest =>
    leavesAt separator (joinedName separator front name) v ++ leavesBelow separator front rest

end

def flatten (separator : String) (r : Record) : Record :=
  .ofList (leavesBelow separator "" r)

/-- The separator of a step that has its own. -/
def readFlatten (v : Value) : Except ConfigError (Option String) := do
  let separator ← match v with
    | .null => pure none
    | .bool true => pure none
    | .string s => pure (some s)
    | .object args => Argument.optional args "separator" ["delimiter"] Argument.text
    | v => throw (.notSeparator v)
  if separator = some "" then throw (.emptySeparator "flatten") else return separator

end Nesting

structure Unwinding where
  path : String
  /-- Records without items are kept, with null at the path. -/
  preserveEmpty : Bool := false
deriving DecidableEq, Repr

namespace Unwinding

def items (u : Unwinding) (r : Record) : List Value :=
  match r.resolve u.path with
  | some (.array items) => items
  | _ => []

def rows (u : Unwinding) (r : Record) : List Record :=
  let items := u.items r
  if items.isEmpty then if u.preserveEmpty then [r.setPath u.path .null] else []
  else items.map (r.setPath u.path)

def read : Value → Except ConfigError Unwinding
  | .object args => do
    let path ← Argument.required args "field" ["path"] Argument.text
    let preserveEmpty ←
      Argument.optional args "preserveEmpty" ["preserveNullAndEmptyArrays"] Argument.flag
    return ⟨path, preserveEmpty.getD false⟩
  | v@(.string path) => if path.isEmpty then .error (.notUnwinding v.kind) else .ok { path }
  | v => .error (.notUnwinding v.kind)

end Unwinding

end Reshape
