import Reshape.Text.Segments
import Reshape.Value.Basic

/-!
# Field paths

A path names a field through nested records by its names joined with dots. A field whose own name
is the whole path wins over the walk, so that a step can read what an earlier one wrote under a
dotted name.

* `Record.resolve`: the value at a path; a missing name, or one below a value that is not a record,
  makes it absent.
* `Record.setPath`: writes a value at a path, making the records on the way.
-/

namespace Reshape

/-- The names of a path. -/
def segments (path : String) : List String :=
  (Text.splitOn '.' path.toList).map String.ofList

def isDotted (path : String) : Bool :=
  path.toList.contains '.'

namespace Record

/-- The value below a chain of names. -/
def walk (r : Record) : List String → Option Value
  | [] => none
  | [name] => r.get? name
  | name :: next :: names =>
    match r.get? name with
    | some (.object inner) => walk inner (next :: names)
    | _ => none

def resolve (r : Record) (path : String) : Option Value :=
  if path = "" then none
  else (r.get? path).or (r.walk (segments path))

/-- Writes below a chain of names. A name that is missing, or holds no record, becomes a record. -/
def setWalk (r : Record) (value : Value) : List String → Record
  | [] => r
  | [name] => r.insert name value
  | name :: next :: names =>
    let inner : Record :=
      match r.get? name with
      | some (.object fields) => fields
      | _ => []
    r.insert name (.object (setWalk inner value (next :: names)))

def setPath (r : Record) (path : String) (value : Value) : Record :=
  if ¬ isDotted path ∨ r.contains path then r.insert path value
  else r.setWalk value (segments path)

end Record

/-- The value at a path below any value; only objects have fields. -/
def Value.resolve (v : Value) (path : String) : Option Value :=
  v.asRecord?.bind fun r => r.resolve path

end Reshape
