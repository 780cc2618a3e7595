import Reshape.Operator.Argument
import Reshape.Record.Path

/-!
# Which fields a record has

* `Projection.select` keeps the values at some paths, each under its path as a name.
* `Projection.exclude` drops fields by name.
* `Projection.rename` gives fields new names in their places.
-/

namespace Reshape.Projection

def select (paths : List String) (r : Record) : Record :=
  .ofList (paths.filterMap fun path => (r.resolve path).map fun v => (path, v))

def exclude (names : List String) (r : Record) : Record :=
  r.filter fun field => field.1 ∉ names

def newName (renames : List (String × String)) (name : String) : String :=
  (renames.lookup name).getD name

def rename (renames : List (String × String)) (r : Record) : Record :=
  .ofList (r.map fun (name, v) => (newName renames name, v))

def readSelect : Value → Except ConfigError (List String)
  | .object args => Argument.required args "fields" ["paths"] Argument.names
  | v => Argument.names "select" v

def readExclude : Value → Except ConfigError (List String)
  | .object args => Argument.required args "fields" [] Argument.names
  | v => Argument.names "exclude" v

def readRename : Value → Except ConfigError (List (String × String)) :=
  Argument.entries "rename" "mapping" Argument.text

end Reshape.Projection
