import Reshape.Operator.Argument
import Reshape.Operator.Context
import Reshape.Record.Path
import Reshape.Value.Order

/-!
# Sorting

Records are sorted by the values at some paths, by the first path first. Records in which a value is
absent or null come last at its path, whatever the direction.
-/

namespace Reshape

structure SortKey where
  path : String
  descending : Bool := false
deriving DecidableEq, Repr

namespace SortKey

def value? (key : SortKey) (r : Record) : Option Value :=
  (r.resolve key.path).filter (!·.isNull)

def compare (key : SortKey) (a b : Record) : Ordering :=
  match key.value? a, key.value? b with
  | none, none => .eq
  | none, some _ => .gt
  | some _, none => .lt
  | some x, some y => if key.descending then (sortOrder x y).swap else sortOrder x y

/-- Whether an order is the descending one; ascending is the default. -/
def readOrder : Option String → Except ConfigError Bool
  | none => .ok false
  | some order =>
    let order := Text.asciiLower order
    if order = "asc" ∨ order = "ascending" then .ok false
    else if order = "desc" ∨ order = "descending" then .ok true
    else .error (.unknownOrder order)

def read : Value → Except ConfigError SortKey
  | .string s =>
    match Text.words s.toList with
    | [] => .error .emptySortKey
    | [path] => .ok ⟨String.ofList path, false⟩
    | [path, order] => do
      return ⟨String.ofList path, ← readOrder (some (String.ofList order))⟩
    | _ => .error (.longSortKey s)
  | .object args => do
    let path ← Argument.required args "field" ["by", "path"] Argument.text
    let order ← Argument.optional args "order" ["direction"] Argument.text
    return ⟨path, ← readOrder order⟩
  | v => .error (.notSortKey v)

end SortKey

namespace Sorting

/-- The order by the first key that tells two records apart. -/
def compare : List SortKey → Record → Record → Ordering
  | [], _, _ => .eq
  | key :: rest, a, b => (key.compare a b).then (compare rest a b)

/-- The records in order if the keys put them into a total preorder. What becomes of other records is
up to the sorter, and a fault if it gives up. -/
def sort (sorter : Sorter) (keys : List SortKey) (rs : List Record) :
    Except Fault (List Record) :=
  match sorter.sort (compare keys) rs with
  | some out => .ok out
  | none => .error .inconsistentOrder

def read (v : Value) : Except ConfigError (List SortKey) := do
  let keys ← match v with
    | .array items => items.mapM SortKey.read
    | v => do pure [← SortKey.read v]
  if keys.isEmpty then throw (.noEntries "sort" "key") else return keys

end Sorting

end Reshape
