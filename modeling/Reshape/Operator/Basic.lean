import Reshape.Operator.Assignment
import Reshape.Operator.Extraction
import Reshape.Operator.Formatting
import Reshape.Operator.Grouping
import Reshape.Operator.Kind
import Reshape.Operator.Masking
import Reshape.Operator.Nesting
import Reshape.Operator.Numbering
import Reshape.Operator.Projection
import Reshape.Operator.Sorting
import Reshape.Operator.TextShape

/-!
# Operators

An operator is a kind with the arguments that its configuration gives.

* `Operator.read`: the operator of a kind and a configuration.
-/

namespace Reshape

inductive Operator where
  | filter (condition : Condition)
  | select (paths : List String)
  | exclude (names : List String)
  | rename (renames : List (String × String))
  | sort (keys : List SortKey)
  | format (fields : List (String × FieldForm))
  | limit (count : Nat)
  | skip (count : Nat)
  | reverse
  | distinct (identity : Identity)
  /-- Without a separator of its own, a step takes the one of the settings. -/
  | flatten (separator : Option String)
  | compute (fields : List (String × Formula))
  | concat (c : Concat)
  | split (s : Split)
  | lookup (l : Lookup)
  | group (g : Grouping)
  | summarize (s : Summary)
  | truncate (fields : List (String × Truncation))
  | pad (fields : List (String × Padding))
  | mask (fields : List (String × Mask))
  | unwind (u : Unwinding)
  | addIndex (c : Counter)
  | coalesce (c : Coalesce)
  | choice (c : Choice)
  | set (fields : List (String × Assigned))

namespace Operator

def kind : Operator → Kind
  | filter _ => .filter
  | select _ => .select
  | exclude _ => .exclude
  | rename _ => .rename
  | sort _ => .sort
  | format _ => .format
  | limit _ => .limit
  | skip _ => .skip
  | reverse => .reverse
  | distinct _ => .distinct
  | flatten _ => .flatten
  | compute _ => .compute
  | concat _ => .concat
  | split _ => .split
  | lookup _ => .lookup
  | group _ => .group
  | summarize _ => .summarize
  | truncate _ => .truncate
  | pad _ => .pad
  | mask _ => .mask
  | unwind _ => .unwind
  | addIndex _ => .addIndex
  | coalesce _ => .coalesce
  | choice _ => .choice
  | set _ => .set

def read (k : Kind) (config : Value) : Except ConfigError Operator :=
  match k with
  | .filter => return filter (← Extraction.readFilter config)
  | .select => return select (← Projection.readSelect config)
  | .exclude => return exclude (← Projection.readExclude config)
  | .rename => return rename (← Projection.readRename config)
  | .sort => return sort (← Sorting.read config)
  | .format => return format (← FieldForm.readFields config)
  | .limit => return limit (← Extraction.readCount "limit" config)
  | .skip => return skip (← Extraction.readCount "skip" config)
  | .reverse => return reverse
  | .distinct => return distinct (← Identity.read config)
  | .flatten => return flatten (← Nesting.readFlatten config)
  | .compute => return compute (← Formula.readFields config)
  | .concat => return concat (← Concat.read config)
  | .split => return split (← Split.read config)
  | .lookup => return lookup (← Lookup.read config)
  | .group => return group (← Grouping.read config)
  | .summarize => return summarize (← Summary.read config)
  | .truncate => return truncate (← Truncation.readFields config)
  | .pad => return pad (← Padding.readFields config)
  | .mask => return mask (← Mask.readFields config)
  | .unwind => return unwind (← Unwinding.read config)
  | .addIndex => return addIndex (← Counter.read config)
  | .coalesce => return coalesce (← Coalesce.read config)
  | .choice => return choice (← Choice.read config)
  | .set => return set (← Assigned.readFields config)

end Operator

end Reshape
