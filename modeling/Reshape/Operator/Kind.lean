/-!
# The kinds of operators

* `Kind.ofName?`: the operator that a step names.
* `Kind.requiresSequence`: the operators that change which records there are or their order; they
  leave a single record alone.
-/

namespace Reshape

inductive Kind where
  | filter
  | select
  | exclude
  | rename
  | sort
  | format
  | limit
  | skip
  | reverse
  | distinct
  | flatten
  | compute
  | concat
  | split
  | lookup
  | group
  | summarize
  | truncate
  | pad
  | mask
  | unwind
  | addIndex
  | coalesce
  | choice
  | set
deriving DecidableEq, Repr

namespace Kind

def all : List Kind :=
  [filter, select, exclude, rename, sort, format, limit, skip, reverse, distinct, flatten, compute,
    concat, split, lookup, group, summarize, truncate, pad, mask, unwind, addIndex, coalesce, choice,
    set]

def name : Kind → String
  | filter => "filter"
  | select => "select"
  | exclude => "exclude"
  | rename => "rename"
  | sort => "sort"
  | format => "format"
  | limit => "limit"
  | skip => "skip"
  | reverse => "reverse"
  | distinct => "distinct"
  | flatten => "flatten"
  | compute => "compute"
  | concat => "concat"
  | split => "split"
  | lookup => "lookup"
  | group => "group"
  | summarize => "summarize"
  | truncate => "truncate"
  | pad => "pad"
  | mask => "mask"
  | unwind => "unwind"
  | addIndex => "addIndex"
  | coalesce => "coalesce"
  | choice => "if"
  | set => "set"

/-- `add_index` is another spelling of `addIndex`. -/
def ofName? (name : String) : Option Kind :=
  if name = "add_index" then some addIndex else all.find? fun k => k.name == name

def requiresSequence : Kind → Bool
  | filter => true
  | sort => true
  | limit => true
  | skip => true
  | reverse => true
  | distinct => true
  | group => true
  | summarize => true
  | unwind => true
  | addIndex => true
  | _ => false

theorem ofName?_name (k : Kind) : ofName? k.name = some k := by
  cases k <;> decide

end Kind

end Reshape
