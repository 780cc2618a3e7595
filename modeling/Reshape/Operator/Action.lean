import Reshape.Collection
import Reshape.Operator.Basic

/-!
# Applying operators

An operator acts on each record by itself or on a sequence as a whole. What acts on a sequence as a
whole leaves a single record alone and says so.

* `Operator.action`: what an operator does in a context.
* `Operator.apply`: the collection after it, with the warnings that it raised.
-/

namespace Reshape

inductive Action where
  | edits (edits : List Edit)
  | each (f : Record → Record)
  | whole (f : List Record → Except Fault (List Record))

namespace Action

/-- A warning about the record at a position. -/
def recordWarning (position : Nat) (warning : String) : String :=
  "record " ++ toString position ++ ": " ++ warning

/-- One record after an action on each, with its warnings. -/
def onRecord (f : Record → Record × List String) (position : Nat) (r : Record) :
    Record × List String :=
  let (out, warnings) := f r
  (out, warnings.map (recordWarning position))

/-- Every record of a collection changed by itself. -/
def onEach (f : Record → Record × List String) (c : Collection) : Collection × List String :=
  match c with
  | .single r =>
    let (out, warnings) := onRecord f 0 r
    (.single out, warnings)
  | .many rs =>
    let results := rs.mapIdx (onRecord f)
    (.many (results.map Prod.fst), results.flatMap Prod.snd)

def sequenceWarning (name : String) : String :=
  "'" ++ name ++ "' requires a sequence of records; single record passed through unchanged"

def apply (name : String) (a : Action) (c : Collection) :
    Except Fault (Collection × List String) :=
  match a with
  | edits es => .ok (onEach (Edit.applyAll es) c)
  | each f => .ok (onEach (fun r => (f r, [])) c)
  | whole f =>
    match c with
    | .single r => .ok (.single r, [sequenceWarning name])
    | .many rs => do return (.many (← f rs), [])

end Action

namespace Operator

def action (context : Context) : Operator → Action
  | filter condition => .whole fun rs => .ok (rs.filter condition.holds)
  | select paths => .each (Projection.select paths)
  | exclude names => .each (Projection.exclude names)
  | rename renames => .each (Projection.rename renames)
  | sort keys => .whole (Sorting.sort context.sorter keys)
  | format fields => .edits (fields.map (FieldForm.edit context.settings))
  | limit count => .whole fun rs => .ok (rs.take count)
  | skip count => .whole fun rs => .ok (rs.drop count)
  | reverse => .whole fun rs => .ok rs.reverse
  | distinct identity => .whole fun rs => .ok (identity.distinct rs)
  | flatten separator =>
    .each (Nesting.flatten (separator.getD context.settings.flattenSeparator))
  | compute fields => .edits (fields.map Formula.edit)
  | concat c => .edits [c.edit]
  | split s => .edits s.edits
  | lookup l => .edits [l.edit]
  | group g => .whole fun rs => .ok (g.apply context.settings.listSeparator rs)
  | summarize s => .whole fun rs => .ok (s.apply context.settings.listSeparator rs)
  | truncate fields => .edits (fields.map Truncation.edit)
  | pad fields => .edits (fields.map Padding.edit)
  | mask fields => .edits (fields.map Mask.edit)
  | unwind u => .whole fun rs => .ok (rs.flatMap u.rows)
  | addIndex c => .whole c.apply
  | coalesce c => .edits [c.edit]
  | choice c => .edits [c.edit]
  | set fields => .edits (fields.map (Assigned.edit context))

def apply (context : Context) (op : Operator) (c : Collection) :
    Except Fault (Collection × List String) :=
  (op.action context).apply op.kind.name c

end Operator

end Reshape
