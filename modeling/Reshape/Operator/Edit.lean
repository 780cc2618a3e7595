import Reshape.Record.Path

/-!
# Edits

An operator that adds to a record or changes it in place is a list of edits, each of which writes
at most one field. All other fields keep their values and their order.

* `Edit.applyAll`: a record after a list of edits, with the warnings that they raised.
-/

namespace Reshape

/-- What an edit does: it may write a value, and it may warn. -/
structure Outcome where
  value : Option Value := none
  warning : Option String := none

namespace Outcome

def keep : Outcome := {}

def write (v : Value) : Outcome := { value := some v }

end Outcome

structure Edit where
  /-- The name of the field that is written. -/
  target : String
  /-- What is done, given the record before the first edit and the one that the earlier edits have
  left. -/
  outcome : (initial current : Record) → Outcome

namespace Edit

def apply (initial : Record) (state : Record × List String) (e : Edit) : Record × List String :=
  let o := e.outcome initial state.1
  let record := match o.value with
    | some v => state.1.insert e.target v
    | none => state.1
  (record, state.2 ++ o.warning.toList)

def applyAll (edits : List Edit) (r : Record) : Record × List String :=
  edits.foldl (apply r) (r, [])

end Edit

end Reshape
