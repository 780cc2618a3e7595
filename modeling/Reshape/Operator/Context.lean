import Reshape.Calendar.Date
import Reshape.Operator.Sorter
import Reshape.Settings

/-!
# What a step sees besides its records, and what can stop it
-/

namespace Reshape

structure Context where
  settings : Settings := {}
  /-- The moment of the run, in universal time. -/
  now : DateTime
  sorter : Sorter

/-- What can go wrong while an operator is applied. -/
inductive Fault where
  /-- A counter passes the largest integer. -/
  | counterOverflow
  /-- A sort gives up, as it may if the comparison is no total preorder of the records. -/
  | inconsistentOrder
deriving DecidableEq, Repr

def Fault.message : Fault → String
  | counterOverflow => "attempt to add with overflow"
  | inconsistentOrder =>
    "user-provided comparison function does not correctly implement a total order"

end Reshape
