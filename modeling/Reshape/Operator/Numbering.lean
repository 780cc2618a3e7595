import Reshape.Operator.Argument
import Reshape.Operator.Context

/-!
# Numbering records

A counter field in front of each record. The counter is an integer of 64 bits, and a sequence that
would need a number after the largest of them is a fault.
-/

namespace Reshape

structure Counter where
  field : String := "_index"
  start : Int := 1
deriving DecidableEq, Repr

namespace Counter

/-- A record with its number in front, in place of a field of that name. -/
def numbered (c : Counter) (n : Int) (r : Record) : Record :=
  (c.field, .int n) :: r.erase c.field

def numberAll (c : Counter) (n : Int) : List Record → List Record
  | [] => []
  | r :: rest => c.numbered n r :: c.numberAll (n + 1) rest

/-- The number after the last one must be an integer of 64 bits too. -/
def apply (c : Counter) (rs : List Record) : Except Fault (List Record) :=
  if c.start + rs.length ≤ Argument.maxInteger then .ok (c.numberAll c.start rs)
  else .error .counterOverflow

def read : Value → Except ConfigError Counter
  | .null => .ok {}
  | .bool true => .ok {}
  | .object args => do
    let field ← Argument.optional args "field" ["name"] Argument.text
    let start ← Argument.optional args "start" [] Argument.integer
    return ⟨field.getD "_index", start.getD 1⟩
  | v@(.string field) => if field.isEmpty then .error (.notCounter v) else .ok { field }
  | v => .error (.notCounter v)

end Counter

end Reshape
