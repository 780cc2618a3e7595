/-!
# Diagnostics

What a run reports beside its output. A diagnostic that a step raises carries the step's position
and the operator's name.
-/

namespace Reshape

inductive Level where
  | info
  | warn
deriving DecidableEq, Repr

structure Diagnostic where
  level : Level
  place : Option (Nat × String)
  message : String
deriving DecidableEq, Repr

/-- The message with the place in front. -/
def Diagnostic.display (d : Diagnostic) : String :=
  match d.place with
  | some (step, operator) =>
    "[step " ++ toString step ++ " " ++ operator ++ "] " ++ d.message
  | none => d.message

end Reshape
