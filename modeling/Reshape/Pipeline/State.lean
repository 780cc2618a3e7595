/-!
# The states of a run

A run is idle, works on its steps one after another, and ends completed or failed. It enters the
steps in order from the first, and an ended run never goes on.

* `RunState.advance`, `RunState.complete`, `RunState.fail`: the transitions, with the ones that are
  refused.
-/

namespace Reshape

inductive RunState where
  | idle
  | running (step : Nat)
  | completed
  | failed (step : Nat) (operator : String)
deriving DecidableEq, Repr

namespace RunState

def display : RunState → String
  | idle => "idle"
  | running step => "running(" ++ toString step ++ ")"
  | completed => "completed"
  | failed step operator => "failed(" ++ toString step ++ ", " ++ operator ++ ")"

def isTerminal : RunState → Bool
  | idle => false
  | running _ => false
  | completed => true
  | failed _ _ => true

/-- The step that a run has to enter next, if it goes on. -/
def next? : RunState → Option Nat
  | idle => some 0
  | running step => some (step + 1)
  | completed => none
  | failed _ _ => none

end RunState

inductive TransitionError where
  | wrongStep (current : RunState) (step : Nat)
  | finished (current : RunState)
deriving DecidableEq, Repr

def TransitionError.message : TransitionError → String
  | wrongStep current step =>
    "illegal transition " ++ current.display ++ " -> running(" ++ toString step ++ ")"
  | finished current => "run already finished: " ++ current.display

namespace RunState

def advance (s : RunState) (step : Nat) : Except TransitionError RunState :=
  if s.next? = some step then .ok (running step) else .error (.wrongStep s step)

def complete (s : RunState) : Except TransitionError RunState :=
  if s.isTerminal then .error (.finished s) else .ok completed

def fail (s : RunState) (step : Nat) (operator : String) : Except TransitionError RunState :=
  if s.isTerminal then .error (.finished s) else .ok (failed step operator)

end RunState

end Reshape
