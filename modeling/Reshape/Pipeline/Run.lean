import Reshape.Diagnostic
import Reshape.Operator.Action
import Reshape.Pipeline.Basic
import Reshape.Pipeline.State

/-!
# Running a pipeline

The steps are applied to a collection one after another. A run keeps the states that it has been in,
the diagnostics that the steps raised and the numbers of records around each step.

* `Pipeline.run`: the run of a pipeline on a value.
* `Run.output`: the collection that a run ended with, or why it has none.
-/

namespace Reshape

structure StepStats where
  index : Nat
  operator : Kind
  recordsIn : Nat
  recordsOut : Nat
deriving DecidableEq, Repr

inductive RunError where
  | input (cause : InputError)
  | fault (step : Nat) (operator : Kind) (cause : Fault)
  | transition (cause : TransitionError)
deriving DecidableEq, Repr

structure Run where
  /-- The current state, and the earlier ones with the latest first. -/
  state : RunState := .idle
  past : List RunState := []
  diagnostics : List Diagnostic := []
  steps : List StepStats := []
  output : Except RunError Collection

namespace Run

def start (input : Value) : Run where
  output := (Collection.ofValue input).mapError .input

def enter (r : Run) (state : RunState) : Run :=
  { r with state, past := r.state :: r.past }

def stop (r : Run) (e : RunError) : Run :=
  { r with output := .error e }

def applyStep (context : Context) (s : Step) (r : Run) (c : Collection) : Run :=
  match r.state.advance s.index with
  | .error e => r.stop (.transition e)
  | .ok state =>
    let r := r.enter state
    match s.operator.apply context c with
    | .error fault => r.stop (.fault s.index s.kind fault)
    | .ok (next, warnings) =>
      { r with
        diagnostics := r.diagnostics
          ++ warnings.map fun message => ⟨.warn, some (s.index, s.kind.name), message⟩
        steps := r.steps ++ [⟨s.index, s.kind, c.length, next.length⟩]
        output := .ok next }

def step (context : Context) (s : Step) (r : Run) : Run :=
  match r.output with
  | .ok c => r.applyStep context s c
  | .error _ => r

def runSteps (context : Context) : List Step → Run → Run
  | [], r => r
  | s :: rest, r => runSteps context rest (r.step context s)

def finish (r : Run) : Run :=
  match r.output, r.state.complete with
  | .ok _, .ok state => r.enter state
  | .ok _, .error e => r.stop (.transition e)
  | .error _, _ => r

end Run

namespace Pipeline

def run (base : Settings) (now : DateTime) (sorter : Sorter) (p : Pipeline) (input : Value) : Run :=
  let context : Context := ⟨p.settings base, now, sorter⟩
  (Run.runSteps context p.steps (.start input)).finish

end Pipeline

end Reshape
