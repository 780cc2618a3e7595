import Reshape.Digest.Encoding
import Reshape.Operator.Basic
import Reshape.Pipeline.Document

/-!
# Pipelines

A pipeline is a document whose steps have become operators. It keeps the configurations as they were
written, for its fingerprint and its description.

* `Pipeline.compile`: the pipeline of a document.
* `Pipeline.fingerprint`: the digest of its steps.
-/

namespace Reshape

structure Step where
  /-- The position in the list of steps. -/
  index : Nat
  operator : Operator
  config : Value

structure Pipeline where
  overrides : Overrides := {}
  steps : List Step := []

inductive PipelineError where
  | config (step : Nat) (operator : Kind) (cause : ConfigError)
  | unknownOperator (step : Nat) (name : String)
  | document (cause : DocumentError)

def PipelineError.message : PipelineError → String
  | config step operator cause =>
    "step " ++ toString step ++ " (" ++ operator.name ++ "): invalid configuration: "
      ++ cause.message
  | unknownOperator step name =>
    "step " ++ toString step ++ ": unknown operator '" ++ name ++ "'"
  | document cause => "invalid pipeline document: " ++ cause.message

namespace Step

def kind (s : Step) : Kind :=
  s.operator.kind

def compile (entry : StepEntry) : Except PipelineError Step :=
  match Kind.ofName? entry.operator with
  | none => .error (.unknownOperator entry.index entry.operator)
  | some kind =>
    match Operator.read kind entry.config with
    | .ok operator => .ok ⟨entry.index, operator, entry.config⟩
    | .error cause => .error (.config entry.index kind cause)

def toValue (s : Step) : Value :=
  .object [(s.kind.name, s.config)]

/-- A number in at least three places. -/
def alignedNumber (n : Nat) : String :=
  let ds := toString n
  String.ofList (List.replicate (3 - ds.length) ' ') ++ ds

def describe (s : Step) : String :=
  alignedNumber s.index ++ ". " ++ s.kind.name
    ++ (if s.kind.requiresSequence then " [sequence] " else " ") ++ Json.compact s.config

end Step

namespace Pipeline

/-- The steps of a document; the first error wins. -/
def compileSteps : List StepEntry → Except PipelineError (List Step)
  | [] => .ok []
  | entry :: rest => do return (← Step.compile entry) :: (← compileSteps rest)

/-- The number of steps is limited by the settings, or by the document itself. -/
def compile (base : Settings) (d : Document) : Except PipelineError Pipeline := do
  let limit := d.overrides.maxSteps.getD base.maxSteps
  if limit < d.steps.length then throw (.document (.tooLong d.steps.length limit))
  return ⟨d.overrides, ← compileSteps d.steps⟩

def ofValue (base : Settings) (v : Value) : Except PipelineError Pipeline := do
  compile base (← (Document.ofValue v).mapError .document)

def read (base : Settings) (text : String) : Except PipelineError Pipeline := do
  compile base (← (Document.read text).mapError .document)

def settings (p : Pipeline) (base : Settings) : Settings :=
  p.overrides.applyTo base

def toValue (p : Pipeline) : Value :=
  .array (p.steps.map Step.toValue)

def fingerprint (p : Pipeline) : Digest :=
  Digest.hashValue p.toValue

def describe (p : Pipeline) : List String :=
  p.steps.map Step.describe

end Pipeline

end Reshape
