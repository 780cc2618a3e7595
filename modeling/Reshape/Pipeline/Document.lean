import Reshape.Settings
import Reshape.Text.Blank
import Reshape.Yaml.Reader

/-!
# Pipeline documents

A document is a mapping with a block of settings under `config` and a list of steps under
`transforms`, both of which may be missing. A step is a mapping from the name of an operator to its
configuration. Nothing else in a document has a meaning.

* `Document.ofValue`: the document in a value.
* `Document.read`: the document in a YAML text; JSON is YAML too.
-/

namespace Reshape

/-- A step as it is written. -/
structure StepEntry where
  /-- The position in the list of steps. -/
  index : Nat
  operator : String
  config : Value

structure Document where
  overrides : Overrides := {}
  steps : List StepEntry := []

inductive DocumentError where
  | notYaml
  | notMapping (kind : String)
  | settings (cause : SettingsError)
  | notList (kind : String)
  | stepKeys (index keys : Nat)
  | notStep (index : Nat) (kind : String)
  | tooLong (steps limit : Nat)

def DocumentError.message : DocumentError → String
  | notYaml => "not well-formed YAML"
  | notMapping kind => "expected a mapping with a 'transforms' list, got " ++ kind
  | settings cause => "config: " ++ cause.message
  | notList kind => "'transforms' must be a list, got " ++ kind
  | stepKeys index keys =>
    "step " ++ toString index ++ " must name exactly one operator, found " ++ toString keys
      ++ " keys"
  | notStep index kind =>
    "step " ++ toString index ++ " must be a single-key mapping, got " ++ kind
  | tooLong steps limit =>
    "pipeline declares " ++ toString steps ++ " steps; the limit is " ++ toString limit

namespace Document

def readStep (index : Nat) : Value → Except DocumentError StepEntry
  | .object [(operator, config)] => .ok ⟨index, operator, config⟩
  | .object fields => .error (.stepKeys index fields.length)
  | v => .error (.notStep index v.kind)

/-- The steps of a list, the first of them at position `index`. -/
def readSteps (index : Nat) : List Value → Except DocumentError (List StepEntry)
  | [] => .ok []
  | v :: rest => do return (← readStep index v) :: (← readSteps (index + 1) rest)

def readOverrides : Option Value → Except DocumentError Overrides
  | none => .ok {}
  | some .null => .ok {}
  | some v => (Overrides.ofValue v).mapError .settings

def readTransforms : Option Value → Except DocumentError (List StepEntry)
  | none => .ok []
  | some .null => .ok []
  | some (.array items) => readSteps 0 items
  | some v => .error (.notList v.kind)

/-- Null is the document of an empty text. -/
def ofValue : Value → Except DocumentError Document
  | .null => .ok {}
  | .object fields => do
    let overrides ← readOverrides (Record.get? fields "config")
    let steps ← readTransforms (Record.get? fields "transforms")
    return ⟨overrides, steps⟩
  | v => .error (.notMapping v.kind)

/-- A text of white space is an empty document. -/
def read (text : String) : Except DocumentError Document :=
  if (Text.trim text).isEmpty then .ok {}
  else
    match Yaml.read? text with
    | some v => ofValue v
    | none => .error .notYaml

end Document

end Reshape
