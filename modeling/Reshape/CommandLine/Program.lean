import Reshape.CommandLine.Help
import Reshape.CommandLine.Host
import Reshape.Json.Reader
import Reshape.Pipeline.Manifest
import Reshape.Text.Quoted

/-!
# The program

The commands: to run a pipeline on a JSON input, to validate a pipeline, and to explain its steps. The
program ends with 0 when all went well, with 1 when it failed, and with 2 when its arguments are not
well formed.

* `program`: the program on any host.
-/

namespace Reshape.CommandLine

/-! ## Settings of the environment -/

/-- A natural number of 64 bits in decimal digits; a plus sign may stand in front. -/
def countIn? (text : String) : Option Nat :=
  let ds := match text.toList with
    | '+' :: rest => rest
    | ds => ds
  if ds.isEmpty ∨ ¬ ds.all Char.isDigit then none
  else
    let n := Decimal.ofDigits ds
    if n < 0x10000000000000000 then some n else none

/-- The texts of the environment variables for the settings. -/
structure Environment where
  listSeparator : Option String := none
  flattenSeparator : Option String := none
  dateFormat : Option String := none
  maxSteps : Option String := none

/-- The settings that the environment overrides. Only the list separator may be empty, and a number of
steps that is none is ignored. -/
def Environment.overrides (e : Environment) : Overrides where
  listSeparator := e.listSeparator
  flattenSeparator := e.flattenSeparator.filter (!·.isEmpty)
  dateFormat := e.dateFormat.filter (!·.isEmpty)
  maxSteps := e.maxSteps.bind countIn?

def Environment.settings (e : Environment) : Settings :=
  e.overrides.applyTo {}

/-! ## Failures -/

inductive Failure where
  | file (cause : FileError)
  | pipeline (cause : PipelineError)
  | notJson
  | run (cause : RunError)
  | clock

def inputMessage (e : InputError) : String :=
  "invalid input collection: " ++ e.message

def runMessage : RunError → String
  | .input cause => inputMessage cause
  | .fault step operator cause =>
    "step " ++ toString step ++ " (" ++ operator.name ++ "): " ++ cause.message
  | .transition cause => cause.message

namespace Failure

def message : Failure → String
  | file cause => cause.message
  | pipeline cause => cause.message
  | notJson => "the input is not well-formed JSON"
  | run cause => runMessage cause
  | clock => "the clock is out of range"

/-- A fault of a step ends the program with a code of its own. -/
def exitCode : Failure → UInt32
  | run (.fault _ _ _) => 101
  | run (.transition _) => 101
  | _ => 1

end Failure

section Commands

variable {m : Type → Type} [Monad m] [Host m]

/-- A part of a command, which may fail. -/
abbrev Action (m : Type → Type) := ExceptT Failure m

def Action.ofFile {α : Type} (x : m (Except FileError α)) : Action m α :=
  ExceptT.mk do
    return (← x).mapError .file

/-- A part that cannot fail. -/
def Action.ofHost {α : Type} (x : m α) : Action m α :=
  ExceptT.lift x

def environment : m Environment := do
  return {
    listSeparator := ← Host.getVariable "RECAST_LIST_SEPARATOR"
    flattenSeparator := ← Host.getVariable "RECAST_FLATTEN_SEPARATOR"
    dateFormat := ← Host.getVariable "RECAST_DATE_FORMAT"
    maxSteps := ← Host.getVariable "RECAST_MAX_STEPS" }

def baseSettings : m Settings := do
  return (← environment).settings

def loadPipeline (base : Settings) (path : String) : Action m Pipeline := do
  let text ← Action.ofFile (Host.readFile path)
  match Pipeline.read base text with
  | .ok p => return p
  | .error e => throw (.pipeline e)

/-! ## Running -/

def readInput (path : Option String) : Action m Value := do
  let text ← Action.ofFile (match path with
    | some path => Host.readFile path
    | none => Host.readInput)
  match Json.read? text with
  | some v => return v
  | none => throw .notJson

/-- The options win over the settings of the document. -/
def RunOptions.override (o : RunOptions) (p : Pipeline) : Pipeline :=
  { p with overrides := { p.overrides with
      listSeparator := o.listSeparator.or p.overrides.listSeparator
      dateFormat := o.dateFormat.or p.overrides.dateFormat } }

def writeOutput (o : RunOptions) (out : Value) : Action m Unit := do
  let text := (if o.pretty then Json.pretty out else Json.compact out) ++ "\n"
  match o.output with
  | some path => Action.ofFile (Host.writeFile path text)
  | none => .ofHost (Host.print text)

/-- The manifest with the name of the run in front and its times at the end. -/
def manifestText (id : String) (started finished : Int) (m : Manifest) : String :=
  let fields := match m.toValue with
    | .object fields => fields
    | _ => []
  Json.pretty (.object ([("id", .string id)] ++ fields
    ++ [("started_ms", .int started), ("finished_ms", .int finished)]))

def runCommand (o : RunOptions) : Action m Unit := do
  let base ← Action.ofHost baseSettings
  let p ← loadPipeline base o.pipeline
  let p := o.override p
  let input ← readInput o.input
  let started ← Action.ofHost Host.now
  match DateTime.ofMillis? started with
  | none => throw .clock
  | some now =>
    let run := p.run base now .checked input
    match run.output with
    | .error e => throw (.run e)
    | .ok out =>
      writeOutput o out.toValue
      match o.manifest with
      | none => return ()
      | some path =>
        let id ← Action.ofHost Host.newId
        let finished ← Action.ofHost Host.now
        let text := manifestText id started finished (.ofRun p input run out)
        Action.ofFile (Host.writeFile path text)

/-! ## Validating and explaining -/

def validateCommand (path : String) : Action m Unit := do
  let base ← Action.ofHost baseSettings
  let p ← loadPipeline base path
  .ofHost <| Host.print ("✓ Pipeline is valid (" ++ toString p.steps.length ++ " steps)\n")

def explanation (base : Settings) (p : Pipeline) : List String :=
  let s := p.settings base
  ["Pipeline", "========", "Fingerprint: " ++ p.fingerprint.hex,
    "List separator: " ++ Text.quoted s.listSeparator,
    "Flatten separator: " ++ Text.quoted s.flattenSeparator,
    "Date format: " ++ s.dateFormat, ""]
    ++ (if p.steps.isEmpty then ["(no steps; input is returned unchanged)"] else [])
    ++ p.describe

def explainCommand (path : String) : Action m Unit := do
  let base ← Action.ofHost baseSettings
  let p ← loadPipeline base path
  .ofHost <| Host.print (String.join ((explanation base p).map (· ++ "\n")))

/-! ## The program -/

/-- The exit code of a command. A failure is reported behind a word that says what failed. -/
def finish (word : String) (command : Action m Unit) : m UInt32 := do
  match ← command.run with
  | .ok () => return 0
  | .error e =>
    Host.complain (word ++ ": " ++ e.message ++ "\n")
    return e.exitCode

def serve : Request → m UInt32
  | .run o => finish "Error" (runCommand o)
  | .validate path => finish "Validation failed" (validateCommand path)
  | .explain path => finish "Error" (explainCommand path)
  | .help topic => do
    Host.print (helpText topic)
    return 0

def program (args : List String) : m UInt32 := do
  match Request.read args with
  | some request => serve request
  | none =>
    Host.complain ("error: the arguments are not well formed\n\nUsage: " ++ programName
      ++ " [OPTIONS] <COMMAND>\n")
    return 2

end Commands

end Reshape.CommandLine
