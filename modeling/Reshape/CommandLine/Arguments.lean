/-!
# Arguments of the program

The program has three commands, each with options that are written with a long name, and some of them
with a letter too. A value follows its option as the next argument, behind an equals sign, or directly
behind the letter. Letters of options without a value can be written together.

* `Request.read`: what the arguments ask for.
-/

namespace Reshape.CommandLine

inductive Command where
  | run
  | validate
  | explain
deriving DecidableEq, Repr

inductive OptionKind where
  /-- A path, which is not empty. -/
  | path
  | text
  | flag
  /-- A flag that may be repeated. -/
  | counter
deriving DecidableEq, Repr

structure OptionSpec where
  long : String
  short : Option Char := none
  kind : OptionKind
  help : String
deriving DecidableEq, Repr

namespace OptionSpec

def takesValue (o : OptionSpec) : Bool :=
  o.kind = .path || o.kind = .text

def verbose : OptionSpec :=
  ⟨"verbose", some 'v', .counter, "Increase log verbosity (-v info, -vv debug, -vvv trace)"⟩

def help? : OptionSpec :=
  ⟨"help", some 'h', .flag, "Print help"⟩

def pipeline (about : String) : OptionSpec :=
  ⟨"pipeline", some 'p', .path, about⟩

end OptionSpec

/-- The options in front of a command. -/
def programOptions : List OptionSpec :=
  [.verbose, .help?]

namespace Command

def all : List Command :=
  [run, validate, explain]

def name : Command → String
  | run => "run"
  | validate => "validate"
  | explain => "explain"

def about : Command → String
  | run => "Run a pipeline over a JSON input file"
  | validate => "Validate a pipeline document (every step is built, nothing runs)"
  | explain => "Show the compiled step list"

def options : Command → List OptionSpec
  | run => [
      .pipeline "Path to the pipeline document (YAML or JSON)",
      .verbose,
      ⟨"input", some 'i', .path, "Input JSON file; stdin when omitted"⟩,
      ⟨"output", some 'o', .path, "Output file; stdout when omitted"⟩,
      ⟨"pretty", none, .flag, "Pretty-print the output JSON"⟩,
      ⟨"manifest", none, .path, "Write the run manifest to this file"⟩,
      ⟨"list-separator", none, .text,
        "Separator for the \x60list\x60 aggregate (overrides config)"⟩,
      ⟨"date-format", none, .text,
        "Default \x60format\x60 date pattern (overrides config)"⟩,
      .help?]
  | validate => [.pipeline "Path to the pipeline document", .verbose, .help?]
  | explain => [.pipeline "Path to the pipeline document", .verbose, .help?]

def ofName? (name : String) : Option Command :=
  all.find? fun c => c.name == name

end Command

inductive Stop where
  | help
  | usage
deriving DecidableEq, Repr

/-- The options that have been given by their long names, with their values; a flag has an empty one. -/
abbrev Given := List (String × String)

namespace Given

/-- An option with a value; only a counter may come again. -/
def add (given : Given) (o : OptionSpec) (value : String) : Except Stop Given :=
  if o = .help? then .error .help
  else if o.kind ≠ .counter ∧ (given.lookup o.long).isSome then .error .usage
  else if o.kind = .path ∧ value.isEmpty then .error .usage
  else .ok (given ++ [(o.long, value)])

/-- The options of an argument that begins with one dash. The last may still want a value. -/
def addLetters (specs : List OptionSpec) (given : Given) :
    List Char → Except Stop (Given × Option OptionSpec)
  | [] => .ok (given, none)
  | letter :: rest =>
    match specs.find? fun o => o.short = some letter with
    | none => .error .usage
    | some o =>
      if o.takesValue then
        match rest with
        | [] => .ok (given, some o)
        | '=' :: value => do return (← given.add o (String.ofList value), none)
        | value => do return (← given.add o (String.ofList value), none)
      else do addLetters specs (← given.add o "") rest

/-- The option of an argument that begins with two dashes; it may still want a value. -/
def addLong (specs : List OptionSpec) (given : Given) (text : List Char) :
    Except Stop (Given × Option OptionSpec) :=
  let name := String.ofList (text.takeWhile (· ≠ '='))
  match specs.find? fun o => o.long = name with
  | none => .error .usage
  | some o =>
    match text.dropWhile (· ≠ '=') with
    | [] => if o.takesValue then .ok (given, some o) else do return (← given.add o "", none)
    | _ :: value =>
      if o.takesValue then do return (← given.add o (String.ofList value), none)
      else .error .usage

end Given

/-- An argument that is no option, or the value of one. -/
def isPlain (arg : String) : Bool :=
  match arg.toList with
  | '-' :: _ :: _ => false
  | _ => true

/-- The options up to the first argument that is none, with the arguments from there on. -/
def scan (specs : List OptionSpec) (given : Given) :
    List String → Except Stop (Given × List String)
  | [] => .ok (given, [])
  | arg :: rest =>
    if isPlain arg ∨ arg = "--" then .ok (given, arg :: rest)
    else do
      let found ← match arg.toList with
        | '-' :: '-' :: text => given.addLong specs text
        | _ :: letters => given.addLetters specs letters
        | [] => throw .usage
      match found, rest with
      | (given, none), rest => scan specs given rest
      | (given, some o), value :: rest =>
        if isPlain value then scan specs (← given.add o value) rest else throw .usage
      | (_, some _), [] => throw .usage

/-! ## Requests -/

structure RunOptions where
  pipeline : String
  /-- Without a path the input is read from standard input, and the output written to standard output. -/
  input : Option String := none
  output : Option String := none
  pretty : Bool := false
  manifest : Option String := none
  listSeparator : Option String := none
  dateFormat : Option String := none
deriving DecidableEq, Repr

inductive HelpTopic where
  | program
  | command (c : Command)
  | help
deriving DecidableEq, Repr

inductive Request where
  | run (options : RunOptions)
  | validate (pipeline : String)
  | explain (pipeline : String)
  | help (topic : HelpTopic)
deriving DecidableEq, Repr

namespace Request

/-- A command with its options; every command needs a pipeline. -/
def ofGiven (c : Command) (given : Given) : Option Request := do
  let pipeline ← given.lookup "pipeline"
  match c with
  | .run =>
    return run {
      pipeline
      input := given.lookup "input"
      output := given.lookup "output"
      pretty := (given.lookup "pretty").isSome
      manifest := given.lookup "manifest"
      listSeparator := given.lookup "list-separator"
      dateFormat := given.lookup "date-format" }
  | .validate => return validate pipeline
  | .explain => return explain pipeline

def readCommand (c : Command) (args : List String) : Option Request :=
  match scan c.options [] args with
  | .error .help => some (help (.command c))
  | .error .usage => none
  | .ok (given, rest) => if rest.isEmpty ∨ rest = ["--"] then ofGiven c given else none

def readTopic : List String → Option Request
  | [] => some (help .program)
  | ["help"] => some (help .help)
  | [name] => (Command.ofName? name).map fun c => help (.command c)
  | _ => none

def read (args : List String) : Option Request :=
  match scan programOptions [] args with
  | .error .help => some (help .program)
  | .error .usage => none
  | .ok (_, []) => none
  | .ok (_, name :: rest) =>
    if name = "help" then readTopic rest
    else (Command.ofName? name).bind fun c => readCommand c rest

end Request

end Reshape.CommandLine
