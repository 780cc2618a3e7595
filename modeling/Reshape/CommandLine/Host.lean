import Reshape.Text.Segments

/-!
# What the program asks of its surroundings

A host reads and writes files, knows the environment and the clock, and shows texts. `Machine` is a
host in memory: a directory of files, with all that the program shows.
-/

namespace Reshape.CommandLine

inductive FileError where
  | notFound
  | isDirectory
  | notDirectory
  | other (description : String)
deriving DecidableEq, Repr

def FileError.message : FileError → String
  | notFound => "No such file or directory (os error 2)"
  | isDirectory => "Is a directory (os error 21)"
  | notDirectory => "Not a directory (os error 20)"
  | other description => description

class Host (m : Type → Type) where
  readFile : String → m (Except FileError String)
  writeFile : String → String → m (Except FileError Unit)
  readInput : m (Except FileError String)
  getVariable : String → m (Option String)
  /-- Milliseconds since the start of 1970. -/
  now : m Int
  /-- A name for a run that no other has. -/
  newId : m String
  print : String → m Unit
  complain : String → m Unit

/-- A path as the names on it. The current directory is left out. -/
abbrev PathNames := List String

def pathNames (path : String) : PathNames :=
  let names := (Text.splitOn '/' path.toList).map String.ofList
  match names with
  | "" :: rest => "/" :: rest.filter fun n => n ≠ "" ∧ n ≠ "."
  | names => names.filter fun n => n ≠ "" ∧ n ≠ "."

structure Machine where
  files : List (PathNames × String) := []
  input : String := ""
  environment : List (String × String) := []
  now : Int := 0
  id : String := ""
  printed : String := ""
  complained : String := ""

namespace Machine

/-- The current directory, and every directory on the way to a file. -/
def isDirectory (s : Machine) (p : PathNames) : Bool :=
  p.isEmpty || s.files.any fun file => p.isPrefixOf file.1 && p.length < file.1.length

/-- A file stands where the path has a directory. -/
def passesFile (s : Machine) (p : PathNames) : Bool :=
  s.files.any fun file => file.1.isPrefixOf p && file.1.length < p.length

def lookupError (s : Machine) (p : PathNames) : FileError :=
  if s.isDirectory p then .isDirectory
  else if s.passesFile p then .notDirectory
  else .notFound

def read (s : Machine) (path : String) : Except FileError String :=
  let p := pathNames path
  match s.files.lookup p with
  | some text => .ok text
  | none => .error (s.lookupError p)

def put (p : PathNames) (text : String) :
    List (PathNames × String) → List (PathNames × String)
  | [] => [(p, text)]
  | (q, old) :: rest => if q = p then (p, text) :: rest else (q, old) :: put p text rest

/-- A file is written into a directory that is there. -/
def write (s : Machine) (path text : String) : Except FileError Machine :=
  let p := pathNames path
  if !s.isDirectory p && s.isDirectory p.dropLast then
    .ok { s with files := put p text s.files }
  else .error (s.lookupError p)

instance : Host (StateM Machine) where
  readFile path := return (← get).read path
  writeFile path text := do
    match (← get).write path text with
    | .ok s =>
      set s
      return .ok ()
    | .error e => return .error e
  readInput := return .ok (← get).input
  getVariable name := return (← get).environment.lookup name
  now := return (← get).now
  newId := return (← get).id
  print text := modify fun s => { s with printed := s.printed ++ text }
  complain text := modify fun s => { s with complained := s.complained ++ text }

end Machine

end Reshape.CommandLine
