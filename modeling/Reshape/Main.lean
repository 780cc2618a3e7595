import Reshape.CommandLine.Program
import Std.Time.DateTime.Timestamp

/-!
# The program on the command line
-/

namespace Reshape.CommandLine

def fileError : IO.Error → FileError
  | .noFileOrDirectory _ _ _ => .notFound
  | e => .other (toString e)

def attempt {α : Type} (action : IO α) : IO (Except FileError α) := do
  match ← action.toBaseIO with
  | .ok a => return .ok a
  | .error e => return .error (fileError e)

def standardInput : IO String := do
  (← IO.getStdin).readToEnd

def hexText (bytes : List UInt8) : String :=
  (Digest.mk bytes).hex

/-- A random identifier of version 4, written in groups. -/
def randomId : IO String := do
  let bytes := (← IO.getRandomBytes 16).toList
  let marked := bytes.mapIdx fun i b =>
    if i = 6 then b % 16 + 0x40 else if i = 8 then b % 64 + 0x80 else b
  let group (first count : Nat) : String := hexText ((marked.drop first).take count)
  return "-".intercalate [group 0 4, group 4 2, group 6 2, group 8 2, group 10 6]

instance : Host IO where
  readFile path := attempt (IO.FS.readFile path)
  writeFile path text := attempt (IO.FS.writeFile path text)
  readInput := attempt standardInput
  getVariable name := IO.getEnv name
  now := do return (← Std.Time.Timestamp.now).toMillisecondsSinceUnixEpoch.val
  newId := randomId
  print text := do (← IO.getStdout).putStr text
  complain text := do (← IO.getStderr).putStr text

end Reshape.CommandLine

def main (args : List String) : IO UInt32 :=
  Reshape.CommandLine.program args
