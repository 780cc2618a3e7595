import Reshape.CommandLine.Arguments

/-!
# Help texts

The help of the program and of its commands: what it is about, how it is called, and a table of the
commands and options with their descriptions in one column.
-/

namespace Reshape.CommandLine

def programName : String := "recast"

def spaces (n : Nat) : String :=
  String.ofList (List.replicate n ' ')

/-- A line for each row; the second column begins two places behind the longest text of the first. -/
def table (indent : Nat) (rows : List (String × String)) : List String :=
  let width := (rows.map fun row => row.1.length).foldl max 0
  rows.map fun (left, right) => spaces indent ++ left ++ spaces (width - left.length + 2) ++ right

def valueName (long : String) : String :=
  String.ofList (long.toList.map fun c => if c = '-' then '_' else c.toUpper)

namespace OptionSpec

def usage (o : OptionSpec) : String :=
  "--" ++ o.long
    ++ (if o.takesValue then " <" ++ valueName o.long ++ ">"
      else if o.kind = .counter then "..." else "")

def letter (o : OptionSpec) : String :=
  match o.short with
  | some c => "-" ++ c.toString ++ ", "
  | none => spaces 4

end OptionSpec

def optionLines (specs : List OptionSpec) : List String :=
  "Options:" :: table 2 (specs.map fun o => (o.letter ++ o.usage, o.help))

def helpAbout : String :=
  "Print this message or the help of the given subcommand(s)"

def commandLines : List String :=
  "Commands:"
    :: table 2 (Command.all.map (fun c => (c.name, c.about)) ++ [("help", helpAbout)])

def helpLines : HelpTopic → List String
  | .program =>
    ["Declarative record-transform pipelines over JSON data", "",
      "Usage: " ++ programName ++ " [OPTIONS] <COMMAND>", ""]
      ++ commandLines ++ [""] ++ optionLines programOptions
  | .command c =>
    [c.about, "",
      "Usage: " ++ programName ++ " " ++ c.name ++ " [OPTIONS] --pipeline <PIPELINE>", ""]
      ++ optionLines c.options
  | .help =>
    [helpAbout, "", "Usage: " ++ programName ++ " help [COMMAND]...", "", "Arguments:"]
      ++ table 2 [("[COMMAND]...", "Print help for the subcommand(s)")]

def helpText (topic : HelpTopic) : String :=
  String.join ((helpLines topic).map (· ++ "\n"))

end Reshape.CommandLine
