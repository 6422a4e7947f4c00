import VoiceControl.CommandLine.Request

/-!
# Help on the command line

What the program and its subcommands say about themselves.
-/

namespace VoiceControl

namespace CommandLine

/-- The name of the program. -/
def programName : String := "voxgrid"

/-- The version of the program. -/
def programVersion : String := "0.1.0"

namespace Help

/-- What an option is for. -/
def purpose (o : Rule) : String :=
  match o.switch with
  | .version => "output the version number"
  | .help => "display help for command"
  | .verbose => "Log to the terminal instead of the log file"
  | .logLevel => "Log level (trace, debug, info, warn, error); defaults to the config"
  | .directory => "Project directory (default: \".\")"
  | .json => "Output as JSON"
  | .typeUnmatched => "Type utterances that match no command"
  | .init => "Write a default global config if none exists"

/-- How a subcommand is called. -/
def synopsis : Subcommand → String
  | .run => "run [options] <utterances...>"
  | c => c.label ++ " [options]"

/-- Terms with their explanations, in two columns. -/
def table (rows : List (String × String)) : List String :=
  let width := (rows.map (·.1.length)).foldl max 0
  rows.map fun (term, meaning) =>
    "  " ++ term ++ String.ofList (List.replicate (width - term.length + 2) ' ') ++ meaning

/-- The lines on options. -/
def optionLines (rules : List Rule) : List String :=
  "Options:" :: table ((rules ++ [helpRule]).map fun o => (o.display, purpose o))

/-- The help on a subcommand, or on the program. -/
def text (topic : Option Subcommand) : String :=
  "\n".intercalate (match topic with
    | some c =>
        ["Usage: " ++ programName ++ " " ++ synopsis c, "", c.summary, ""] ++ optionLines c.rules
    | none =>
        ["Usage: " ++ programName ++ " [options] [command]", "",
          "voxgrid: voice command dispatch with grid screen addressing", ""] ++
        optionLines commonRules ++ ["", "Commands:"] ++
        table (Subcommand.all.map (fun c => (synopsis c, c.summary)) ++
          [("help [command]", "display help for command")])) ++ "\n"

end Help

end CommandLine

end VoiceControl
