import VoiceControl.CommandLine.Options
import VoiceControl.CommandLine.Suggestion

/-!
# Requests on the command line

The subcommands with their options, and how arguments become a request. `Request.ofArguments` gives
what is asked for, or the one reason why the arguments cannot be used; its message names near
misses.
-/

namespace VoiceControl

namespace CommandLine

/-- The subcommands. -/
inductive Subcommand where
  | run
  | commands
  | config
  deriving Repr, DecidableEq

namespace Subcommand

/-- The name of a subcommand. -/
def label : Subcommand → String
  | .run => "run"
  | .commands => "commands"
  | .config => "config"

/-- All subcommands. -/
def all : List Subcommand := [.run, .commands, .config]

/-- The subcommand with a name. -/
def named? (s : List Char) : Option Subcommand := all.find? fun c => c.label.toList = s

/-- The options of a subcommand. -/
def rules : Subcommand → List Rule
  | .run => [directoryRule, ⟨.typeUnmatched, none, "type-unmatched", none⟩, jsonRule]
  | .commands => [directoryRule, jsonRule]
  | .config => [directoryRule, jsonRule, ⟨.init, none, "init", none⟩]

/-- What a subcommand does, in a line. -/
def summary : Subcommand → String
  | .run => "Dispatch utterances and print the resulting input actions"
  | .commands => "List available voice commands"
  | .config => "Show the resolved configuration"

end Subcommand

/-- Why arguments cannot be used. -/
inductive UsageError where
  | unknownOption (option : String) (near : List String)
  | unknownCommand (name : String) (near : List String)
  | valueMissing (option : Rule)
  | argumentMissing (name : String)

/-- What a user is told about arguments that cannot be used. -/
def UsageError.message : UsageError → String
  | .unknownOption option near =>
      "error: unknown option '" ++ option ++ "'" ++ Suggestion.remark near
  | .unknownCommand name near =>
      "error: unknown command '" ++ name ++ "'" ++ Suggestion.remark near
  | .valueMissing o => "error: option '" ++ o.display ++ "' argument missing"
  | .argumentMissing name => "error: missing required argument '" ++ name ++ "'"

/-- The option that asks for help. -/
def helpRule : Rule := ⟨.help, some 'h', "help", none⟩

/-- An option that is not known where only those of `rules` are. Only a word, not a letter, has
near misses. -/
def unknownOption (option : List Char) (rules : List Rule) : UsageError :=
  let word := String.ofList option
  .unknownOption word
    (if option.take 2 = ['-', '-'] then Suggestion.near word (rules.map (·.long)) else [])

/-- What to do, with the options it depends on. -/
inductive Job where
  | run (directory : String) (typeUnmatched json : Bool) (utterances : List String)
  | commands (directory : String) (json : Bool)
  | config (directory : String) (json init : Bool)
  deriving Repr, DecidableEq

/-- A job with the options that stand for all jobs. -/
structure Request where
  job : Job
  verbose : Bool
  /-- The log level that is asked for instead of the configured one. -/
  logLevel : Option String
  deriving Repr, DecidableEq

/-- What arguments ask for. -/
inductive Demand where
  | job (request : Request)
  | version
  /-- Help on a subcommand or on all; nothing else could be done if `forced`. -/
  | help (topic : Option Subcommand) (forced : Bool)
  | refused (error : UsageError)

namespace Request

/-- The last value that a switch was given. -/
def valueOf? (settings : List (Switch × String)) (s : Switch) : Option String :=
  (settings.reverse.find? fun (t, _) => t = s).map (·.2)

/-- The job of a subcommand with its settings and operands. -/
def jobOf (settings : List (Switch × String)) (operands : List String) : Subcommand → Job :=
  let has (s : Switch) : Bool := (valueOf? settings s).isSome
  let directory := (valueOf? settings .directory).getD "."
  fun
  | .run => .run directory (has .typeUnmatched) (has .json) operands
  | .commands => .commands directory (has .json)
  | .config => .config directory (has .json) (has .init)

/-- What a halt of the reading asks for. -/
def ofHalt : Halt → Demand
  | .version => .version
  | .valueMissing o => .refused (.valueMissing o)

/-- What the arguments of a subcommand ask for: the operands that precede all options, and what
follows from the first unknown option on. -/
def ofSubcommand (common : Reading) (operands : List (List Char)) (c : Subcommand) : Demand :=
  match scan c.rules false common.unknown with
  | .error halt => ofHalt halt
  | .ok own =>
      let operands := (operands ++ own.operands).map String.ofList
      if own.unknown.any helpRule.isSpelled then .help (some c) false
      else
        match own.unknown with
        | option :: _ => .refused (unknownOption option (c.rules ++ helpRule :: commonRules))
        | [] =>
            if c = .run ∧ operands = [] then .refused (.argumentMissing "utterances")
            else .job {
              job := jobOf own.settings operands c
              verbose := (valueOf? common.settings .verbose).isSome
              logLevel := valueOf? common.settings .logLevel }

/-- What arguments ask for. -/
def ofArguments (arguments : List String) : Demand :=
  match scan commonRules false (arguments.map String.toList) with
  | .error halt => ofHalt halt
  | .ok common =>
      match common.operands, common.unknown with
      | name :: operands, unknown =>
          match Subcommand.named? name with
          | some c => ofSubcommand common operands c
          | none =>
              if name = "help".toList then
                match operands with
                | [] => .help none false
                | topic :: _ =>
                    let topic := Subcommand.named? topic
                    .help topic topic.isNone
              else if unknown.any helpRule.isSpelled then .help none false
              else
                let name := String.ofList name
                .refused (.unknownCommand name
                  (Suggestion.near name (Subcommand.all.map (·.label) ++ ["help"])))
      | [], [] => .help none true
      | [], option :: rest =>
          if (option :: rest).any helpRule.isSpelled then .help none false
          else .refused (unknownOption option (commonRules ++ [helpRule]))

end Request

end CommandLine

end VoiceControl
