import VoiceControl.CommandLine.Help
import VoiceControl.Config.Logging
import VoiceControl.Config.Manager
import VoiceControl.Data.Yaml.Printer
import VoiceControl.Overlay.Report
import VoiceControl.Session

/-!
# Carrying out requests of the command line

What a call of the program prints, the status it ends with and the files it leaves behind, as a
function of its arguments and surroundings.
-/

namespace VoiceControl

namespace CommandLine

/-- Where the program is called. -/
structure Surroundings where
  files : Files
  environment : Environment
  now : Moment
  /-- When files are written, as far as their modification times go. -/
  writtenAt : Number := 0
  /-- The directory of the user. -/
  home : String

/-- What a call comes to. -/
structure Printout where
  output : String := ""
  errors : String := ""
  status : Nat := 0
  files : Files

/-- What became of one utterance. -/
structure UtteranceReport where
  utterance : String
  outcome : Outcome
  actions : List Action
  overlay : Option OverlayKind

namespace UtteranceReport

/-- An outcome in brief. -/
def brief : Outcome → String
  | .ignored => "ignored"
  | .commandWord w => "command word: " ++ w.label
  | .command none => "command"
  | .command (some output) => "command → " ++ Text.quoted output
  | .typed text => "typed " ++ Text.quoted text
  | .unmatched _ => "no match"
  | .failed error => "error: " ++ error

/-- A report in lines. -/
def lines (r : UtteranceReport) : List String :=
  ("› " ++ r.utterance ++ "  [" ++ brief r.outcome ++ "]") ::
    r.actions.map (fun a => "    " ++ a.describe) ++
    match r.overlay with
    | some k => ["    overlay: " ++ k.label]
    | none => []

/-- A report as data. -/
def tree (r : UtteranceReport) : Tree :=
  .mapping [("utterance", .text r.utterance), ("outcome", r.outcome.tree),
    ("actions", .texts (r.actions.map (·.describe))),
    ("overlay", .orNull (fun k => .text k.label) r.overlay)]

/-- Says an utterance, draws what it puts up and reports on it. -/
def saying (utterance : String) : ExceptT Failure Session.Speak UtteranceReport := do
  let before := (← get).workspace.desktop.actions.length
  let outcome ← ExceptT.mk (Session.processText utterance)
  Session.flush
  let w := (← get).workspace
  return ⟨utterance, outcome, w.desktop.actions.drop before, w.overlays.current⟩

end UtteranceReport

/-- What is set over the configuration when unmatched utterances are to be typed. -/
def typingLayer : Entries Tree :=
  [("textProcessing", .mapping [("commandOnlyMode", .bool false)])]

/-- Lines of output. -/
def printed (lines : List String) : String := String.join (lines.map (· ++ "\n"))

namespace Surroundings

/-- The configuration of a project directory. -/
def manager (s : Surroundings) (directory : String) : ConfigManager where
  projectDirectory := s.files.absolute directory
  globalDirectory := Path.join s.home ".voxgrid"

/-- The settings of a project directory. -/
def settings (s : Surroundings) (directory : String) (overrides : Option (Entries Tree)) :
    Except Failure Settings := do
  let (settings, _) ← (s.manager directory).load s.files s.environment overrides
  return settings

/-- A session in a project directory. -/
def session (s : Surroundings) (settings : Settings) (hasSystem : Bool) : Session :=
  SessionSetup.start {
    settings, platform := "linux", files := s.files, environment := s.environment, now := s.now
    existing := none, hasSystem }

/-- Carries out a job; gives the output and the files that are left behind. -/
def perform (s : Surroundings) : Job → Except Failure (String × Files)
  | .run directory typeUnmatched json utterances => do
      let overrides := if typeUnmatched then some typingLayer else none
      let session := s.session (← s.settings directory overrides) true
      let reports ← ((utterances.mapM UtteranceReport.saying).run session).1
      return (printed
        (if json then [(Tree.list (reports.map (·.tree))).pretty]
        else reports.flatMap (·.lines)), s.files)
  | .commands directory json => do
      let registry := (s.session (← s.settings directory none) false).registry
      return (printed
        [if json then (Tree.list (registry.helpSections.map HelpSection.tree)).pretty
        else registry.helpText], s.files)
  | .config directory _ true => do
      let (path, files) ← (s.manager directory).createDefault s.files s.writtenAt
      return (printed ["Config: " ++ path], files)
  | .config directory json false => do
      let tree := (← s.settings directory none).tree
      return (printed [if json then tree.pretty else Yaml.print tree], s.files)

/-- Carries out a request once its log settings have been found usable. -/
def answer (s : Surroundings) (r : Request) : Except Failure (String × Files) := do
  LogSettings.start (({} : LogSettings).overridden (some r.verbose) r.logLevel)
  s.perform r.job

end Surroundings

/-! ## What a call looks at -/

/-- The directory that a job is about. -/
def Job.directory : Job → String
  | .run directory .. | .commands directory _ | .config directory .. => directory

/-- The configuration files that a job reads. -/
def Surroundings.configurationFiles (s : Surroundings) (j : Job) : List String :=
  let m := s.manager j.directory
  [m.globalFile, m.projectFile]

/-- The paths of the files that a custom command launches. -/
def launchPaths (settings : Settings) : List String :=
  (Command.definitions settings.custom).1.filterMap fun d =>
    match d.action with
    | .launchFile path => some path
    | _ => none

/-- The variables that settings refer to. -/
def variablesOf (settings : Settings) : List String :=
  (launchPaths settings).flatMap fun path => EnvironmentReference.names path.toList

/-- The files that settings refer to. -/
def filesOf (environment : Environment) (settings : Settings) : List String :=
  settings.parser.numberWordsFile.toList ++
    (launchPaths settings).map (EnvironmentReference.expand environment)

/-- What a call of the program comes to. -/
def call (s : Surroundings) (arguments : List String) : Printout :=
  match Request.ofArguments arguments with
  | .version => { output := programVersion ++ "\n", files := s.files }
  | .help topic false => { output := Help.text topic, files := s.files }
  | .help topic true => { errors := Help.text topic, status := 1, files := s.files }
  | .refused e => { errors := e.message ++ "\n", status := 1, files := s.files }
  | .job r =>
      match s.answer r with
      | .ok (output, files) => { output, files }
      | .error f =>
          -- of a value raised in place of an error nothing is shown
          { errors := if f.isError then "\n❌ " ++ f.message ++ "\n\n" else ""
            status := 1, files := s.files }

end CommandLine

end VoiceControl
