import VoiceControl.CommandLine.Run
import Std.Time.Zoned

/-!
# The program

Reads what a call depends on, carries it out and writes what it comes to. All decisions are made in
`CommandLine.call`; here files, variables and the clock are looked at, and nothing else.
-/

namespace VoiceControl

namespace Main

/-- What stands at a path. A path that cannot be read as text counts as a directory. -/
def nodeAt? (path : String) : IO (Option FileNode) := do
  try
    return some (.file (← IO.FS.readFile path) 0)
  catch
    | .noFileOrDirectory .. => return none
    | _ => return some .directory

/-- Adds what stands at some paths. -/
def lookAt (files : Files) (paths : List String) : IO Files :=
  paths.foldlM (fun fs path => do
    match ← nodeAt? path with
    | some node => return fs.set (fs.absolute path) node
    | none => return fs) files

/-- The variables among some names that are set. -/
def environmentOf (names : List String) : IO Environment :=
  names.filterMapM fun name => do
    return (← IO.getEnv name).map fun value => (name, value)

/-- The present moment. -/
def now : IO Moment := do
  let t ← Std.Time.PlainDateTime.now
  return ⟨t.year.toNat, t.month.val.toNat, t.day.val.toNat, t.hour.val.toNat,
    t.minute.val.toNat, t.second.val.toNat⟩

/-- The variables that set configuration, and the directory of the user. -/
def settingVariables : List String :=
  ["HOME", "VOXGRID_SCREEN_WIDTH", "VOXGRID_SCREEN_HEIGHT", "VOXGRID_LOG_LEVEL",
    "VOXGRID_COMMAND_ONLY"]

/-- What a job depends on: first the configuration is looked at, then what it refers to. -/
def surroundings (job : CommandLine.Job) : IO CommandLine.Surroundings := do
  let environment ← environmentOf settingVariables
  let bare : CommandLine.Surroundings := {
    files := .empty (← IO.currentDir).toString, environment, now := (← now)
    home := (Entries.get? "HOME" environment).getD "" }
  let s := { bare with files := ← lookAt bare.files (bare.configurationFiles job) }
  match s.settings job.directory none with
  | .error _ => return s
  | .ok settings =>
      let environment := environment ++ (← environmentOf (CommandLine.variablesOf settings))
      let files ← lookAt s.files (CommandLine.filesOf environment settings)
      return { s with environment, files }

/-- Writes the global configuration if a call has made one. -/
def keep (s : CommandLine.Surroundings) (job : CommandLine.Job) (files : Files) : IO Unit := do
  let m := s.manager job.directory
  if !s.files.has m.globalFile then
    match files.read? m.globalFile with
    | some content =>
        IO.FS.createDirAll m.globalDirectory
        IO.FS.writeFile m.globalFile content
    | none => return

/-- Makes a call and shows what it comes to; gives the status to end with. -/
def run (arguments : List String) : IO UInt32 := do
  let job : CommandLine.Job :=
    match CommandLine.Request.ofArguments arguments with
    | .job r => r.job
    | _ => .config "." false false
  let s ← surroundings job
  let p := CommandLine.call s arguments
  keep s job p.files
  IO.print p.output
  IO.eprint p.errors
  return p.status.toUInt32

end Main

end VoiceControl

/-- Carries out the arguments of the command line. -/
def main (arguments : List String) : IO UInt32 := VoiceControl.Main.run arguments
