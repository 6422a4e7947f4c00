import VoiceControl.Config.Layers
import VoiceControl.Config.Settings
import VoiceControl.Data.Yaml.Reader
import VoiceControl.Files

/-!
# Loading the configuration

A manager knows the directories of the global and of the project configuration and the settings
that were loaded last. Loading reads both files, merges the layers and checks the result; it fails
when a file cannot be parsed or the result is not valid, and then keeps the settings it had.
-/

namespace VoiceControl

/-- Where the configuration files are, and what was loaded last. -/
structure ConfigManager where
  projectDirectory : String
  globalDirectory : String
  loaded : Option Settings := none

namespace ConfigManager

/-- The global configuration file. -/
def globalFile (m : ConfigManager) : String := Path.join m.globalDirectory "config.yaml"

/-- The project configuration file. -/
def projectFile (m : ConfigManager) : String := Path.join m.projectDirectory ".voxgrid.yaml"

/-- Reads one configuration file. A missing file, and one that holds no mapping, sets nothing. -/
def readFile (files : Files) (path label : String) : Except Failure (Entries Tree) :=
  let unusable (cause : Failure) : Failure :=
    .configuration ("Failed to parse " ++ label ++ " config at " ++ path) (some cause)
  match files.node? path with
  | none => .ok []
  | some .directory =>
      .error (unusable (.plain "EISDIR: illegal operation on a directory, read"))
  | some (.file content _) =>
      match Yaml.parse content with
      | none => .error (unusable (.unreadableData "malformed data file"))
      | some (.mapping es) => .ok es
      | some _ => .ok []

/-- The tree that all layers make up. -/
def layers (m : ConfigManager) (files : Files) (environment : Environment)
    (overrides : Option (Entries Tree)) : Except Failure (Entries Tree) := do
  let global ← readFile files m.globalFile "global"
  let project ← readFile files m.projectFile "project"
  return Config.layered global project environment overrides

/-- The settings that a data value describes, or the report on all that is wrong with it. -/
def checked (t : Tree) : Except Failure Settings :=
  match Settings.check t with
  | .valid s => .ok s
  | .invalid issues => .error (.invalidData (Issue.reportAll issues))

/-- The settings that a merged tree describes. -/
def settle (es : Entries Tree) : Except Failure Settings :=
  (checked (.mapping es)).mapError fun f =>
    .configuration ("Invalid configuration: " ++ f.message) (some f)

/-- Loads the settings from all layers. -/
def load (m : ConfigManager) (files : Files) (environment : Environment)
    (overrides : Option (Entries Tree)) : Except Failure (Settings × ConfigManager) := do
  let s ← settle (← m.layers files environment overrides)
  return (s, ⟨m.projectDirectory, m.globalDirectory, some s⟩)

/-- The settings loaded last, loading them if there are none. -/
def current (m : ConfigManager) (files : Files) (environment : Environment) :
    Except Failure (Settings × ConfigManager) :=
  match m.loaded with
  | some s => .ok (s, m)
  | none => m.load files environment none

/-- The global configuration that is written where there is none. -/
def defaultText : String :=
  "\n".intercalate [
    "# voxgrid configuration", "screen:", "  width: 1920", "  height: 1080", "",
    "grid:", "  defaultSize: 9", "",
    "textProcessing:", "  commandOnlyMode: true", "  commandWords:", "    delete that: undo_last",
    "    scratch that: undo_last", "",
    "customCommands:", "  enabled: false", "  commands: []", "  # - trigger: sign off",
    "  #   action:", "  #     type: type_text", "  #     text: \"Best regards\"", ""]

/-- Writes the default global configuration unless there is one; gives its path. -/
def createDefault (m : ConfigManager) (files : Files) (now : Number) :
    Except Failure (String × Files) := do
  let files ← files.ensureDirectory m.globalDirectory
  if files.has m.globalFile then return (m.globalFile, files)
  return (m.globalFile, files.write m.globalFile defaultText now)

end ConfigManager

end VoiceControl
