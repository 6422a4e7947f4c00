import VoiceControl.Data.Tree
import VoiceControl.Number.Reading

/-!
# Layers of configuration

A configuration is merged from layers: the global file, the project file, the environment and
overrides. A later layer wins; mappings merge key by key at every depth, everything else is
replaced as a whole.
-/

namespace VoiceControl

/-- The variables of the environment. -/
abbrev Environment := Entries String

namespace Config

mutual

/-- The value under a key when a layer sets it over the current one. -/
def overlayValue (current : Option Tree) : (next : Tree) → Tree
  | .mapping es =>
      match current with
      | some (.mapping cs) => .mapping (merge cs es)
      | _ => .mapping es
  | t => t

/-- The entries of a layer set over the entries below it. -/
def merge (below : Entries Tree) : (layer : List (String × Tree)) → Entries Tree
  | [] => below
  | (k, t) :: es =>
      merge (Entries.insert k (overlayValue (Entries.get? k below) t) below) es

end

/-- A section as entries; anything but a mapping counts as empty. -/
def sectionEntries (key : String) (es : Entries Tree) : Entries Tree :=
  match Entries.get? key es with
  | some (.mapping cs) => cs
  | _ => []

/-- The value of a variable that is set and not empty. -/
def valueOf? (environment : Environment) (name : String) : Option String :=
  (Entries.get? name environment).filter (· ≠ "")

/-- Sets a key of a section from a variable, when that is set. -/
def setFrom (environment : Environment) (name key : String) (read : String → Tree)
    (within : Entries Tree) : Entries Tree :=
  match valueOf? environment name with
  | some v => Entries.insert key (read v) within
  | none => within

/-- A variable read as a number. -/
def readNumber (v : String) : Tree := .number (.ofNumeral v)

/-- A variable read as a switch: everything but `false` is on. -/
def readSwitch (v : String) : Tree := .bool (v != "false")

/-- The layer of the environment set over the files. Its three sections become mappings even where
the files had something else. -/
def applyEnvironment (environment : Environment) (es : Entries Tree) : Entries Tree :=
  let screen := setFrom environment "VOXGRID_SCREEN_HEIGHT" "height" readNumber
    (setFrom environment "VOXGRID_SCREEN_WIDTH" "width" readNumber (sectionEntries "screen" es))
  let logging := setFrom environment "VOXGRID_LOG_LEVEL" "level" Tree.text
    (sectionEntries "logging" es)
  let text := setFrom environment "VOXGRID_COMMAND_ONLY" "commandOnlyMode" readSwitch
    (sectionEntries "textProcessing" es)
  Entries.insert "textProcessing" (.mapping text)
    (Entries.insert "logging" (.mapping logging) (Entries.insert "screen" (.mapping screen) es))

/-- All layers in order. -/
def layered (global project : Entries Tree) (environment : Environment)
    (overrides : Option (Entries Tree)) : Entries Tree :=
  let files := applyEnvironment environment (merge (merge [] global) project)
  match overrides with
  | some layer => merge files layer
  | none => files

end Config

end VoiceControl
