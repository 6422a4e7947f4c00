import VoiceControl.Config.Check

/-!
# Settings

The configuration of a session: its sections, their defaults and permitted values.
`Settings.check` reads a data tree as settings; `Settings.tree` is the same settings as data, in
the order in which they are printed.
-/

namespace VoiceControl

/-- What a whole-utterance command word does. -/
inductive CommandWord where
  | undoLast
  | clearLine
  deriving Repr, DecidableEq

namespace CommandWord

/-- The name of a command word's action in data. -/
def label : CommandWord → String
  | .undoLast => "undo_last"
  | .clearLine => "clear_line"

/-- All actions, in the order in which they are listed. -/
def all : List CommandWord := [.undoLast, .clearLine]

/-- The action with a name. -/
def ofLabel? (s : String) : Option CommandWord := all.find? fun w => w.label = s

@[simp] theorem ofLabel?_label (w : CommandWord) : ofLabel? w.label = some w := by
  cases w <;> decide

end CommandWord

structure ScreenSettings where
  width : Nat := 1920
  height : Nat := 1080

structure GridSettings where
  defaultSize : Nat := 9

structure OverlaySettings where
  maxElements : Nat := 50
  maxWindows : Nat := 20

/-- The words that mean nothing to a command. -/
def defaultIgnoredWords : List String := ["thank", "you", "thanks", "please"]

/-- How alike two texts must be to count as the same: four fifths. -/
def defaultThreshold : Number := .ofRat (mkRat 4 5)

structure ParserSettings where
  fuzzyThreshold : Number := defaultThreshold
  ignoredWords : List String := defaultIgnoredWords
  numberWordsFile : Option String := none

structure TextSettings where
  punctuationCommands : Bool := true
  punctuationMap : Entries String :=
    [("period", "."), ("comma", ","), ("question mark", "?"), ("exclamation point", "!"),
      ("new line", "\n"), ("new paragraph", "\n\n")]
  customVocabulary : Entries String := []
  commandWords : Entries CommandWord :=
    [("delete that", .undoLast), ("scratch that", .undoLast)]
  /-- Utterances that match no command are dropped instead of typed. -/
  commandOnlyMode : Bool := true

structure CustomSettings where
  enabled : Bool := false
  fuzzy : Bool := false
  /-- The entries are checked one by one when commands are made of them. -/
  commands : List Tree := []

structure ScreenshotSettings where
  directory : Option String := none

/-- The names of the log levels, the most talkative first. -/
def logLevels : List String := ["trace", "debug", "info", "warn", "error", "fatal", "silent"]

structure LogSettings where
  level : String := "info"
  verbose : Bool := false

/-- The resolved configuration. -/
structure Settings where
  screen : ScreenSettings := {}
  grid : GridSettings := {}
  overlays : OverlaySettings := {}
  parser : ParserSettings := {}
  text : TextSettings := {}
  custom : CustomSettings := {}
  screenshots : ScreenshotSettings := {}
  logging : LogSettings := {}

namespace Settings

open Check

/-- A key with its value, when there is one. -/
def present (key : String) : Option String → Entries Tree
  | some s => [(key, .text s)]
  | none => []

/-- Settings as data, sections and keys in their fixed order. -/
def tree (s : Settings) : Tree :=
  .mapping [
    ("screen", .mapping [("width", .nat s.screen.width), ("height", .nat s.screen.height)]),
    ("grid", .mapping [("defaultSize", .nat s.grid.defaultSize)]),
    ("overlays", .mapping [("maxElements", .nat s.overlays.maxElements),
      ("maxWindows", .nat s.overlays.maxWindows)]),
    ("parser", .mapping ([("fuzzyThreshold", .number s.parser.fuzzyThreshold),
      ("ignoredWords", .texts s.parser.ignoredWords)] ++
      present "numberWordsFile" s.parser.numberWordsFile)),
    ("textProcessing", .mapping [("punctuationCommands", .bool s.text.punctuationCommands),
      ("punctuationMap", .mapping (s.text.punctuationMap.map fun (k, v) => (k, .text v))),
      ("customVocabulary", .mapping (s.text.customVocabulary.map fun (k, v) => (k, .text v))),
      ("commandWords", .mapping (s.text.commandWords.map fun (k, w) => (k, .text w.label))),
      ("commandOnlyMode", .bool s.text.commandOnlyMode)]),
    ("customCommands", .mapping [("enabled", .bool s.custom.enabled),
      ("fuzzy", .bool s.custom.fuzzy), ("commands", .list s.custom.commands)]),
    ("screenshots", .mapping (present "directory" s.screenshots.directory)),
    ("logging", .mapping [("level", .text s.logging.level), ("verbose", .bool s.logging.verbose)])]

/-- A command word by the name of its action. -/
def commandWord : Check CommandWord := fun path t =>
  (fun s => (CommandWord.ofLabel? s).getD .undoLast) <$>
    option (CommandWord.all.map (·.label)) path t

/-- Reads the screen section. -/
def checkScreen (path : List PathStep) (es : Entries Tree) : Verdict ScreenSettings :=
  ScreenSettings.mk <$> field "width" 1920 (natural [above 0]) path es
    <*> field "height" 1080 (natural [above 0]) path es

/-- Reads the grid section. -/
def checkGrid (path : List PathStep) (es : Entries Tree) : Verdict GridSettings :=
  GridSettings.mk <$> field "defaultSize" 9 (natural [atLeast 2, atMost 30]) path es

/-- Reads the section on the other overlays. -/
def checkOverlays (path : List PathStep) (es : Entries Tree) : Verdict OverlaySettings :=
  OverlaySettings.mk <$> field "maxElements" 50 (natural [atLeast 1]) path es
    <*> field "maxWindows" 20 (natural [atLeast 1]) path es

/-- Reads the parser section. -/
def checkParser (path : List PathStep) (es : Entries Tree) : Verdict ParserSettings :=
  ParserSettings.mk <$>
    field "fuzzyThreshold" defaultThreshold (number [atLeast 0, atMost 1]) path es
    <*> field "ignoredWords" defaultIgnoredWords (list Check.text) path es
    <*> maybeField "numberWordsFile" Check.text path es

/-- Reads the section on dictated text. -/
def checkText (path : List PathStep) (es : Entries Tree) : Verdict TextSettings :=
  let default : TextSettings := {}
  TextSettings.mk <$> field "punctuationCommands" true bool path es
    <*> field "punctuationMap" default.punctuationMap (table Check.text) path es
    <*> field "customVocabulary" [] (table Check.text) path es
    <*> field "commandWords" default.commandWords (table commandWord) path es
    <*> field "commandOnlyMode" true bool path es

/-- Reads the section on custom commands. -/
def checkCustom (path : List PathStep) (es : Entries Tree) : Verdict CustomSettings :=
  CustomSettings.mk <$> field "enabled" false bool path es
    <*> field "fuzzy" false bool path es
    <*> field "commands" [] (list any) path es

/-- Reads the screenshot section. -/
def checkScreenshots (path : List PathStep) (es : Entries Tree) : Verdict ScreenshotSettings :=
  ScreenshotSettings.mk <$> maybeField "directory" Check.text path es

/-- Reads the logging section. -/
def checkLogging (path : List PathStep) (es : Entries Tree) : Verdict LogSettings :=
  LogSettings.mk <$> field "level" "info" (option logLevels) path es
    <*> field "verbose" false bool path es

/-- Reads a data tree as settings. Missing sections and keys have their defaults, unknown ones are
ignored. -/
def check (t : Tree) : Verdict Settings :=
  fields (fun path es =>
    Settings.mk <$> sectionOf "screen" checkScreen path es
      <*> sectionOf "grid" checkGrid path es
      <*> sectionOf "overlays" checkOverlays path es
      <*> sectionOf "parser" checkParser path es
      <*> sectionOf "textProcessing" checkText path es
      <*> sectionOf "customCommands" checkCustom path es
      <*> sectionOf "screenshots" checkScreenshots path es
      <*> sectionOf "logging" checkLogging path es) [] t

end Settings

end VoiceControl
