import VoiceControl.Command.Builtin
import VoiceControl.Command.Custom
import VoiceControl.Config.Store
import VoiceControl.Speech.Phrasebook

/-!
# The catalogue of commands

Commands by the names under which they report, each built from a mapping of arguments. What an
argument does not give has its usual value.
-/

namespace VoiceControl

/-- Arguments of a command. -/
structure Arguments where
  entries : Entries Tree

namespace Arguments

/-- The text under a key. -/
def text? (a : Arguments) (key : String) : Option String := Config.text? (.mapping a.entries) [key]

/-- The number under a key. -/
def number? (a : Arguments) (key : String) : Option Number :=
  Config.number? (.mapping a.entries) [key]

/-- The texts in the list under a key. -/
def texts (a : Arguments) (key : String) : List String :=
  ((Entries.get? key a.entries).getD .null).textItems

/-- The characters by name under a key. -/
def symbols? (a : Arguments) (key : String) : Option Symbols :=
  match Entries.get? key a.entries with
  | some (.mapping es) => some (Phrasebook.textEntries es)
  | _ => none

/-- The moment under a key: year, month, day, hour, minute and second. -/
def moment? (a : Arguments) (key : String) : Option Moment :=
  match Entries.get? key a.entries with
  | some (.list ts) => Moment.ofTrees? ts
  | _ => none

/-- The definition of a custom command under a key; here even an empty trigger will do. -/
def definition? (a : Arguments) (key : String) : Option CustomDefinition := do
  let es ← (← Entries.get? key a.entries).mapping?
  return ⟨((⟨es⟩ : Arguments).text? "trigger").getD "",
    ← CustomAction.ofTree? (← Entries.get? "action" es)⟩

end Arguments

namespace Command

/-- The commands that depend on nothing. -/
def fixed : List (Nat → Command) := [
  enter, tab, escape, space, backspace, deleteWord, deleteLine, clipboard, selectAll, undo, redo,
  save, click, rightClick, doubleClick, middleClick, scroll, mouseMove, arrowKey, pageNavigation,
  homeEnd, moveWindow, maximize, closeWindow, switchWindow, showElements, showWindows, showHelp,
  hideOverlay]

/-- The commands that depend on the lexicon alone. -/
def lexical (lx : Lexicon) : List (Nat → Command) := [
  (clickNumber · lx), (moveToNumber · lx), (dragBetweenNumbers · lx), (refineGrid · lx),
  (switchToWindowNumber · lx)]

/-- The command with a name, built from arguments. -/
def named? (lx : Lexicon) (id : Nat) (name : String) (a : Arguments) : Option Command :=
  let store : ScreenshotStore := ⟨(a.text? "directory").getD "shots"⟩
  let description := (a.text? "description").getD ""
  let key := (a.text? "key").getD ""
  match name with
  | "KeyPressCommand" =>
      some (keyPress id name (a.texts "triggers") key description
        ((a.number? "priority").getD Priority.normal))
  | "KeyboardShortcutCommand" =>
      some (keyboardShortcut id name (a.texts "triggers") key description
        ((a.number? "priority").getD Priority.medium) ((a.text? "modifier").getD "ctrl"))
  | "TypeSymbolCommand" => some (typeSymbol id ((a.symbols? "symbols").getD Symbols.bundled))
  | "TypeTextCommand" => some (typeText id ((a.symbols? "symbols").getD []))
  | "MinimizeCommand" => some (minimize id ((a.text? "platform").getD "linux"))
  | "ShowGridCommand" => some (showGrid id ((a.number? "size").getD 9))
  | "ScreenshotCommand" => some (screenshot id store (a.moment? "clock"))
  | "ReferenceScreenshotCommand" => some (referenceScreenshot id store)
  | "CustomCommand" =>
      (a.definition? "definition").map fun d =>
        custom id d (if Config.bool? (.mapping a.entries) ["fuzzy"] = some true then some lx else none)
  | _ => ((fixed ++ lexical lx).map (· id)).find? fun c => c.name = name

end Command

end VoiceControl
