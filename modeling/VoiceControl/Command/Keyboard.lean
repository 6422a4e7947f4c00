import VoiceControl.Command.Basic
import VoiceControl.Data.Reserved
import VoiceControl.Speech.Symbols

/-!
# Keyboard commands

Single keys, shortcuts under a modifier, the clipboard, and the commands that give text to type.
-/

namespace VoiceControl.Command

open VoiceControl.Text

/-- The heading of the keyboard commands. -/
def keyboardCategory : String := "Keyboard"

/-- Presses one key on fixed phrases. -/
def keyPress (id : Nat) (name : String) (triggers : List String) (key description : String)
    (priority : Number := Priority.normal) : Command where
  id := id
  name := name
  priority := priority
  description := description
  examples := triggers.map lowerText
  category := keyboardCategory
  accepts := plainly (isOneOf (triggers.map lowerText))
  execute _ := do
    Act.tap key
    return none

/-- Presses a key under a modifier on fixed phrases. -/
def keyboardShortcut (id : Nat) (name : String) (triggers : List String) (key description : String)
    (priority : Number := Priority.medium) (modifier : String := "ctrl") : Command where
  id := id
  name := name
  priority := priority
  description := description
  examples := triggers.map lowerText
  category := keyboardCategory
  accepts := plainly (isOneOf (triggers.map lowerText))
  execute _ := do
    Act.pressCombo [modifier] key
    return none

def enter (id : Nat) : Command := keyPress id "EnterCommand" ["enter"] "enter" "Press Enter key"

def tab (id : Nat) : Command := keyPress id "TabCommand" ["tab"] "tab" "Press Tab key"

def escape (id : Nat) : Command :=
  keyPress id "EscapeCommand" ["escape", "cancel"] "esc" "Press Escape key"

def space (id : Nat) : Command := keyPress id "SpaceCommand" ["space"] "space" "Press Space key"

def backspace (id : Nat) : Command :=
  keyPress id "BackspaceCommand" ["delete", "backspace"] "backspace"
    "Delete one character (Backspace)"

def selectAll (id : Nat) : Command :=
  keyboardShortcut id "SelectAllCommand" ["select all"] "a" "Select all text (Ctrl+A)"

def undo (id : Nat) : Command :=
  keyboardShortcut id "UndoCommand" ["undo"] "z" "Undo last action (Ctrl+Z)"

def redo (id : Nat) : Command :=
  keyboardShortcut id "RedoCommand" ["redo"] "y" "Redo last undone action (Ctrl+Y)"

def save (id : Nat) : Command :=
  keyboardShortcut id "SaveCommand" ["save"] "s" "Save file (Ctrl+S)"

/-- Deletes the word before the cursor. -/
def deleteWord (id : Nat) : Command where
  id := id
  name := "DeleteWordCommand"
  priority := Priority.high
  description := "Delete the previous word (Ctrl+Backspace)"
  examples := ["delete word"]
  category := keyboardCategory
  accepts := plainly (isOneOf ["delete word"])
  execute _ := do
    Act.pressCombo ["ctrl"] "backspace"
    return none

/-- Deletes the line that the cursor is in. -/
def deleteLine (id : Nat) : Command where
  id := id
  name := "DeleteLineCommand"
  priority := Priority.high
  description := "Delete the current line"
  examples := ["delete line"]
  category := keyboardCategory
  accepts := plainly (isOneOf ["delete line"])
  execute _ := do
    Act.tap "home"
    Act.pressCombo ["shift"] "end"
    Act.tap "delete"
    return none

/-- The clipboard operations with their keys. -/
def clipboardKeys : Entries String := [("copy", "c"), ("cut", "x"), ("paste", "v")]

/-- Copies, cuts or pastes. -/
def clipboard (id : Nat) : Command where
  id := id
  name := "ClipboardCommand"
  priority := Priority.medium
  description := "Clipboard operations (copy, cut, paste)"
  examples := ["copy", "cut", "paste"]
  category := keyboardCategory
  accepts := plainly (isOneOf (clipboardKeys.map (·.1)))
  execute text := do
    let operation := Utterance.plainText text
    match Entries.answer? operation clipboardKeys with
    | none => return none
    | some key =>
        Act.pressCombo ["ctrl"] key
        report "ClipboardCommand" text [("operation", .text operation)]
        return none

/-- Gives the character that a symbol name stands for. -/
def typeSymbol (id : Nat) (symbols : Symbols) : Command where
  id := id
  name := "TypeSymbolCommand"
  priority := Priority.normal
  description := "Type symbol characters"
  examples := ["slash", "open paren", "close paren", "equals", "quote", "comma"]
  category := keyboardCategory
  accepts text := .ok (symbols.spoken? text).isSome
  execute text := return symbols.spoken? text

/-- The text that is dictated after "type". -/
def dictated? (s : List Char) : Option (List Char) := (after? Symbols.typeLead s).map trim

/-- Gives the text after "type", unless that is a symbol name. -/
def typeText (id : Nat) (symbols : Symbols) : Command where
  id := id
  name := "TypeTextCommand"
  priority := Priority.high
  description := "Type text with 'type' prefix stripped"
  examples := ["type hello world", "type investigate why"]
  category := keyboardCategory
  accepts := plainly fun clean =>
    match dictated? clean with
    | none => false
    | some rest => !Entries.has (String.ofList rest) symbols
  execute text :=
    let clean := Utterance.plain text.toList
    let remainder := (dictated? clean).getD clean
    return if remainder.isEmpty then none else some (String.ofList remainder)

end VoiceControl.Command
