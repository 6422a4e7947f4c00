import VoiceControl.Command.Basic

/-!
# Window commands

Snapping, minimising, maximising, closing and switching windows by the shortcuts of the desktop.
-/

namespace VoiceControl.Command

/-- The heading of the window commands. -/
def windowCategory : String := "Window"

/-- The phrases that snap a window to the left. -/
def snapLeftPhrases : List String := ["move window left", "move left", "snap left"]

/-- The phrases that snap a window to the right. -/
def snapRightPhrases : List String := ["move window right", "move right", "snap right"]

/-- Whether one of some phrases occurs in a text. -/
def mentionsAny (phrases : List String) (s : List Char) : Bool := phrases.any fun p => mentions p s

/-- Snaps the window to a half of the screen and dismisses what the desktop offers then. -/
def moveWindow (id : Nat) : Command where
  id := id
  name := "MoveWindowCommand"
  priority := Priority.medium
  description := "Snap window to left or right half of screen (Win+Left/Right)"
  examples := ["move left", "move right", "move window left", "move window right", "snap left",
    "snap right"]
  category := windowCategory
  accepts := plainly (mentionsAny (snapLeftPhrases ++ snapRightPhrases))
  execute text := do
    let left := mentionsAny snapLeftPhrases (Utterance.plain text.toList)
    let direction := if left then "left" else "right"
    Act.pressCombo ["cmd"] direction
    Act.tap "esc"
    report "MoveWindowCommand" text [("direction", .text direction)]
    return none

/-- The platform on which a window is minimised with the down arrow. -/
def downArrowPlatform : String := "win32"

/-- Minimises the window. -/
def minimize (id : Nat) (platform : String) : Command where
  id := id
  name := "MinimizeCommand"
  priority := Priority.medium
  description := "Minimize current window (Win+Down / Cmd+M)"
  examples := ["minimize", "minimise"]
  category := windowCategory
  accepts := plainly (mentionsAny ["minimize", "minimise"])
  execute text := do
    Act.pressCombo ["cmd"] (if platform = downArrowPlatform then "down" else "m")
    report "MinimizeCommand" text []
    return none

/-- Maximises the window. -/
def maximize (id : Nat) : Command where
  id := id
  name := "MaximizeCommand"
  priority := Priority.medium
  description := "Maximize current window (Win+Up)"
  examples := ["maximize", "maximise"]
  category := windowCategory
  accepts := plainly (mentionsAny ["maximize", "maximise"])
  execute text := do
    Act.pressCombo ["cmd"] "up"
    report "MaximizeCommand" text []
    return none

/-- Closes the window. -/
def closeWindow (id : Nat) : Command where
  id := id
  name := "CloseWindowCommand"
  priority := Priority.medium
  description := "Close current window (Alt+F4)"
  examples := ["close window"]
  category := windowCategory
  accepts := plainly (mentions "close window")
  execute text := do
    Act.pressCombo ["alt"] "f4"
    report "CloseWindowCommand" text []
    return none

/-- Switches to the next window, or back. -/
def switchWindow (id : Nat) : Command where
  id := id
  name := "SwitchWindowCommand"
  priority := Priority.medium
  description := "Switch between windows (Alt+Tab)"
  examples := ["switch", "switch window", "switch window previous"]
  category := windowCategory
  accepts := plainly fun clean => clean = "switch".toList || mentions "switch window" clean
  execute text := do
    let back := mentionsAny ["previous", "back"] (Utterance.plain text.toList)
    Act.pressCombo (if back then ["alt", "shift"] else ["alt"]) "tab"
    report "SwitchWindowCommand" text [("direction", .text (if back then "previous" else "next"))]
    return none

end VoiceControl.Command
