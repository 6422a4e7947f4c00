import VoiceControl.Command.Basic

/-!
# Overlay commands

Showing the overlays and hiding the one that is up.
-/

namespace VoiceControl.Command

/-- The heading of the overlay commands. -/
def overlayCategory : String := "Overlay"

/-- Shows an overlay on fixed phrases. -/
def showOverlay (id : Nat) (name : String) (kind : OverlayKind) (phrases : List String)
    (description : String) (options : Option Tree := none) : Command where
  id := id
  name := name
  priority := Priority.medium
  description := description
  examples := phrases
  category := overlayCategory
  accepts := plainly (isOneOf phrases)
  validate _ := Act.hasOverlays
  execute text := do
    let shown ← Act.ask (·.reveal kind options)
    report name text [("overlay", .text kind.label), ("shown", .bool shown)]
    return none

/-- Shows the grid in a size. -/
def showGrid (id : Nat) (size : Number) : Command :=
  showOverlay id "ShowGridCommand" .grid ["grid"]
    ("Show " ++ size.text ++ "x" ++ size.text ++ " numbered grid overlay")
    (some (.mapping [("size", .number size)]))

def showElements (id : Nat) : Command :=
  showOverlay id "ShowElementsCommand" .elements ["numbers"] "Show numbered UI elements overlay"

def showWindows (id : Nat) : Command :=
  showOverlay id "ShowWindowsCommand" .windows ["windows"] "Show numbered list of open windows"

def showHelp (id : Nat) : Command :=
  showOverlay id "ShowHelpCommand" .help ["commands", "help"]
    "Show help overlay with available commands"

/-- The phrases that hide any overlay; "height" is a frequent mishearing of "hide". -/
def hidePhrases : List String := ["hide", "height", "close"]

/-- Hides the overlay that is up; the phrases of the help are offered to the help first. -/
def hideOverlay (id : Nat) : Command where
  id := id
  name := "HideOverlayCommand"
  priority := Priority.medium
  description := "Hide visible overlay (grid, elements, windows, commands)"
  examples := ["hide", "close"]
  category := overlayCategory
  accepts := plainly fun clean =>
    isOneOf hidePhrases clean || HelpPanel.isClosePhrase (String.ofList clean)
  validate _ := Act.hasOverlays
  execute text := do
    if ← Act.hasOverlays then
      let current ← Act.look (·.current) none
      let taken ← Act.ask (·.handleInput (Utterance.plainText text))
      let hidden ← if taken then pure true else Act.ask (·.hideCurrent)
      report "HideOverlayCommand" text
        [("overlay", .orNull (fun k => .text k.label) current), ("hidden", .bool hidden)]
    return none

end VoiceControl.Command
