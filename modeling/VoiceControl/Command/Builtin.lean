import VoiceControl.Command.Keyboard
import VoiceControl.Command.Mouse
import VoiceControl.Command.Navigation
import VoiceControl.Command.OverlayToggle
import VoiceControl.Command.Screenshot
import VoiceControl.Command.Target
import VoiceControl.Command.Window

/-!
# The built-in commands

The order of registration matters only between equal priorities. A bare number comes last, so that
every other phrase of normal priority is tried before it.
-/

namespace VoiceControl

/-- What the built-in commands depend on. -/
structure BuiltinOptions where
  lexicon : Lexicon
  gridSize : Number := 9
  screenshots : ScreenshotStore
  symbols : Symbols := Symbols.bundled
  platform : String

namespace Command

/-- Makes commands of constructors, with identities from `first` on. -/
def numbered (first : Nat) (cs : List (Nat → Command)) : List Command :=
  cs.zipIdx.map fun (make, i) => make (first + i)

/-- The built-in commands in the order of their registration, with identities from `first` on. -/
def builtins (o : BuiltinOptions) (first : Nat := 0) : List Command :=
  numbered first [
    (typeText · o.symbols), deleteWord, deleteLine, clipboard, selectAll, undo, redo, save, enter,
    tab, escape, space, backspace, (typeSymbol · o.symbols),
    (clickNumber · o.lexicon), (dragBetweenNumbers · o.lexicon), (refineGrid · o.lexicon),
    rightClick, doubleClick, middleClick, click, scroll, mouseMove,
    pageNavigation, homeEnd, arrowKey,
    (switchToWindowNumber · o.lexicon), moveWindow, (minimize · o.platform), maximize, closeWindow,
    switchWindow,
    (showGrid · o.gridSize), showElements, showWindows, showHelp, hideOverlay,
    (referenceScreenshot · o.screenshots), (screenshot · o.screenshots),
    (moveToNumber · o.lexicon)]

end Command

end VoiceControl
