import VoiceControl.Failure
import VoiceControl.Grid
import VoiceControl.Overlay.Kind

/-!
# Frames and their sources

What overlays draw, and where they get it from: a source of clickable elements, a source of
windows and the help on the registered commands. A source answers or fails; whether it takes its
time over the answer makes no difference to it.
-/

namespace VoiceControl

/-- A clickable element of the window in front. -/
structure UiElement where
  bounds : Rect Number
  name : Option String := none

/-- An open window. -/
structure WindowInfo where
  id : String
  title : String
  app : Option String := none

/-- What the help says about one command. -/
structure HelpEntry where
  description : String
  examples : List String
  deriving Repr, DecidableEq

/-- The help on the commands of one category. -/
structure HelpSection where
  title : String
  entries : List HelpEntry
  deriving Repr, DecidableEq

/-- An element with its number. -/
structure NumberedElement where
  number : Nat
  rect : Rect Number
  center : Point Number
  name : Option String := none

/-- A window with its number and the place of its entry in the list. -/
structure ListedWindow where
  window : WindowInfo
  number : Nat
  entry : Point Number

/-- What is drawn over the screen. -/
inductive Frame where
  | grid (bounds : Rect Number) (size : Nat) (refinedCell : Option Nat)
      (cells : List (Grid.Cell Number))
  | elements (items : List NumberedElement) (fallback : Bool)
  | windows (items : List ListedWindow)
  | help (sections : List HelpSection)

/-- The kind of overlay that a frame belongs to. -/
def Frame.kind : Frame → OverlayKind
  | .grid .. => .grid
  | .elements .. => .elements
  | .windows _ => .windows
  | .help _ => .help

/-- Finds clickable elements; asked for a most, it may give more. -/
structure ElementSource where
  detect : Number → Except Failure (List UiElement)

/-- Lists and focuses windows; asked for a most, it may give more. -/
structure WindowSource where
  list : Number → Except Failure (List WindowInfo)
  focus : String → Except Failure Bool

/-- Where the overlays of a session get what they show. -/
structure Sources where
  elements : Option ElementSource := none
  windows : Option WindowSource := none
  help : Except Failure (List HelpSection) := .ok []

/-- A question put to a source. -/
inductive Inquiry where
  | most (n : Number)
  | focus (id : String)
  deriving Repr, DecidableEq

end VoiceControl
