/-!
# Kinds of overlay

There are four overlays: the numbered grid, the numbered elements of the window in front, the list
of windows and the help. At most one of them is up.
-/

namespace VoiceControl

/-- What an overlay shows. -/
inductive OverlayKind where
  | grid
  | elements
  | windows
  | help
  deriving Repr, DecidableEq, Inhabited

namespace OverlayKind

/-- The name of a kind in events and reports. -/
def label : OverlayKind → String
  | .grid => "grid"
  | .elements => "elements"
  | .windows => "windows"
  | .help => "help"

/-- All kinds, in the order in which a session registers them. -/
def all : List OverlayKind := [.grid, .elements, .windows, .help]

/-- The kind with a name. -/
def ofLabel? (s : String) : Option OverlayKind := all.find? fun k => k.label = s

@[simp] theorem ofLabel?_label (k : OverlayKind) : ofLabel? k.label = some k := by
  cases k <;> decide

end OverlayKind

end VoiceControl
