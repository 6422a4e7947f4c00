import VoiceControl.Data.Tree
import VoiceControl.Geometry

/-!
# Desktop actions

What the program does to a desktop: keys, typed text, the pointer and its buttons, the clipboard,
launched files and captured screens. A desktop is also asked where the pointer is and whether a
file exists; a question has no effect.
-/

namespace VoiceControl

/-- The point that data describes. -/
def Point.ofTree? (t : Tree) : Option (Point Number) := do
  let es ← t.mapping?
  match Entries.get? "x" es, Entries.get? "y" es with
  | some (.number x), some (.number y) => some ⟨x, y⟩
  | _, _ => none

/-- A button of the mouse. -/
inductive MouseButton where
  | left
  | right
  | middle
  deriving Repr, DecidableEq, Inhabited

/-- The name of a button. -/
def MouseButton.label : MouseButton → String
  | .left => "left"
  | .right => "right"
  | .middle => "middle"

/-- The button with a name. -/
def MouseButton.ofLabel? (s : String) : Option MouseButton :=
  [MouseButton.left, .right, .middle].find? fun b => b.label = s

@[simp] theorem MouseButton.ofLabel?_label (b : MouseButton) : ofLabel? b.label = some b := by
  cases b <;> decide

/-- An effect on the desktop. -/
inductive Action where
  | pressKey (key : String)
  | releaseKey (key : String)
  | typeText (text : String)
  | movePointer (target : Point Number)
  | click (button : MouseButton) (count : Number)
  | pressButton (button : MouseButton)
  | releaseButton (button : MouseButton)
  | scroll (dx dy : Number)
  | copyText (text : String)
  | launch (path : String)
  | capture (path : String)
  deriving Repr, DecidableEq

/-- The line by which an action is reported. -/
def Action.describe : Action → String
  | .pressKey k => "key press " ++ k
  | .releaseKey k => "key release " ++ k
  | .typeText t => "type " ++ Text.quoted t
  | .movePointer p => "move " ++ p.x.text ++ "," ++ p.y.text
  | .click b n => "click " ++ b.label ++ " x" ++ n.text
  | .pressButton b => "mouse press " ++ b.label
  | .releaseButton b => "mouse release " ++ b.label
  | .scroll dx dy => "scroll " ++ dx.text ++ "," ++ dy.text
  | .copyText t => "clipboard " ++ Text.quoted t
  | .launch p => "launch " ++ p
  | .capture p => "capture " ++ p

/-- An action as data. -/
def Action.tree (a : Action) : Tree :=
  let entry (device action : String) (detail : Entries Tree) : Tree :=
    .mapping ([("device", .text device), ("action", .text action)] ++ detail)
  match a with
  | .pressKey k => entry "keyboard" "press" [("key", .text k)]
  | .releaseKey k => entry "keyboard" "release" [("key", .text k)]
  | .typeText t => entry "keyboard" "type" [("text", .text t)]
  | .movePointer p => entry "mouse" "move" [("x", .number p.x), ("y", .number p.y)]
  | .click b n => entry "mouse" "click" [("button", .text b.label), ("count", .number n)]
  | .pressButton b => entry "mouse" "press" [("button", .text b.label)]
  | .releaseButton b => entry "mouse" "release" [("button", .text b.label)]
  | .scroll dx dy => entry "mouse" "scroll" [("dx", .number dx), ("dy", .number dy)]
  | .copyText t => entry "system" "clipboard" [("text", .text t)]
  | .launch p => entry "system" "launch" [("path", .text p)]
  | .capture p => entry "system" "capture" [("path", .text p)]

/-- A call on a capability of the desktop. -/
inductive Call where
  | act (a : Action)
  | askPointer
  | askFile (path : String)
  deriving Repr, DecidableEq

/-- The kinds of call. -/
inductive Method where
  | pressKey
  | releaseKey
  | typeText
  | askPointer
  | movePointer
  | click
  | pressButton
  | releaseButton
  | scroll
  | copyText
  | launch
  | askFile
  | capture
  deriving Repr, DecidableEq

/-- The kind of a call. -/
def Call.method : Call → Method
  | .act (.pressKey _) => .pressKey
  | .act (.releaseKey _) => .releaseKey
  | .act (.typeText _) => .typeText
  | .act (.movePointer _) => .movePointer
  | .act (.click ..) => .click
  | .act (.pressButton _) => .pressButton
  | .act (.releaseButton _) => .releaseButton
  | .act (.scroll ..) => .scroll
  | .act (.copyText _) => .copyText
  | .act (.launch _) => .launch
  | .act (.capture _) => .capture
  | .askPointer => .askPointer
  | .askFile _ => .askFile

/-- The first thing that a call is about, when it is a plain value. -/
def Call.subject? : Call → Option Tree
  | .act (.pressKey s) | .act (.releaseKey s) | .act (.typeText s) | .act (.copyText s)
  | .act (.launch s) | .act (.capture s) | .askFile s => some (.text s)
  | .act (.click b _) | .act (.pressButton b) | .act (.releaseButton b) => some (.text b.label)
  | .act (.scroll dx _) => some (.number dx)
  | .act (.movePointer _) | .askPointer => none

/-- The kind of call that a device is asked for by a name. -/
def Method.named? : (device name : String) → Option Method
  | "keyboard", "press" => some .pressKey
  | "keyboard", "release" => some .releaseKey
  | "keyboard", "type" => some .typeText
  | "mouse", "position" => some .askPointer
  | "mouse", "moveTo" => some .movePointer
  | "mouse", "click" => some .click
  | "mouse", "press" => some .pressButton
  | "mouse", "release" => some .releaseButton
  | "mouse", "scroll" => some .scroll
  | "system", "copyToClipboard" => some .copyText
  | "system", "launch" => some .launch
  | "system", "fileExists" => some .askFile
  | "system", "captureScreen" => some .capture
  | _, _ => none

/-- The call that a device, a name and arguments make up. -/
def Call.ofTrees? : List Tree → Option Call
  | .text device :: .text name :: args => do
      let text (i : Nat) : String := (args[i]?.map Tree.plainText).getD ""
      let number (i : Nat) : Number :=
        match args[i]? with
        | some (.number n) => n
        | _ => .nan
      let button := (MouseButton.ofLabel? (text 0)).getD .left
      match ← Method.named? device name with
      | .pressKey => return .act (.pressKey (text 0))
      | .releaseKey => return .act (.releaseKey (text 0))
      | .typeText => return .act (.typeText (text 0))
      | .askPointer => return .askPointer
      | .movePointer => return .act (.movePointer ((args.head?.bind Point.ofTree?).getD default))
      | .click => return .act (.click button (number 1))
      | .pressButton => return .act (.pressButton button)
      | .releaseButton => return .act (.releaseButton button)
      | .scroll => return .act (.scroll (number 0) (number 1))
      | .copyText => return .act (.copyText (text 0))
      | .launch => return .act (.launch (text 0))
      | .askFile => return .askFile (text 0)
      | .capture => return .act (.capture (text 0))
  | _ => none

end VoiceControl
