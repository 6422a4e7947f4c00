import VoiceControl.Command.Basic

/-!
# Mouse commands

Clicks where the pointer is, scrolling, and nudges of the pointer. Scrolls and nudges grow while
they go on in the same direction.
-/

namespace VoiceControl.Command

open VoiceControl.Text

/-- The heading of the mouse commands. -/
def mouseCategory : String := "Mouse"

/-- Clicks a button on fixed phrases. -/
def fixedClick (id : Nat) (name : String) (triggers : List String) (button : MouseButton)
    (count : Nat) (description : String) (priority : Number) : Command where
  id := id
  name := name
  priority := priority
  description := description
  examples := triggers
  category := mouseCategory
  accepts := plainly (isOneOf triggers)
  execute text := do
    Act.act (.click button count)
    report name text [("button", .text button.label), ("count", .nat count)]
    return none

def click (id : Nat) : Command :=
  fixedClick id "ClickCommand" ["click"] .left 1 "Left click at current mouse position"
    Priority.normal

def rightClick (id : Nat) : Command :=
  fixedClick id "RightClickCommand" ["right click"] .right 1
    "Right click at current mouse position" Priority.medium

def doubleClick (id : Nat) : Command :=
  fixedClick id "DoubleClickCommand" ["double click"] .left 2
    "Double click at current mouse position" Priority.medium

def middleClick (id : Nat) : Command :=
  fixedClick id "MiddleClickCommand" ["middle click", "wheel click"] .middle 1
    "Middle click at current mouse position" Priority.medium

/-- The first of some directions whose word occurs in a text. -/
def direction? (directions : List Direction) (s : List Char) : Option Direction :=
  directions.find? fun d => mentions d.label s

/-- The directions of scrolling, in the order in which they are looked for. -/
def scrollDirections : List Direction := [.up, .down, .left, .right]

/-- One unit of scrolling into a direction. -/
def scrollVector : Direction → Int × Int
  | .up => (0, -1)
  | .down => (0, 1)
  | .left => (-1, 0)
  | .right => (1, 0)

/-- The amount of a scroll that is not a repetition. -/
def baseScroll : Nat := 3

/-- The most that a scroll grows by. -/
def maxScrollFactor : Nat := 16

/-- The factor of a scroll after `r` scrolls in the same direction. -/
def scrollFactor (r : Nat) : Nat := Nat.min (Nat.pow 2 r) maxScrollFactor

/-- Scrolls, twice as far with every repetition. -/
def scroll (id : Nat) : Command where
  id := id
  name := "ScrollCommand"
  priority := Priority.normal
  description := "Scroll in specified direction (with exponential scaling when repeated)"
  examples := ["scroll up", "scroll down", "scroll left", "scroll right"]
  category := mouseCategory
  accepts := plainly fun clean =>
    leads "scroll" clean && (direction? scrollDirections clean).isSome
  execute text := do
    match direction? scrollDirections (Utterance.plain text.toList) with
    | none => return none
    | some d =>
        let factor := scrollFactor (← Act.repeated id d)
        let amount := baseScroll * factor
        let (dx, dy) := scrollVector d
        Act.act (.scroll (.ofInt (dx * amount)) (.ofInt (dy * amount)))
        report "ScrollCommand" text [("direction", .text d.label), ("multiplier", .nat factor),
          ("amount", .nat amount)]
        return none

/-- The step of a nudge that is not a repetition, in pixels. -/
def baseNudge : Nat := 50

/-- The longest nudge, in pixels. -/
def maxNudge : Nat := 800

/-- The factor of a nudge after `q` nudges in the same direction. -/
def nudgeFactor (q : Nat) : Number := (Nat.pow 2 q : Number)

/-- The step of a nudge after `q` nudges in the same direction. -/
def nudgeStep (q : Nat) : Number := Number.min ((baseNudge : Nat) * nudgeFactor q) (maxNudge : Nat)

/-- Where a nudge takes the pointer's height to, on a screen of the given height. -/
def nudged (height y step : Number) : Direction → Number
  | .up => Number.max 0 (y - step)
  | _ => Number.min (height - 1) (y + step)

/-- The directions of nudges, in the order in which they are looked for. -/
def nudgeDirections : List Direction := [.up, .down]

/-- Nudges the pointer up or down, twice as far with every repetition. -/
def mouseMove (id : Nat) : Command where
  id := id
  name := "MouseMoveCommand"
  priority := Priority.normal
  description := "Move mouse cursor up/down (with exponential scaling when repeated)"
  examples := ["move up", "move down"]
  category := mouseCategory
  accepts := plainly fun clean => leads "move" clean && (direction? nudgeDirections clean).isSome
  execute text := do
    match direction? nudgeDirections (Utterance.plain text.toList) with
    | none => return none
    | some d =>
        let q ← Act.repeated id d
        let step := nudgeStep q
        let p ← Act.pointer
        let y := nudged (← get).screen.height p.y step d
        Act.act (.movePointer ⟨p.x, y⟩)
        report "MouseMoveCommand" text [("direction", .text d.label), ("step", .number step),
          ("multiplier", .number (nudgeFactor q)),
          ("position", .mapping [("x", .number p.x), ("y", .number y)])]
        return none

end VoiceControl.Command
