import VoiceControl.Command.Basic
import VoiceControl.Speech.Lexicon

/-!
# Commands on numbered targets

Clicking, pointing at, dragging between and refining the numbered targets of the overlay that is
up, and focusing a numbered window.
-/

namespace VoiceControl.Command

open VoiceControl.Text

/-- The heading of the commands on targets. -/
def targetCategory : String := "Mouse"

/-- What is reported of a number that no target has. -/
def notFound : String × Tree := ("error", .text "element_not_found")

/-- The position of a numbered target, as far as overlays are reached. -/
def positionOf (n : Number) : Act (Option (Point Number)) := Act.look (·.position? n) none

/-- Whether an overlay is up. -/
def anyOverlayUp : Act Bool := Act.look (·.current.isSome) false

/-- Whether the overlay of a kind is up. -/
def isUp (k : OverlayKind) : Act Bool := Act.look (·.current == some k) false

/-- Moves the pointer to the first number of an utterance and then acts there. -/
def goToNumber (lx : Lexicon) (name text : String) (andThen : Act Unit) : Act (Option String) := do
  match (lx.numbers (Utterance.plain text.toList)).head? with
  | none => return none
  | some n =>
      match ← positionOf n with
      | none =>
          report name text [("number", .number n), notFound]
          return none
      | some p =>
          Act.act (.movePointer p)
          andThen
          report name text [("number", .number n), ("x", .number p.x), ("y", .number p.y)]
          return none

/-- Clicks on a numbered target. -/
def clickNumber (id : Nat) (lx : Lexicon) : Command where
  id := id
  name := "ClickNumberCommand"
  priority := Priority.high
  description := "Click on numbered overlay element"
  examples := ["click 5", "click number 12", "click two"]
  category := targetCategory
  accepts := plainly fun clean => leads "click" clean && lx.hasNumber clean
  validate _ := Act.hasOverlays
  execute text := goToNumber lx "ClickNumberCommand" text (Act.act (.click .left 1))

/-- The words that tell other commands from a bare number. -/
def commandLeads : List String :=
  ["click", "refine", "type", "switch", "scroll", "move", "page"]

/-- Moves the pointer to a numbered target while an overlay is up. -/
def moveToNumber (id : Nat) (lx : Lexicon) : Command where
  id := id
  name := "MoveToNumberCommand"
  priority := Priority.normal
  description := "Move mouse to numbered grid cell (without clicking)"
  examples := ["5", "twelve", "45"]
  category := targetCategory
  accepts := plainly fun clean =>
    !(commandLeads.any fun w => leads w clean) && lx.hasNumber clean
  validate _ := anyOverlayUp
  execute text := goToNumber lx "MoveToNumberCommand" text (pure ())

/-- Whether a text is two digit runs around a hyphen, perhaps with blanks about it. -/
def isDigitSpan (s : List Char) : Bool :=
  let (first, rest) := s.span Char.isDigit
  match rest.dropWhile isBlank with
  | '-' :: rest =>
      let second := rest.dropWhile isBlank
      !first.isEmpty && !second.isEmpty && second.all Char.isDigit
  | _ => false

/-- The separators of the sides of a drag, in the order in which they are looked for. -/
def dragSeparators : List String := [" to ", " two "]

/-- The separator of a drag in a text. A hyphen separates digits only. -/
def dragSeparator? (s : List Char) : Option (List Char) :=
  match dragSeparators.find? fun w => mentions w s with
  | some w => some w.toList
  | none => if isDigitSpan s then some ['-'] else none

/-- The number that one side of a drag means. -/
def dragSide? (lx : Lexicon) (s : List Char) : Option Number :=
  match lx.numbers (Utterance.plain s) with
  | [n] => some n
  | _ => none

/-- The targets of a drag, each side read on its own. -/
def dragTargets? (lx : Lexicon) (text : String) : Option (Number × Number) := do
  let clean := trim (lower text.toList)
  let separator ← dragSeparator? clean
  let (first, second) ← splitAt? separator clean
  return (← dragSide? lx first, ← dragSide? lx second)

/-- Drags from one numbered target to another while an overlay is up. -/
def dragBetweenNumbers (id : Nat) (lx : Lexicon) : Command where
  id := id
  name := "DragBetweenNumbersCommand"
  priority := Priority.high
  description := "Click and drag from one grid cell to another"
  examples := ["5 to 9", "twenty to thirty", "45 to 52"]
  category := targetCategory
  accepts text := .ok (dragTargets? lx text).isSome
  validate _ := anyOverlayUp
  execute text := do
    match dragTargets? lx text with
    | none => return none
    | some (start, finish) =>
        let ends : Entries Tree := [("start", .number start), ("end", .number finish)]
        match ← positionOf start, ← positionOf finish with
        | some a, some b =>
            Act.drag a b
            report "DragBetweenNumbersCommand" text ends
            return none
        | _, _ =>
            report "DragBetweenNumbersCommand" text (ends ++ [notFound])
            return none

/-- Refines the grid into a numbered cell while it is up. -/
def refineGrid (id : Nat) (lx : Lexicon) : Command where
  id := id
  name := "RefineGridCommand"
  priority := Priority.high
  description := "Zoom into grid cell with 3x3 subdivision"
  examples := ["refine 5", "refine grid 45", "refine twelve"]
  category := targetCategory
  accepts := plainly fun clean => leads "refine" clean && lx.hasNumber clean
  validate _ := isUp .grid
  execute text := do
    match (lx.numbers (Utterance.plain text.toList)).head? with
    | none => return none
    | some cell =>
        let refined ← Act.ask (·.refine cell)
        report "RefineGridCommand" text [("cell", .number cell), ("refined", .bool refined)]
        return none

/-- The number of the window that a plain utterance asks for: the last one spoken. -/
def switchTarget? (lx : Lexicon) (clean : List Char) : Option Number :=
  let rest := match after? "switch".toList clean with
    | some rest => rest.dropWhile isBlank
    | none => clean
  (lx.numbers rest).getLast?

/-- Focuses a numbered window while the window list is up, and takes the list down. -/
def switchToWindowNumber (id : Nat) (lx : Lexicon) : Command where
  id := id
  name := "SwitchToWindowNumberCommand"
  priority := Priority.high
  description := "Focus a numbered window from the window list"
  examples := ["switch 2", "switch to three"]
  category := "Window"
  accepts := plainly fun clean => leads "switch" clean && (switchTarget? lx clean).isSome
  validate _ := isUp .windows
  execute text := do
    match switchTarget? lx (Utterance.plain text.toList) with
    | none => return none
    | some n =>
        if ← Act.hasOverlays then
          let focused ← Act.activate n
          if focused then
            let _ ← Act.ask (·.hide .windows)
          report "SwitchToWindowNumberCommand" text
            [("number", .number n), ("focused", .bool focused)]
        return none

end VoiceControl.Command
