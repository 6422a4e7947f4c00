import VoiceControl.Command.Basic

/-!
# Navigation commands

Arrow keys, paging, and jumps to the ends of a line or of a document.
-/

namespace VoiceControl.Command

/-- The heading of the navigation commands. -/
def navigationCategory : String := "Navigation"

/-- The words for the arrow keys, which are also the names of the keys. -/
def arrowWords : List String := ["left", "right", "up", "down"]

/-- Presses an arrow key. -/
def arrowKey (id : Nat) : Command where
  id := id
  name := "ArrowKeyCommand"
  priority := Priority.arrows
  description := "Press arrow keys for navigation"
  examples := ["left", "right", "up", "down"]
  category := navigationCategory
  accepts := plainly (isOneOf arrowWords)
  execute text := do
    let word := Utterance.plainText text
    if arrowWords.contains word then
      Act.tap word
      report "ArrowKeyCommand" text [("direction", .text word)]
    return none

/-- Pages up or down. -/
def pageNavigation (id : Nat) : Command where
  id := id
  name := "PageNavigationCommand"
  priority := Priority.medium
  description := "Navigate by page (Page Up / Page Down)"
  examples := ["page up", "page down"]
  category := navigationCategory
  accepts := plainly fun clean => mentions "page up" clean || mentions "page down" clean
  execute text := do
    let up := mentions "page up" (Utterance.plain text.toList)
    Act.tap (if up then "page_up" else "page_down")
    report "PageNavigationCommand" text [("direction", .text (if up then "up" else "down"))]
    return none

/-- Where a jump leads. -/
inductive JumpTarget where
  | lineStart
  | lineEnd
  | documentStart
  | documentEnd
  deriving Repr, DecidableEq

/-- The name of a jump in reports. -/
def JumpTarget.label : JumpTarget → String
  | .lineStart => "line_start"
  | .lineEnd => "line_end"
  | .documentStart => "document_start"
  | .documentEnd => "document_end"

/-- The keys of a jump. -/
def JumpTarget.press : JumpTarget → Act Unit
  | .lineStart => Act.tap "home"
  | .lineEnd => Act.tap "end"
  | .documentStart => Act.pressCombo ["ctrl"] "home"
  | .documentEnd => Act.pressCombo ["ctrl"] "end"

/-- The phrases for the start of the document. -/
def documentStartPhrases : List String := ["go to start", "go to top", "go to beginning"]

/-- The phrases for the end of the document. -/
def documentEndPhrases : List String := ["go to end", "go to bottom"]

/-- The jump that a plain utterance asks for. -/
def jumpTarget? (clean : List Char) : Option JumpTarget :=
  if clean = "line start".toList then some .lineStart
  else if clean = "line end".toList then some .lineEnd
  else if documentStartPhrases.any fun p => mentions p clean then some .documentStart
  else if documentEndPhrases.any fun p => mentions p clean then some .documentEnd
  else none

/-- Jumps to the start or end of the line or the document. -/
def homeEnd (id : Nat) : Command where
  id := id
  name := "HomeEndCommand"
  priority := Priority.medium
  description := "Jump to start/end of document or line"
  examples :=
    ["go to start", "go to top", "go to end", "go to bottom", "line start", "line end"]
  category := navigationCategory
  accepts := plainly fun clean => (jumpTarget? clean).isSome
  execute text := do
    match jumpTarget? (Utterance.plain text.toList) with
    | none => return none
    | some target =>
        target.press
        report "HomeEndCommand" text [("action", .text target.label)]
        return none

end VoiceControl.Command
