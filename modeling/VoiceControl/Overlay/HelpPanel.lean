import VoiceControl.Overlay.Panel
import VoiceControl.Text.Case
import VoiceControl.Text.Blank

/-!
# The help overlay

The registered commands by category. It has no targets, and it closes itself on a phrase of its
own.
-/

namespace VoiceControl

/-- The stages of drawing the help. -/
inductive HelpStage where
  | draw
  | publish

/-- The help overlay. -/
abbrev HelpPanel := Panel Unit HelpStage

namespace HelpPanel

/-- The phrases that close the help. -/
def closePhrases : List String := ["close help", "hide help", "exit help"]

/-- Whether a text closes the help, whatever its case and the blanks around it. -/
def isClosePhrase (text : String) : Bool :=
  closePhrases.contains (Text.trimText (Text.lowerText text))

/-- Requests the help. -/
def present (p : HelpPanel) : HelpPanel × List Signal := p.request (.render .draw)

/-- Hides the help. -/
def hide (p : HelpPanel) : HelpPanel × List Signal := p.request .wipe

/-- How the help is drawn. -/
def drawing : Drawing Unit HelpStage where
  render sources p stage :=
    match stage with
    | .draw =>
        match sources.help with
        | .ok sections => Panel.drawFrame p (.help sections) (.render .publish)
        | .error _ => (.failed, ⟨p, [], []⟩)
    | .publish => (.done, ⟨{ p with visible := true }, [.positions []], []⟩)
  reset c := c

end HelpPanel

end VoiceControl
