import VoiceControl.Text.Blank
import VoiceControl.Text.Case

/-!
# Utterances

Commands compare utterances in a plain form: without the marks that speech recognition attaches,
in lower case and without blanks at the ends. Hyphens stay.
-/

namespace VoiceControl.Utterance

open VoiceControl.Text

/-- The marks that recognisers attach to words. -/
def marks : List Char := ".!?,;:\"'(){}[]<>/@#$%^&*+=~`|\\".toList

/-- Whether a character is left out of the plain form. -/
def isMark (c : Char) : Bool := marks.contains c

/-- The plain form of an utterance. -/
def plain (s : List Char) : List Char := trim (lower (s.filter fun c => !isMark c))

/-- The plain form of a string. -/
def plainText (s : String) : String := String.ofList (plain s.toList)

@[simp] theorem plain_nil : plain [] = [] := rfl

end VoiceControl.Utterance
