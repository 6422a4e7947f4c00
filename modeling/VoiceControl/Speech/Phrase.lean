import VoiceControl.Text.Case
import VoiceControl.Text.Category

/-!
# Replacing phrases

Phrases are found in a text without regard to case and only between word boundaries: places where
exactly one neighbour is an ASCII letter, digit or underscore. The text is searched from the left,
at each place in the order of the phrases, and what is found is replaced and not searched again. An
empty phrase is found at every boundary.
-/

namespace VoiceControl.Phrase

open VoiceControl.Text

/-- Whether a character, if there is one, belongs to a word. -/
def inWord (c : Option Char) : Bool := c.any isWordChar

/-- Whether there is a word boundary between two neighbours. -/
def isBoundary (before after : Option Char) : Bool := inWord before != inWord after

/-- The part of `s` that a phrase is found as, where `before` is the character in front of `s`. -/
def found? (before : Option Char) (s phrase : List Char) : Option (List Char) :=
  match afterCaseless? phrase s with
  | some (part, rest) =>
      if isBoundary before s.head? && isBoundary (part.getLast?.or before) rest.head? then some part
      else none
  | none => none

/-- The part of `s` that the first phrase found at its start is found as. -/
def first? (phrases : List (List Char)) (before : Option Char) (s : List Char) :
    Option (List Char) :=
  phrases.findSome? (found? before s)

/-- Replaces the phrases found in a text; of the text, `skip` characters were found already. -/
def replaceFrom (phrases : List (List Char)) (replacement : List Char → List Char)
    (before : Option Char) (skip : Nat) : List Char → List Char
  | [] =>
      match first? phrases before [] with
      | some part => replacement part
      | none => []
  | c :: r =>
      match skip with
      | n + 1 => replaceFrom phrases replacement (some c) n r
      | 0 =>
          match first? phrases before (c :: r) with
          | none => c :: replaceFrom phrases replacement (some c) 0 r
          | some [] => replacement [] ++ c :: replaceFrom phrases replacement (some c) 0 r
          | some (a :: part) =>
              replacement (a :: part) ++ replaceFrom phrases replacement (some c) part.length r

/-- Replaces every phrase found in a text. -/
def replace (phrases : List (List Char)) (replacement : List Char → List Char) (s : List Char) :
    List Char :=
  replaceFrom phrases replacement none 0 s

@[simp] theorem replace_no_phrases (f : List Char → List Char) (s : List Char) :
    replace [] f s = s := by
  have h : ∀ before s, replaceFrom [] f before 0 s = s := by
    intro before s
    induction s generalizing before with
    | nil => rfl
    | cons c r ih => simp [replaceFrom, first?, ih]
  exact h none s

end VoiceControl.Phrase
