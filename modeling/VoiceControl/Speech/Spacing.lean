import VoiceControl.Text.Blank

/-!
# Spacing

How dictated text is spaced once its marks are in place: one space between words, none before a
closing mark, none next to a line break and none at the ends. Only spaces and tabs are touched.
-/

namespace VoiceControl.Spacing

open VoiceControl.Text

/-- A space or a tab. -/
def isGap (c : Char) : Bool := c == ' ' || c == '\t'

/-- The marks that no gap stands before. -/
def isClosingMark (c : Char) : Bool := ".,!?;:".toList.contains c

/-- Drops the gaps that lead up to a character of a class. -/
def closeUp (p : Char → Bool) : List Char → List Char
  | [] => []
  | c :: r =>
      if isGap c && (r.dropWhile isGap).head?.any p then closeUp p r else c :: closeUp p r

/-- Makes every run of gaps one space; `inGap` says that a gap came before. -/
def single (inGap : Bool) : List Char → List Char
  | [] => []
  | c :: r =>
      if isGap c then
        if inGap then single true r else ' ' :: single true r
      else c :: single false r

/-- Drops the gaps that follow a line break; `atBreak` says that only gaps came since one. -/
def flushLeft (atBreak : Bool) : List Char → List Char
  | [] => []
  | c :: r =>
      if isGap c && atBreak then flushLeft true r else c :: flushLeft (c == '\n') r

/-- Spaces a text. -/
def tidy (s : List Char) : List Char :=
  trimBy isGap (flushLeft false (closeUp (· == '\n') (single false (closeUp isClosingMark s))))

@[simp] theorem tidy_nil : tidy [] = [] := rfl

end VoiceControl.Spacing
