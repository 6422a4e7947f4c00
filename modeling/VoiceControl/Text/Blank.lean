/-!
# Blank characters and words

A blank separates words: the ASCII controls from tab to carriage return, the spaces of
Unicode, the line and paragraph separators and the byte order mark. Every place that trims or
splits an utterance uses this one class, so `words` and `trim` agree on where text ends.
-/

namespace VoiceControl.Text

/-- The characters that separate words. -/
def isBlank (c : Char) : Bool :=
  let n := c.toNat
  (9 ≤ n && n ≤ 13) || n == 0x20 || n == 0xA0 || n == 0x1680 || (0x2000 ≤ n && n ≤ 0x200A) ||
    n == 0x2028 || n == 0x2029 || n == 0x202F || n == 0x205F || n == 0x3000 || n == 0xFEFF

/-- Drops the elements satisfying `p` from both ends. -/
def trimBy (p : Char → Bool) (s : List Char) : List Char :=
  ((s.dropWhile p).reverse.dropWhile p).reverse

/-- Drops the blanks at both ends. -/
def trim (s : List Char) : List Char := trimBy isBlank s

/-- The maximal runs of characters that are not blank. -/
def words (s : List Char) : List (List Char) :=
  (s.splitOnP isBlank).filter fun w => !w.isEmpty

/-- The words joined by single spaces. -/
def unwords (ws : List (List Char)) : List Char := [' '].intercalate ws

/-- Every blank run becomes one space, and none is left at either end. -/
def squeeze (s : List Char) : List Char := unwords (words s)

@[simp] theorem trimBy_nil (p : Char → Bool) : trimBy p [] = [] := rfl

@[simp] theorem trim_nil : trim [] = [] := rfl

@[simp] theorem words_nil : words [] = [] := rfl

/-- No word is empty. -/
theorem ne_nil_of_mem_words {s w : List Char} (h : w ∈ words s) : w ≠ [] := by
  intro hw
  subst hw
  simp [words] at h

/-- `trimText` drops the blanks at both ends of a string. -/
def trimText (s : String) : String := String.ofList (trim s.toList)

end VoiceControl.Text
