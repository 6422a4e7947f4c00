import VoiceControl.Config.Settings
import VoiceControl.Config.Store
import VoiceControl.Number.Reading
import VoiceControl.Similarity
import VoiceControl.Speech.NumberWords
import VoiceControl.Text.Case

/-!
# The lexicon

What a session knows about words: which ones mean numbers, which ones mean nothing, and how alike
two texts must be to count as the same. Nothing here fails on an odd text; one that cannot be read
gives no result.
-/

namespace VoiceControl

/-- Number words, ignored words and the threshold of likeness. Number words and ignored words are
in lower case. -/
structure Lexicon where
  numberWords : NumberWords
  ignored : List String
  threshold : Number

namespace Lexicon

open VoiceControl.Text

/-- A lexicon from a table of number words in any case; of words that differ in case only, the
last counts. -/
def make (table : NumberWords) (ignored : List String) (threshold : Number) : Lexicon :=
  ⟨Entries.ofPairs (table.map fun (w, n) => (lowerText w, n)), ignored.map lowerText, threshold⟩

/-- The lexicon that options describe, with what was noted while its table was read. What an option
does not give has its usual value; a table of its own goes before a file. -/
def ofTree (files : Files) (options : Tree) : Lexicon × List Notice :=
  let (table, notices) : NumberWords × List Notice :=
    match Config.lookup? options ["numberWords"] with
    | some t => (t.entries.filterMap fun (k, v) => v.number?.map fun n => (k, n), [])
    | none => NumberWords.load files (Config.text? options ["numberWordsFile"])
  let ignored := match Config.lookup? options ["ignoredWords"] with
    | some t => t.textItems
    | none => defaultIgnoredWords
  let threshold := (Config.number? options ["fuzzyThreshold"]).getD defaultThreshold
  (make table ignored threshold, notices)

/-! ## Numbers -/

/-- The number that a lower-case word means. -/
def value? (lx : Lexicon) (word : List Char) : Option Number :=
  Entries.get? (String.ofList word) lx.numberWords

/-- The words of a text in lower case. -/
def tokens (s : List Char) : List (List Char) := words (lower s)

/-- The maximal runs of decimal digits. -/
def digitRuns (s : List Char) : List (List Char) :=
  (s.splitOnP fun c => !c.isDigit).filter fun r => !r.isEmpty

/-- Whether a number is one of the tens from twenty to ninety. -/
def isTens (n : Number) : Bool :=
  Number.le 20 n && n.le 90 && n.remainder 10 = 0

/-- Whether a number can follow a tens word to make up one number with it. -/
def isUnits (n : Number) : Bool := Number.le 1 n && n.le 9

/-- The numbers that words mean. Tens followed by units are one number. -/
def numbersOf (lx : Lexicon) : List (List Char) → List Number
  | [] => []
  | w :: ws =>
      match lx.value? w with
      | none => numbersOf lx ws
      | some v =>
          match ws with
          | [] => [v]
          | u :: rest =>
              match lx.value? u with
              | some n =>
                  -- only tens take units: two tens in a row are two numbers
                  if isTens v && isUnits n then (v + n) :: numbersOf lx rest
                  else v :: numbersOf lx (u :: rest)
              | none => v :: numbersOf lx (u :: rest)

/-- The numbers in a text: the values of its digit runs, or else of its words. -/
def numbers (lx : Lexicon) (s : List Char) : List Number :=
  if s.any Char.isDigit then (digitRuns s).map Number.ofDigits else lx.numbersOf (tokens s)

/-- Whether there is a number in a text. -/
def hasNumber (lx : Lexicon) (s : List Char) : Bool :=
  s.any Char.isDigit || (tokens s).any fun w => (lx.value? w).isSome

/-- The value of a text that is one digit run or one number word. -/
def loneNumber? (lx : Lexicon) (s : List Char) : Option Number :=
  let t := trim s
  if !t.isEmpty && t.all Char.isDigit then some (Number.ofDigits t) else lx.value? (lower t)

/-! ## Words that mean nothing -/

/-- The marks that are overlooked at the ends of a word. -/
def isEdgeMark (c : Char) : Bool := ".,!?;:".toList.contains c

/-- Whether a word means nothing. -/
def isIgnored (lx : Lexicon) (word : List Char) : Bool :=
  lx.ignored.contains (String.ofList (lower (trimBy isEdgeMark word)))

/-- The words of a text that mean something, between single spaces. -/
def significant (lx : Lexicon) (s : List Char) : List Char :=
  unwords ((words s).filter fun w => !lx.isIgnored w)

/-! ## Likeness -/

/-- The characters that remain in a normalised text. -/
def isKept (c : Char) : Bool :=
  isLetterMarkOrNumber c || c == '_' || isBlank c || c == '\x27' || c == '-'

/-- A text in lower case, without marks and with single spaces. -/
def normalize (s : List Char) : List Char := squeeze ((lower s).filter isKept)

/-- How alike two texts are, from 0 to 1, perhaps after normalising them. -/
def fuzzyLikeness (a b : List Char) (normalized : Bool := true) : Number :=
  if normalized then similarity (normalize a) (normalize b) else similarity a b

/-- Whether two texts are alike enough. -/
def isAlike (lx : Lexicon) (a b : List Char) (threshold : Option Number := none)
    (normalized : Bool := true) : Bool :=
  (threshold.getD lx.threshold).le (fuzzyLikeness a b normalized)

/-! ## Splitting -/

/-- The first word of a text and all that follows it. -/
def firstAndRest (s : List Char) : List Char × List Char :=
  let (first, rest) := (trim s).span fun c => !isBlank c
  (first, rest.dropWhile isBlank)

end Lexicon

end VoiceControl
