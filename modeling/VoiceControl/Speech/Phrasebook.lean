import VoiceControl.Config.Settings
import VoiceControl.Config.Store
import VoiceControl.Speech.Phrase
import VoiceControl.Speech.Spacing
import VoiceControl.Text.Blank
import VoiceControl.Text.Units

/-!
# The phrasebook

What is done to dictated text before it is taken for a command: whole utterances that are command
words are recognised, spoken punctuation becomes marks, and phrases of the vocabulary are replaced.
-/

namespace VoiceControl

/-- The phrases that a session replaces or acts upon. -/
structure Phrasebook where
  punctuationEnabled : Bool
  /-- The marks by their spoken words, in lower case. -/
  punctuation : Entries String
  /-- Phrases with their replacements, applied one after the other. -/
  vocabulary : Entries String
  /-- The command words, in lower case and without blanks at the ends. -/
  commandWords : Entries CommandWord

/-- What becomes of a dictated text. -/
inductive Processed where
  /-- There was no text. -/
  | nothing
  | commandWord (w : CommandWord)
  | text (s : String)
  deriving Repr, DecidableEq

/-- What became of a text, as data. -/
def Processed.tree : Processed → Tree
  | .nothing => .mapping [("processed", .null), ("commandAction", .null)]
  | .commandWord w => .mapping [("processed", .null), ("commandAction", .text w.label)]
  | .text s => .mapping [("processed", .text s), ("commandAction", .null)]

namespace Phrasebook

open VoiceControl.Text

/-- The entries of a mapping that are texts. -/
def textEntries (es : Entries Tree) : Entries String :=
  es.filterMap fun
    | (k, .text s) => some (k, s)
    | _ => none

/-- The entries of a mapping that name the action of a command word. -/
def wordEntries (es : Entries Tree) : Entries CommandWord :=
  es.filterMap fun
    | (k, .text s) => (CommandWord.ofLabel? s).map fun w => (k, w)
    | _ => none

/-- The form in which command words are compared. -/
def wordKey (s : String) : String := trimText (lowerText s)

/-- The phrasebook that a configuration tree describes. Entries of the wrong type are left out,
and of words that differ in case only, the last counts. -/
def ofTree (config : Tree) : Phrasebook where
  punctuationEnabled :=
    (Config.bool? config ["textProcessing", "punctuationCommands"]).getD true
  punctuation := Entries.ofPairs
    ((textEntries (Config.entriesAt config ["textProcessing", "punctuationMap"])).map
      fun (w, m) => (lowerText w, m))
  vocabulary := textEntries (Config.entriesAt config ["textProcessing", "customVocabulary"])
  commandWords := Entries.ofPairs
    ((wordEntries (Config.entriesAt config ["textProcessing", "commandWords"])).map
      fun (p, w) => (wordKey p, w))

/-- The spoken words for marks, the longest first. -/
def markWords (b : Phrasebook) : List (List Char) :=
  (b.punctuation.keys.map String.toList).mergeSort fun x y => unitCount y ≤ unitCount x

/-- The mark that a word stands for; a word that is no entry stands for itself. -/
def mark (b : Phrasebook) (word : List Char) : List Char :=
  match Entries.get? (String.ofList (lower word)) b.punctuation with
  | some m => m.toList
  | none => word

/-- Replaces spoken punctuation and spaces the text. -/
def punctuate (b : Phrasebook) (s : List Char) : List Char :=
  if b.punctuation.isEmpty then s else Spacing.tidy (Phrase.replace b.markWords b.mark s)

/-- Replaces the phrases of the vocabulary, entry by entry. -/
def applyVocabulary (b : Phrasebook) (s : List Char) : List Char :=
  b.vocabulary.foldl (fun s (p, r) => Phrase.replace [p.toList] (fun _ => r.toList) s) s

/-- What becomes of a dictated text. -/
def process (b : Phrasebook) (text : String) : Processed :=
  if text = "" then .nothing
  else
    match Entries.get? (wordKey text) b.commandWords with
    | some w => .commandWord w
    | none =>
        let s := if b.punctuationEnabled then b.punctuate text.toList else text.toList
        .text (String.ofList (b.applyVocabulary s))

end Phrasebook

/-- The text that was typed last, by which "scratch that" knows how much to take back. -/
structure Dictation where
  book : Phrasebook
  last : String := ""

namespace Dictation

/-- Remembers what was typed. -/
def remember (d : Dictation) (typed : String) : Dictation := { d with last := typed }

/-- The number of characters typed last. -/
def lastLength (d : Dictation) : Nat := d.last.length

end Dictation

end VoiceControl
