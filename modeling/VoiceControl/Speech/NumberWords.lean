import VoiceControl.Config.Check
import VoiceControl.Data.Yaml.Reader
import VoiceControl.Files
import VoiceControl.Notice

/-!
# Tables of number words

The spoken words for numbers, with the homophones that recognisers write for them. A table comes
from a data file with a mapping of words to natural numbers; the bundled table is used when no file
is named, and a smaller one when the named file cannot be used.
-/

namespace VoiceControl

/-- The entries of a mapping in a data file, when the file can be used; otherwise nothing, with a
notice unless the file is merely missing. -/
def readTable {α : Type} (files : Files) (path key : String) (check : Check α) :
    Option (Entries α) × List Notice :=
  match files.read? path with
  | none => (none, [])
  | some content =>
      match Yaml.parse content with
      | none => (none, [.dataNotReadable])
      | some t =>
          match Check.fields (Check.sectionTable key check) [] t with
          | .valid es => (some es, [])
          | .invalid _ => (none, [.dataMisshapen])

/-- The words for numbers, in the order in which they are listed. -/
abbrev NumberWords := Entries Number

namespace NumberWords

/-- The bundled table. -/
def bundled : NumberWords := [
  ("zero", 0), ("oh", 0), ("one", 1), ("won", 1), ("two", 2), ("to", 2), ("too", 2), ("three", 3),
  ("tree", 3), ("four", 4), ("for", 4), ("fore", 4), ("five", 5), ("six", 6), ("sicks", 6),
  ("seven", 7), ("eight", 8), ("ate", 8), ("nine", 9), ("nein", 9), ("ten", 10), ("eleven", 11),
  ("twelve", 12), ("thirteen", 13), ("fourteen", 14), ("fifteen", 15), ("sixteen", 16),
  ("seventeen", 17), ("eighteen", 18), ("nineteen", 19), ("twenty", 20), ("thirty", 30),
  ("forty", 40), ("fourty", 40), ("fifty", 50), ("sixty", 60), ("seventy", 70), ("eighty", 80),
  ("ninety", 90)]

/-- The table that stands in for a file that cannot be used. -/
def fallback : NumberWords := [
  ("zero", 0), ("oh", 0), ("one", 1), ("won", 1), ("a", 1), ("an", 1), ("two", 2), ("to", 2),
  ("too", 2), ("three", 3), ("tree", 3), ("four", 4), ("for", 4), ("fore", 4), ("five", 5),
  ("six", 6), ("sicks", 6), ("seven", 7), ("eight", 8), ("ate", 8), ("nine", 9), ("nein", 9),
  ("ten", 10)]

/-- The table of a file, or the bundled one when no file is named. -/
def load (files : Files) (path : Option String) : NumberWords × List Notice :=
  match path with
  | none => (bundled, [])
  | some p =>
      let count : Check Number := Check.number [Check.isInteger, Check.atLeast 0]
      let (table, notices) := readTable files p "numberWords" count
      (table.getD fallback, notices)

end NumberWords

end VoiceControl
