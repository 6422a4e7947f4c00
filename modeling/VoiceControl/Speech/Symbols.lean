import VoiceControl.Speech.NumberWords
import VoiceControl.Speech.Utterance
import VoiceControl.Text.Search

/-!
# Symbol names

Spoken names for characters that are awkward to dictate. A name may be led by the word "type".
-/

namespace VoiceControl

/-- The characters by their names. -/
abbrev Symbols := Entries String

namespace Symbols

open VoiceControl.Text

/-- The bundled names. -/
def bundled : Symbols := [
  ("slash", "/"), ("backslash", "\\"), ("open", "("), ("open paren", "("), ("close", ")"),
  ("close paren", ")"), ("curly open", "\x7b"), ("open curly", "\x7b"), ("curly close", "\x7d"),
  ("close curly", "\x7d"), ("equal", "="), ("equals", "="), ("quotation", "\""), ("quote", "\""),
  ("tick", "'"), ("apostrophe", "'"), ("dollar", "$"), ("and", "&"), ("ampersand", "&"),
  ("array open", "["), ("open bracket", "["), ("array close", "]"), ("close bracket", "]"),
  ("question", "?"), ("exclamation", "!"), ("percent", "%"), ("star", "*"), ("asterisk", "*"),
  ("plus", "+"), ("minus", "-"), ("dash", "-"), ("dot", "."), ("period", "."), ("colon", ":"),
  ("semicolon", ";"), ("comma", ","), ("hashtag", "#"), ("hash", "#"), ("pound", "#"),
  ("greater", ">"), ("greater than", ">"), ("smaller", "<"), ("less than", "<"), ("bar", "|"),
  ("pipe", "|"), ("elevate", "^"), ("caret", "^"), ("round", "~"), ("tilde", "~")]

/-- A text that is not empty. -/
def someText : Check String := fun path t =>
  match t with
  | .text "" => .invalid [.wrongType path "nonempty string" "string"]
  | t => Check.text path t

/-- The names of a file, or the bundled ones when no file is named. A file that cannot be used has
none. -/
def load (files : Files) (path : Option String) : Symbols × List Notice :=
  match path with
  | none => (bundled, [])
  | some p =>
      let (table, notices) := readTable files p "symbols" someText
      (table.getD [], notices)

/-- The word that asks for typing. -/
def typeLead : List Char := "type ".toList

/-- The name that an utterance may be, with or without "type" in front. -/
def nameIn (text : String) : String :=
  let clean := Utterance.plain text.toList
  match after? typeLead clean with
  | some rest => String.ofList (trim rest)
  | none => String.ofList clean

/-- The character that an utterance names. -/
def spoken? (symbols : Symbols) (text : String) : Option String :=
  Entries.get? (nameIn text) symbols

end Symbols

end VoiceControl
