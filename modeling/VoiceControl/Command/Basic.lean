import VoiceControl.Act
import VoiceControl.Speech.Utterance
import VoiceControl.Text.Search

/-!
# Commands

A command recognises utterances, decides whether it can be carried out now, and carries itself out.
What it gives back is text for its caller to type, or nothing. The identity of a command is a
number of its own, since equal commands may be registered more than once.
-/

namespace VoiceControl

/-- What is known of a command without running it. -/
structure CommandInfo where
  name : String
  priority : Number
  description : String
  examples : List String := []
  /-- The heading that the help lists the command under. -/
  category : String := "General"
  enabled : Bool := true

/-- What is known of a command, as data. -/
def CommandInfo.entries (c : CommandInfo) : Entries Tree :=
  [("name", .text c.name), ("priority", .number c.priority), ("description", .text c.description),
    ("examples", .texts c.examples), ("category", .text c.category), ("enabled", .bool c.enabled)]

/-- A command. -/
structure Command extends CommandInfo where
  id : Nat
  /-- Whether an utterance is for this command; finding out may fail. -/
  accepts : String → Except Failure Bool
  /-- Whether the command can be carried out now. -/
  validate : String → Act Bool := fun _ => pure true
  /-- Carries the command out; gives text to type, if any. -/
  execute : String → Act (Option String)

namespace Priority

/-- Checked first. -/
def high : Number := 500

def medium : Number := 200

def normal : Number := 100

/-- Between single keys and commands of several words. -/
def arrows : Number := 150

end Priority

namespace Command

open VoiceControl.Text

/-- Publishes what a command did with an utterance. -/
def report (name text : String) (detail : Entries Tree) : Act Unit := do
  Act.publish (← get).reach.events (.commandAction name text detail)

/-- A test on the plain form of an utterance. -/
def plainly (test : List Char → Bool) (text : String) : Except Failure Bool :=
  .ok (test (Utterance.plain text.toList))

/-- Whether a text is one of some phrases. -/
def isOneOf (phrases : List String) (s : List Char) : Bool := phrases.contains (String.ofList s)

/-- Whether a phrase occurs in a text. -/
def mentions (phrase : String) (s : List Char) : Bool := occursIn phrase.toList s

/-- Whether a text starts with a phrase. -/
def leads (phrase : String) (s : List Char) : Bool := startsWith phrase.toList s

end Command

end VoiceControl
