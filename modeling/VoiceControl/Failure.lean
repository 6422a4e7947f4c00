import VoiceControl.Data.Tree

/-!
# Failures

What can go wrong while an utterance is carried out, by cause. A capability may also raise a bare
value instead of an error; `Failure.asError` turns it into one with the value's text as message. Not
every value has a text: asking such a value for it raises a failure in its turn, and no error comes
of it.
-/

namespace VoiceControl

/-- A raised failure. -/
inductive Failure where
  /-- An error of a capability or source, known by its message alone. -/
  | plain (message : String)
  /-- A value raised in place of an error. -/
  | bare (text : String)
  /-- A raised value that has no text; `reading` is the failure that asking for one raises. -/
  | textless (reading : Failure)
  /-- A number outside its permitted range. -/
  | outOfRange (message : String)
  /-- An operation on a value of a kind that it does not take. -/
  | mistyped (message : String)
  /-- An error of the program with a code and perhaps a stage. -/
  | coded (message code : String) (stage : Option String) (cause : Option Failure)
  /-- The configuration cannot be used. -/
  | configuration (message : String) (cause : Option Failure)
  /-- A command failed while performing its effect. -/
  | execution (command detail : String) (cause : Option Failure)
  /-- An overlay cannot do what it was asked. -/
  | overlay (message overlay : String) (cause : Option Failure)
  /-- Speech could not be turned into text. -/
  | transcription (message : String) (cause : Option Failure)
  /-- Data does not have the required shape. -/
  | invalidData (message : String)
  /-- A data file cannot be parsed. -/
  | unreadableData (message : String)
  deriving Inhabited

namespace Failure

/-- The message shown for a failure; a failed command's is led by the command's name. -/
def message : Failure → String
  | .plain m | .bare m | .outOfRange m | .mistyped m | .coded m _ _ _ | .configuration m _
  | .overlay m _ _ | .transcription m _ | .invalidData m | .unreadableData m => m
  | .textless reading => reading.message
  | .execution command detail _ => command ++ ": " ++ detail

/-- The code of an error of the program. -/
def code? : Failure → Option String
  | .coded _ c _ _ => some c
  | .configuration .. => some "CONFIG_ERROR"
  | .execution .. => some "COMMAND_EXECUTION_ERROR"
  | .overlay .. => some "OVERLAY_ERROR"
  | .transcription .. => some "TRANSCRIPTION_ERROR"
  | _ => none

/-- The stage of the pipeline that an error of the program belongs to. -/
def stage? : Failure → Option String
  | .coded _ _ s _ => s
  | .configuration .. => some "config"
  | .execution .. => some "execute"
  | .overlay .. => some "render"
  | .transcription .. => some "transcribe"
  | _ => none

/-- The failure that led to this one. -/
def cause? : Failure → Option Failure
  | .coded _ _ _ c | .configuration _ c | .execution _ _ c | .overlay _ _ c
  | .transcription _ c => c
  | _ => none

/-- Whether an error, and not a bare value, was raised. -/
def isError : Failure → Bool
  | .bare _ | .textless _ => false
  | _ => true

/-- Whether a failure is that of a command's execution. -/
def isExecution : Failure → Bool
  | .execution .. => true
  | _ => false

/-- The failure as an error: a bare value's text becomes the message of a plain error. A value
without a text is no error; what asking for the text raises is raised instead. -/
def asError : Failure → Except Failure Failure
  | .bare t => .ok (.plain t)
  | .textless reading => .error reading
  | f => .ok f

theorem message_of_asError {f e : Failure} (h : f.asError = .ok e) : e.message = f.message := by
  cases f <;> cases h <;> rfl

/-- What raising a data value comes to. -/
def ofValue (t : Tree) : Failure :=
  if t.hasText then .bare t.plainText
  else .textless (.mistyped "Cannot convert object to primitive value")

end Failure

end VoiceControl
