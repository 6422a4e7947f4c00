import VoiceControl.Config.Settings
import VoiceControl.Overlay.Kind
import VoiceControl.Text.Units

/-!
# Events

What the program publishes about an utterance on its way from speech to effect. An event has a
topic, under which it is delivered, and details, which are data.
-/

namespace VoiceControl

/-- Why a command did not run to its end. -/
inductive FailureReason where
  | validationFailed
  | validationError
  | executionError
  | unexpectedError
  deriving Repr, DecidableEq

/-- The name of a reason in an event. -/
def FailureReason.label : FailureReason → String
  | .validationFailed => "validation_failed"
  | .validationError => "validation_error"
  | .executionError => "execution_error"
  | .unexpectedError => "unexpected_error"

/-- Something that happened. -/
inductive Event where
  | transcriptionStarted (audioLength : Nat)
  | transcriptionCompleted (text : String)
  | transcriptionFailed (error : String)
  | commandDetected (command text : String) (priority : Number)
  | commandExecuted (command text : String) (result : Option String)
  | commandFailed (command text : String) (reason : FailureReason) (error : Option String)
  /-- What a command actually did. -/
  | commandAction (command text : String) (detail : Entries Tree)
  | textProcessed (heard : String) (processed : Option String) (word : Option CommandWord)
  | textTyped (text : String)
  | overlayShown (overlay : OverlayKind) (options : Entries Tree)
  | overlayHidden (overlay : OverlayKind)
  | failed (component text error : String)

namespace Event

/-- The topic under which an event is delivered. -/
def topic : Event → String
  | .transcriptionStarted _ => "transcription:started"
  | .transcriptionCompleted _ => "transcription:completed"
  | .transcriptionFailed _ => "transcription:failed"
  | .commandDetected .. => "command:detected"
  | .commandExecuted .. => "command:executed"
  | .commandFailed .. => "command:failed"
  | .commandAction .. => "command:action"
  | .textProcessed .. => "text:processed"
  | .textTyped _ => "text:typed"
  | .overlayShown .. => "overlay:shown"
  | .overlayHidden _ => "overlay:hidden"
  | .failed .. => "error"

/-- The details of an event. The length of typed text counts its sixteen-bit units. -/
def detail : Event → Entries Tree
  | .transcriptionStarted n => [("audioLength", .nat n)]
  | .transcriptionCompleted t => [("text", .text t)]
  | .transcriptionFailed e => [("error", .text e)]
  | .commandDetected c t p =>
      [("commandName", .text c), ("text", .text t), ("priority", .number p)]
  | .commandExecuted c t r =>
      [("commandName", .text c), ("text", .text t), ("result", .orNull .text r)]
  | .commandFailed c t r e =>
      [("commandName", .text c), ("text", .text t), ("reason", .text r.label)] ++
        (match e with
          | some e => [("error", .text e)]
          | none => [])
  | .commandAction c t d =>
      Entries.insert "text" (.text t) (Entries.insert "command" (.text c) d)
  | .textProcessed o p w =>
      [("original", .text o), ("processed", .orNull .text p),
        ("commandAction", .orNull (fun w => .text w.label) w)]
  | .textTyped t => [("text", .text t), ("length", .nat (Text.unitCount t.toList))]
  | .overlayShown k o => [("overlay", .text k.label), ("options", .mapping o)]
  | .overlayHidden k => [("overlay", .text k.label)]
  | .failed c t e => [("component", .text c), ("text", .text t), ("error", .text e)]

end Event

end VoiceControl
