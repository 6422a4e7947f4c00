/-!
# Notices

The warnings and errors that the program logs. Each is a condition of the domain; its level and its
wording are given once, here.
-/

namespace VoiceControl

/-- How serious a notice is. -/
inductive Level where
  | warning
  | error
  deriving Repr, DecidableEq

/-- The label of a level in the log. -/
def Level.label : Level → String
  | .warning => "warn"
  | .error => "error"

/-- A condition worth a line in the log. -/
inductive Notice where
  | matcherFailed
  | validationFailed
  | unexpectedFailure
  | subscriberFailed
  | renderDropped
  | renderFailed
  | overlayReplaced
  | overlayUnknown
  | overlayDeclined
  | overlayShowFailed
  | refineOutside
  | detectionFailed
  | dataNotReadable
  | dataMisshapen
  | customSkipped
  | nothingToType
  | nothingToCopy
  | noKeys
  | noScreenshots
  | fewScreenshots
  | screenshotOutOfRange
  | noAudio
  | noTranscriber
  | transcriptionFailed
  | commandFailed
  | processingFailed
  | typingFailed
  deriving Repr, DecidableEq

namespace Notice

/-- Conditions that the program itself caused or cannot recover from are errors. -/
def level : Notice → Level
  | .matcherFailed | .validationFailed | .unexpectedFailure | .subscriberFailed | .renderFailed
  | .overlayShowFailed | .noTranscriber | .transcriptionFailed | .processingFailed
  | .typingFailed => .error
  | _ => .warning

/-- The wording of the log line. -/
def message : Notice → String
  | .matcherFailed => "Command matcher threw"
  | .validationFailed => "Command validation threw"
  | .unexpectedFailure => "Unexpected command failure"
  | .subscriberFailed => "Event subscriber threw"
  | .renderDropped => "Render queue stopped; command dropped"
  | .renderFailed => "Render command failed"
  | .overlayReplaced => "Replacing registered overlay"
  | .overlayUnknown => "Unknown overlay"
  | .overlayDeclined => "Overlay declined to show"
  | .overlayShowFailed => "Overlay show failed"
  | .refineOutside => "Refine target outside the grid"
  | .detectionFailed => "Element detection failed, using fallback grid"
  | .dataNotReadable => "Data file is not valid YAML"
  | .dataMisshapen => "Data file has an unexpected shape"
  | .customSkipped => "Invalid custom command skipped"
  | .nothingToType => "No text specified for type_text action"
  | .nothingToCopy => "No text specified for copy_to_clipboard action"
  | .noKeys => "No keys specified for key_combination action"
  | .noScreenshots => "No screenshots found"
  | .fewScreenshots => "Fewer screenshots than requested"
  | .screenshotOutOfRange => "Screenshot index out of range"
  | .noAudio => "No audio data to transcribe"
  | .noTranscriber => "No transcriber configured"
  | .transcriptionFailed => "Transcription failed"
  | .commandFailed => "Command failed"
  | .processingFailed => "Error processing text"
  | .typingFailed => "Failed to type text"

end Notice

end VoiceControl
