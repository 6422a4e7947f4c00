import VoiceControl.Command.Builtin
import VoiceControl.Command.Custom
import VoiceControl.Command.Registry
import VoiceControl.Speech.Phrasebook

/-!
# Sessions

A session takes one utterance after the other from speech to effect: filler words are dropped,
dictated text is cleaned up, and what remains is a command word, a command or text to type. An
utterance that fails is reported and does not end the session, as long as an error can be made of
the failure.
-/

namespace VoiceControl

/-- What became of an utterance. -/
inductive Outcome where
  | ignored
  | commandWord (w : CommandWord)
  | command (output : Option String)
  | typed (text : String)
  | unmatched (text : String)
  | failed (error : String)
  deriving Repr, DecidableEq

/-- An outcome as data. -/
def Outcome.tree : Outcome → Tree
  | .ignored => .mapping [("kind", .text "ignored")]
  | .commandWord w => .mapping [("kind", .text "command_word"), ("action", .text w.label)]
  | .command o => .mapping [("kind", .text "command"), ("output", .orNull .text o)]
  | .typed t => .mapping [("kind", .text "typed"), ("text", .text t)]
  | .unmatched t => .mapping [("kind", .text "unmatched"), ("text", .text t)]
  | .failed e => .mapping [("kind", .text "error"), ("error", .text e)]

/-- What a session is built from. -/
structure SessionSetup where
  settings : Settings
  platform : String
  files : Files
  environment : Environment
  now : Moment
  existing : Option (List String) := some []
  hasSystem : Bool := true
  refuses : Refusal := fun _ _ => none
  surfaces : OverlayKind → Surface := fun _ => {}
  elements : Option ElementSource := none
  windows : Option WindowSource := none

/-- A session in progress. -/
structure Session where
  workspace : Workspace
  registry : Registry
  lexicon : Lexicon
  dictation : Dictation
  /-- Utterances that match no command are dropped instead of typed. -/
  commandOnly : Bool

namespace SessionSetup

/-- The screen that settings describe. -/
def screen (u : SessionSetup) : Screen Number :=
  ⟨(u.settings.screen.width : Nat), (u.settings.screen.height : Nat)⟩

/-- The lexicon that settings describe, with what was noted while its table was read. -/
def lexicon (u : SessionSetup) : Lexicon × List Notice :=
  let p := u.settings.parser
  let (table, notices) := NumberWords.load u.files p.numberWordsFile
  (.make table p.ignoredWords p.fuzzyThreshold, notices)

/-- The screenshots that settings describe. -/
def screenshots (u : SessionSetup) : ScreenshotStore :=
  ⟨u.settings.screenshots.directory.getD (ScreenshotStore.defaultDirectory u.environment)⟩

/-- The built-in commands that settings describe. -/
def builtins (u : SessionSetup) (lx : Lexicon) : List Command :=
  Command.builtins {
    lexicon := lx, gridSize := (u.settings.grid.defaultSize : Nat), screenshots := u.screenshots,
    platform := u.platform }

/-- The overlays that settings describe. -/
def overlays (u : SessionSetup) : Coordinator where
  grid := some {
    screen := u.screen, content := { standard := (u.settings.grid.defaultSize : Nat) },
    surface := u.surfaces .grid }
  elements := some {
    screen := u.screen, content := { most := (u.settings.overlays.maxElements : Nat) },
    surface := u.surfaces .elements }
  windows := some {
    screen := u.screen, content := { most := (u.settings.overlays.maxWindows : Nat) },
    surface := u.surfaces .windows }
  help := some { screen := u.screen, content := (), surface := u.surfaces .help }

/-- Starts a session. The user's own commands are registered first and so win over built-in ones
of the same priority. -/
def start (u : SessionSetup) : Session :=
  let (lx, tableNotices) := u.lexicon
  let own := u.builtins lx
  -- the identities of the user's commands follow those of the built-in ones
  let (customs, customNotices) := Command.customs own.length u.settings.custom (some lx)
  let registry := (Registry.mk []).registerAll (customs ++ own)
  { workspace := {
      screen := u.screen, desktop := .centred u.screen u.refuses, files := u.files,
      existing := u.existing, environment := u.environment, now := u.now, overlays := u.overlays,
      sources := {
        elements := u.elements, windows := u.windows, help := .ok registry.helpSections },
      journal := { notices := tableNotices ++ customNotices },
      reach := { system := u.hasSystem } }
    registry, lexicon := lx
    dictation := { book := .ofTree u.settings.tree }
    commandOnly := u.settings.text.commandOnlyMode }

end SessionSetup

namespace Session

/-- Acts within a session. -/
abbrev Speak := StateM Session

/-- Carries out an act in the workspace of a session. -/
def perform {α : Type} (act : Act α) : Speak (Except Failure α) := do
  let s ← get
  let (outcome, w) := act.on s.workspace
  set { s with workspace := w }
  return outcome

/-- Writes down a notice. -/
def note (n : Notice) : Speak Unit := do
  let _ ← perform (Act.note n)

/-- Publishes an event. -/
def publish (e : Event) : Speak Unit := do
  let _ ← perform (Act.publish (some .main) e)

/-- Remembers what was typed. -/
def remember (text : String) : Speak Unit :=
  modify fun s => { s with dictation := s.dictation.remember text }

/-- The effect of a command word on the desktop; `typed` is the number of characters typed last. -/
def wordAct (typed : Nat) : CommandWord → Act Unit
  | .undoLast => (List.replicate typed ()).forM fun _ => Act.tap "backspace"
  | .clearLine => do
      Act.tap "home"
      Act.pressCombo ["shift"] "end"
      Act.tap "backspace"

/-- Carries out a command word. What was typed last is forgotten once it is taken back. -/
def runWord (w : CommandWord) : Speak (Except Failure Unit) := do
  let typed := (← get).dictation.lastLength
  let outcome ← perform (wordAct typed w)
  -- a text that could not be taken back is still the one that was typed last
  if w = .undoLast && outcome.isOk then remember ""
  return outcome

/-- Types a text and remembers it. A failure is reported and goes no further; where no error can be
made of it, what trying to make one raises goes on. -/
def typeOut (text : String) : Speak (Except Failure Unit) := do
  match ← perform (Act.act (.typeText text)) with
  | .ok () =>
      remember text
      publish (.textTyped text)
      return .ok ()
  | .error f =>
      note .typingFailed
      match f.asError with
      | .ok e =>
          publish (.failed "text_injection" text e.message)
          return .ok ()
      | .error g => return .error g

/-- Reports a failure on the way from an utterance to its effect, which is then the outcome. Where no
error can be made of it, nothing is reported and what trying to make one raises goes on. -/
def reportFailure (text : String) (f : Failure) : Speak (Except Failure Outcome) := do
  match f.asError with
  | .ok e =>
      note (if f.isExecution then .commandFailed else .processingFailed)
      publish (.failed "text_processing" text e.message)
      return .ok (.failed e.message)
  | .error g => return .error g

/-- Types a text on the way from an utterance to an outcome. -/
def typeFor (utterance text : String) (o : Outcome) : Speak (Except Failure Outcome) := do
  match ← typeOut text with
  | .ok () => return .ok o
  | .error f => reportFailure utterance f

/-- Gives a cleaned-up text to the commands; what no command takes may be typed. -/
def dispatch (utterance text : String) : Speak (Except Failure Outcome) := do
  let s ← get
  match ← perform (s.registry.process text) with
  | .error f => reportFailure utterance f
  | .ok r =>
      if r.executed then
        let output := r.output.getD ""
        if output = "" then return .ok (.command r.output)
        else typeFor utterance output (.command r.output)
      else if s.commandOnly then return .ok (.unmatched text)
      else typeFor utterance text (.typed text)

/-- Takes an utterance from text to effect. -/
def processText (utterance : String) : Speak (Except Failure Outcome) := do
  let s ← get
  let filtered := String.ofList (s.lexicon.significant utterance.toList)
  if filtered = "" then return .ok .ignored
  match s.dictation.book.process filtered with
  | .nothing =>
      publish (.textProcessed utterance none none)
      return .ok .ignored
  | .commandWord w =>
      publish (.textProcessed utterance none (some w))
      match ← runWord w with
      | .ok () => return .ok (.commandWord w)
      | .error f => reportFailure utterance f
  | .text t =>
      publish (.textProcessed utterance (some t) none)
      if t = "" then return .ok .ignored
      dispatch utterance t

/-- Turns a recording of some length into text; `transcriber` is what the transcriber makes of it,
if there is one. Failures are published, unless no error can be made of them. -/
def transcribe (length : Nat) (transcriber : Option (Except Failure String)) :
    Speak (Except Failure (Option String)) := do
  if length = 0 then
    note .noAudio
    return .ok none
  match transcriber with
  | none =>
      note .noTranscriber
      return .ok none
  | some answer =>
      publish (.transcriptionStarted length)
      match answer with
      | .ok text =>
          let text := Text.trimText text
          publish (.transcriptionCompleted text)
          return .ok (some text)
      | .error f =>
          match f.asError with
          | .ok e =>
              note .transcriptionFailed
              publish (.transcriptionFailed e.message)
              return .ok none
          | .error g => return .error g

/-- Takes a recording from sound to effect. -/
def handleAudio (length : Nat) (transcriber : Option (Except Failure String)) :
    Speak (Except Failure Outcome) := do
  match ← transcribe length transcriber with
  | .error f => return .error f
  | .ok none => return .ok .ignored
  | .ok (some text) => if text = "" then return .ok .ignored else processText text

/-- Draws all that is waiting to be drawn. -/
def flush : Speak Unit := modify fun s => { s with workspace := s.workspace.flush }

/-- Ends a session: what is up is hidden and drawn so, the overlays go out of service, and nobody
listens to events any more. -/
def dispose : Speak Unit := do
  let _ ← perform (Act.ask (·.hideCurrent))
  flush
  modify fun s =>
    let w := s.workspace
    { s with workspace := { w with
        overlays := w.overlays.dispose, journal := { w.journal with listening := false } } }

end Session

end VoiceControl
