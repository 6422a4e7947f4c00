import VoiceControl.Config.Layers
import VoiceControl.Desktop.Basic
import VoiceControl.Files
import VoiceControl.Moment
import VoiceControl.Overlay.Coordinator
import VoiceControl.Repeat

/-!
# The workspace

Everything that an utterance can change or look at while it is carried out: the desktop, the files,
the overlays, the counts of repeated movements, and the journal in which all that happened is
written down.
-/

namespace VoiceControl

/-- Where events go: to everybody, or to a channel of the commands' own. -/
inductive Channel where
  | main
  | side
  deriving Repr, DecidableEq, Inhabited

/-- What happened so far, oldest first. -/
structure Journal where
  notices : List Notice := []
  events : List Event := []
  sideEvents : List Event := []
  inquiries : List Inquiry := []
  /-- Events are still listened to; afterwards they are lost. -/
  listening : Bool := true

namespace Journal

/-- Writes down a notice. -/
def note (j : Journal) (n : Notice) : Journal := { j with notices := j.notices ++ [n] }

/-- Writes down an event of a channel. -/
def publish (j : Journal) (channel : Channel) (e : Event) : Journal :=
  if j.listening then
    match channel with
    | .main => { j with events := j.events ++ [e] }
    | .side => { j with sideEvents := j.sideEvents ++ [e] }
  else j

/-- Writes down what overlays say. -/
def hear (j : Journal) : Signal → Journal
  | .notice n => j.note n
  | .event e => j.publish .main e
  | .inquiry i => { j with inquiries := j.inquiries ++ [i] }

end Journal

/-- What commands have at their disposal. -/
structure Reach where
  overlays : Bool := true
  system : Bool := true
  /-- Where commands report what they did. -/
  events : Option Channel := some .main
  /-- Where the dispatch reports, if not where commands do. -/
  dispatch : Option Channel := some .main

/-- The state that utterances act on. -/
structure Workspace where
  screen : Screen Number
  desktop : Desktop
  files : Files := .empty "/work"
  /-- The paths that exist, where that is not left to the files. -/
  existing : Option (List String) := some []
  environment : Environment := []
  now : Moment
  overlays : Coordinator := {}
  sources : Sources := {}
  journal : Journal := {}
  reach : Reach := {}
  /-- The counts of repeated movements, by the command that they belong to. -/
  repeats : Nat → Repeats Direction := fun _ => {}

namespace Workspace

/-- Writes down what overlays say. -/
def hear (w : Workspace) (signals : List Signal) : Workspace :=
  { w with journal := signals.foldl Journal.hear w.journal }

/-- Carries out a request to the overlays. -/
def ask {α : Type} (w : Workspace) (request : Coordinator → Coordinator.Reply α) : α × Workspace :=
  let r := request w.overlays
  (r.value, { w with overlays := r.coordinator }.hear r.signals)

/-- Draws all that is waiting to be drawn. -/
def flush (w : Workspace) : Workspace :=
  let (c, signals) := w.overlays.flush w.sources
  { w with overlays := c }.hear signals

/-- Whether a path exists as far as commands are told. -/
def fileExists (w : Workspace) (path : String) : Bool :=
  match w.existing with
  | some paths => paths.contains path
  | none => w.files.has path

end Workspace

end VoiceControl
