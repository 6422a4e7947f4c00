import VoiceControl.Workspace

/-!
# Acting on a workspace

The effects of commands. An act may fail, and what it did before it failed remains done. The
functions of this module are the only ways in which commands reach the desktop, the overlays and
the journal.
-/

namespace VoiceControl

/-- An effect on a workspace that gives a value or fails; a failure keeps the state it was raised
in. -/
abbrev Act := ExceptT Failure (StateM Workspace)

namespace Act

/-- Runs an act on a workspace. -/
def on {α : Type} (act : Act α) (w : Workspace) : Except Failure α × Workspace := act.run w

/-- Tries an act; its outcome is a value, and its failure does not go on. -/
def attempt {α : Type} (act : Act α) : Act (Except Failure α) := ExceptT.lift act.run

/-- Ends as an outcome says. -/
def conclude {α : Type} : Except Failure α → Act α
  | .ok a => pure a
  | .error f => throw f

/-- Writes down a notice. -/
def note (n : Notice) : Act Unit := modify fun w => { w with journal := w.journal.note n }

/-- Publishes an event on a channel; without one it is lost. -/
def publish (channel : Option Channel) (e : Event) : Act Unit :=
  match channel with
  | some ch => modify fun w => { w with journal := w.journal.publish ch e }
  | none => pure ()

/-- Makes a call on the desktop. -/
def call (c : Call) : Act Unit := do
  let w ← get
  let (outcome, desktop) := w.desktop.call c
  set { w with desktop }
  conclude outcome

/-- Does something to the desktop. -/
def act (a : Action) : Act Unit := call (.act a)

/-- Where the pointer is. -/
def pointer : Act (Point Number) := do
  call .askPointer
  return (← get).desktop.pointer

/-- Whether a file exists. -/
def fileExists (path : String) : Act Bool := do
  call (.askFile path)
  return (← get).fileExists path

/-- Presses and releases a key. -/
def tap (key : String) : Act Unit := do
  act (.pressKey key)
  act (.releaseKey key)

/-- Presses keys one after the other and then acts, as long as nothing fails. Gives the keys that
are held, the one pressed last first, and the outcome. -/
def pressEach (held : List String) : List String → Act Unit →
    StateM Workspace (List String × Except Failure Unit)
  | [], action => do return (held, ← action.run)
  | key :: keys, action => do
      match ← (act (.pressKey key)).run with
      | .ok () => pressEach (key :: held) keys action
      | .error f => return (held, .error f)

/-- Releases keys in order, up to the first release that fails. -/
def releaseEach : List String → Act Unit
  | [] => pure ()
  | key :: keys => do
      act (.releaseKey key)
      releaseEach keys

/-- Holds modifiers during an act. The ones that were pressed are released in reverse order, also
when the act fails; a release that fails ends the releasing and its failure counts. -/
def withModifiers (modifiers : List String) (action : Act Unit) : Act Unit := do
  let (held, outcome) ← ExceptT.lift (pressEach [] modifiers action)
  releaseEach held
  conclude outcome

/-- Taps a key under modifiers. -/
def pressCombo (modifiers : List String) (key : String) : Act Unit :=
  withModifiers modifiers (tap key)

/-- Drags from one point to another with the left button, which is released even when the way
fails. -/
def drag (start finish : Point Number) : Act Unit := do
  act (.movePointer start)
  act (.pressButton .left)
  let outcome ← attempt (act (.movePointer finish))
  act (.releaseButton .left)
  conclude outcome

/-- Whether commands reach the overlays. -/
def hasOverlays : Act Bool := return (← get).reach.overlays

/-- Whether commands reach the system. -/
def hasSystem : Act Bool := return (← get).reach.system

/-- Looks something up on the overlays, if they are reached. -/
def look {α : Type} (query : Coordinator → α) (otherwise : α) : Act α := do
  let w ← get
  return if w.reach.overlays then query w.overlays else otherwise

/-- Puts a request to the overlays, if they are reached. -/
def ask (request : Coordinator → Coordinator.Reply Bool) : Act Bool := do
  let w ← get
  if w.reach.overlays then
    let (answer, w) := w.ask request
    set w
    return answer
  else return false

/-- Activates an entry of the current overlay, if overlays are reached. -/
def activate (n : Number) : Act Bool := do
  let w ← get
  if w.reach.overlays then
    let (outcome, signals) := w.overlays.activate w.sources n
    set (w.hear signals)
    conclude outcome
  else return false

/-- Moves on in a direction; gives how often it was the direction immediately before. -/
def repeated (command : Nat) (d : Direction) : Act Nat := do
  let w ← get
  let r := (w.repeats command).next d
  set { w with repeats := fun id => if id = command then r else w.repeats id }
  return r.count

end Act

end VoiceControl
