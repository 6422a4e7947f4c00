import VoiceControl.Data.Tree
import VoiceControl.Notice

/-!
# The event bus

A subscriber is called through a wrapper of its own, which writes down what the subscriber raises
and lets none of it out. The wrappers are the listeners of an emitter. The bus keeps beside it which
wrapper belongs to which subscriber of a topic, so that subscribing twice is subscribing once.

What a subscriber does when it is called is a script of actions on the same bus, so deliveries may
nest; at the deepest level allowed a subscriber only takes note.
-/

namespace VoiceControl

/-! ## Emitters -/

/-- The wrapper through which a subscriber is called. Each is made once and has its own number. -/
structure Listener where
  number : Nat
  subscriber : String
  deriving DecidableEq

/-- What keeps listeners by topic. -/
class Emitter (E : Type) where
  fresh : E
  on : E → String → Listener → E
  off : E → String → Listener → E
  removeAll : E → E
  /-- The listeners that an emission which starts now calls, in this order. -/
  listeners : E → String → List Listener
  count : E → String → Nat

/-- Listeners with their topics, the one added last at the end. -/
structure Listeners where
  all : List (String × Listener) := []

instance : Emitter Listeners where
  fresh := {}
  on e topic l := ⟨e.all ++ [(topic, l)]⟩
  off e topic l := ⟨e.all.filter (· ≠ (topic, l))⟩
  removeAll _ := {}
  listeners e topic := (e.all.filter (·.1 = topic)).map (·.2)
  count e topic := e.all.countP (·.1 = topic)

/-! ## The bus -/

/-- An emitter with the wrappers that are its listeners, by topic and subscriber. -/
structure EventBus (E : Type) [Emitter E] where
  emitter : E := Emitter.fresh
  wrappers : Entries (Entries Listener) := []
  /-- How many wrappers were made. -/
  made : Nat := 0

namespace EventBus

variable {E : Type} [Emitter E]

/-- The wrappers of the subscribers of a topic. -/
def wrappersOf (b : EventBus E) (topic : String) : Entries Listener :=
  (Entries.get? topic b.wrappers).getD []

/-- Adds a subscriber to a topic, unless it is there. -/
def subscribe (b : EventBus E) (topic subscriber : String) : EventBus E :=
  let known := b.wrappersOf topic
  if known.has subscriber then b
  else
    let wrapper : Listener := ⟨b.made, subscriber⟩
    { emitter := Emitter.on b.emitter topic wrapper
      wrappers := Entries.put topic (known.put subscriber wrapper) b.wrappers
      made := b.made + 1 }

/-- Removes a subscriber from a topic, if it is there. -/
def unsubscribe (b : EventBus E) (topic subscriber : String) : EventBus E :=
  let known := b.wrappersOf topic
  match known.get? subscriber with
  | none => b
  | some wrapper =>
      { b with
        emitter := Emitter.off b.emitter topic wrapper
        wrappers := Entries.put topic (known.remove subscriber) b.wrappers }

/-- The number of subscribers of a topic. -/
def count (b : EventBus E) (topic : String) : Nat := Emitter.count b.emitter topic

/-- Removes all subscribers of all topics. -/
def clear (b : EventBus E) : EventBus E :=
  { b with emitter := Emitter.removeAll b.emitter, wrappers := [] }

end EventBus

/-- A bus as the program has it. -/
abbrev Bus := EventBus Listeners

namespace Bus

/-- Something done with a bus, or in answer to an event. -/
inductive Action where
  | subscribe (topic subscriber : String)
  | unsubscribe (topic subscriber : String)
  | publish (topic : String) (data : Tree)
  | count (topic : String)
  | clear
  /-- Raise something; the rest of the script is not carried out. -/
  | raise
  /-- Change the event, which cannot be changed: this raises. -/
  | tamper
  /-- Check that the event cannot be changed. -/
  | inspect
  deriving Inhabited

/-- The action that data describes: its name and what it is about. Any other name raises. -/
def Action.ofTree (t : Tree) : Action :=
  match t.items with
  | [.text "subscribe", .text topic, .text subscriber] => .subscribe topic subscriber
  | [.text "unsubscribe", .text topic, .text subscriber] => .unsubscribe topic subscriber
  | .text "publish" :: .text topic :: rest | .text "emit" :: .text topic :: rest =>
      .publish topic (rest.head?.getD .null)
  | .text "count" :: .text topic :: _ => .count topic
  | .text "clear" :: _ => .clear
  | .text "mutate" :: _ => .tamper
  | .text "frozen" :: _ => .inspect
  | _ => .raise

/-- What a subscriber was seen doing. -/
inductive Sighting where
  | received (subscriber topic : String) (data : Tree)
  | inspected (subscriber : String)

/-- A sighting as data; the event and its details are both found unchangeable. -/
def Sighting.tree : Sighting → Tree
  | .received subscriber topic data => .list [.text subscriber, .text topic, data]
  | .inspected subscriber =>
      .list [.text subscriber, .text "frozen", .list [.bool true, .bool true]]

/-- What is observed of a bus in use. -/
structure Record where
  sightings : List Sighting := []
  notices : List Notice := []

/-- The details that subscribers see: the entries of what was published. -/
def payload (data : Tree) : Tree := .mapping data.listed

end Bus

/-! ## Publishing -/

/-- A bus in use and what was observed of it. -/
structure Usage (E : Type) [Emitter E] where
  bus : EventBus E
  record : Bus.Record := {}

/-- Code that uses a bus and may raise something. -/
abbrev Using (E : Type) [Emitter E] := ExceptT Unit (StateM (Usage E))

namespace EventBus

variable {E : Type} [Emitter E]

/-- Changes the bus. -/
def change (f : EventBus E → EventBus E) : Using E Unit :=
  modify fun u => { u with bus := f u.bus }

/-- Observes a subscriber. -/
def see (s : Bus.Sighting) : Using E Unit :=
  modify fun u => { u with record := { u.record with sightings := u.record.sightings ++ [s] } }

/-- Writes a notice to the log. -/
def note (n : Notice) : Using E Unit :=
  modify fun u => { u with record := { u.record with notices := u.record.notices ++ [n] } }

/-- Calls a subscriber. What it raises is written down and goes no further. -/
def wrapped (callback : Using E Unit) : Using E Unit :=
  tryCatch callback fun _ => note .subscriberFailed

/-- Calls the listeners of a topic one after the other, as far as none of them raises anything. -/
def emit (topic : String) (call : Listener → Using E Unit) : Using E Unit := do
  let u ← get
  (Emitter.listeners u.bus.emitter topic).forM call

/-- Carries out a subscriber's script. It ends early when something is raised. The function
`publish` delivers a publication from within. -/
def perform (publish : String → Tree → Using E Unit) (subscriber : String) :
    List Bus.Action → Using E Unit
  | [] => pure ()
  | .raise :: _ | .tamper :: _ => throw ()
  | .inspect :: rest => do
      see (.inspected subscriber)
      perform publish subscriber rest
  | .publish topic data :: rest => do
      publish topic data
      perform publish subscriber rest
  | .subscribe t s :: rest => do
      change (·.subscribe t s)
      perform publish subscriber rest
  | .unsubscribe t s :: rest => do
      change (·.unsubscribe t s)
      perform publish subscriber rest
  | .clear :: rest => do
      change (·.clear)
      perform publish subscriber rest
  | .count _ :: rest => perform publish subscriber rest

/-- Delivers an event to the present subscribers of its topic. -/
def deliver (callback : String → Using E Unit) (topic : String) (data : Tree) : Using E Unit :=
  emit topic fun l => wrapped do
    see (.received l.subscriber topic (Bus.payload data))
    callback l.subscriber

/-- Publishes an event. The scripts of those who receive it may publish in turn, to a depth. -/
def publish (scripts : String → List Bus.Action) : Nat → String → Tree → Using E Unit
  | 0 => deliver fun _ => pure ()
  | depth + 1 => deliver fun s => perform (publish scripts depth) s (scripts s)

/-- What an action on a bus answers. -/
structure Outcome (E : Type) [Emitter E] where
  bus : EventBus E
  record : Bus.Record := {}
  counted : Option Nat := none

/-- Carries out an action from outside. -/
def act (scripts : String → List Bus.Action) (depth : Nat) (b : EventBus E) : Bus.Action → Outcome E
  | .subscribe t s => { bus := b.subscribe t s }
  | .unsubscribe t s => { bus := b.unsubscribe t s }
  | .publish t d =>
      let (_, u) := (publish scripts depth t d).run { bus := b }
      { bus := u.bus, record := u.record }
  | .count t => { bus := b, counted := some (b.count t) }
  | .clear => { bus := b.clear }
  | .raise | .tamper | .inspect => { bus := b }

end EventBus

end VoiceControl
