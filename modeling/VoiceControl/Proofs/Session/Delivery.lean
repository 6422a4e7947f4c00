import VoiceControl.Proofs.Session.Politeness
import VoiceControl.Proofs.Session.TakingBack

/-!
# Texts that reach the keyboard

The outcome of an utterance names the text that was to be typed for it. The keyboard may refuse the
text; that is reported and goes no further, and the outcome names the text all the same.

* `Outcome.text?`: the text that an outcome says was typed.
* `Session.Delivered`, `Session.Withheld`: what became of a text.
* `SessionSetup.named_text_delivered_iff`: a text that an outcome names was delivered exactly if the
  keyboard took it.
-/

namespace VoiceControl

/-- The text that an outcome says was typed. -/
def Outcome.text? : Outcome → Option String
  | .typed t => some t
  | .command (some t) => if t = "" then none else some t
  | _ => none

/-- The text that an event says could not be typed, with the reason. -/
def Event.untypedText? : Event → Option (String × String)
  | .failed component text error =>
      if component = "text_injection" then some (text, error) else none
  | _ => none

namespace Session

variable {s s' : Session} {text : String}

/-- What was seen between two states of a session. -/
def since (s s' : Session) : Deed := .between s.workspace s'.workspace

/-- A text was delivered: typing it is all that was done, whoever listens was told of it once and of
no other text, and it is what the session remembers. -/
structure Delivered (s : Session) (text : String) (s' : Session) : Prop where
  typed : (s.since s').actions = [.typeText text]
  told : s.workspace.journal.listening = true →
    (s.since s').events.filterMap Event.typedText? = [text]
  remembered : s'.dictation.last = text

/-- A text was withheld: nothing was done, whoever listens was told of no typed text but once that
this one could not be typed, and the session remembers what it remembered. -/
structure Withheld (s : Session) (text error : String) (s' : Session) : Prop where
  typed : (s.since s').actions = []
  told : s.workspace.journal.listening = true →
    (s.since s').events.filterMap Event.typedText? = [] ∧
      (s.since s').events.filterMap Event.untypedText? = [(text, error)]
  remembered : s'.dictation = s.dictation

end Session

theorem SessionSetup.conveys_registry (u : SessionSetup) :
    ∀ c ∈ u.start.registry.commands, c.Conveys :=
  forall_registry Command.conveys_builtins fun first lx => Command.conveys_customs first _ lx

namespace Session

variable {s s' : Session} {utterance text : String} {o : Except Failure Outcome}
  {tale : List Event}

/-- Where the outcome names a text, nothing but writing down comes before typing it, and nothing is
said about the utterance but how it was read and how the typing ended. -/
theorem Came.wrote_of_text {o : Outcome} (h : s.Came utterance (.ok o) tale s')
    (discerns : ∀ c ∈ s.registry.commands, c.Discerns)
    (conveys : ∀ c ∈ s.registry.commands, c.Conveys) (named : o.text? = some text) :
    ∃ w read e, s.workspace.Unmoved w ∧ { s with workspace := w }.Wrote text e s' ∧
      tale = [.textProcessed utterance read none, e] := by
  cases h with
  | @typed t _ _ e _ _ _ ran wrote _ =>
      obtain rfl : t = text := Option.some.inj named
      exact ⟨_, _, e, unmoved_dispatch discerns (fun carried => by cases carried) ran, wrote, rfl⟩
  | @output t o _ e _ _ _ ran wrote =>
      have idle := unmoved_dispatch discerns (fun _ => ⟨Option.some_ne_none o, conveys⟩) ran
      by_cases blank : o = ""
      · simp [Outcome.text?, blank] at named
      · obtain rfl : o = text := by simpa [Outcome.text?, blank] using named
        exact ⟨_, _, e, idle, wrote, rfl⟩
  | @command t o _ _ _ _ silent =>
      -- an output that is not typed names no text
      cases o with
      | none => cases named
      | some o =>
          obtain rfl : o = "" := silent
          simp [Outcome.text?] at named
  | wordFailed _ _ settled | commandFailed _ _ _ settled | unwritten _ _ _ _ _ settled =>
      cases settled
      cases named
  | _ => cases named

/-- What is told of an utterance can be read off its tale. -/
theorem Came.filterMap_events {β : Type} {f : Event → Option β}
    (about : ∀ e, e.isOfUtterance = false → f e = none) (h : s.Came utterance o tale s')
    (listening : s.workspace.journal.listening = true) (able : s.Able fun _ => True) :
    (s.since s').events.filterMap f = tale.filterMap f := by
  obtain ⟨own, events, same⟩ := (h.tells listening able).events
  rw [since, Deed.between, events, List.drop_left, ← Event.filterMap_isOfUtterance about, same]

/-- A text that is given to the keyboard at last is delivered if it is taken, and withheld if it is
refused. -/
theorem Came.delivered_or_withheld (h : s.Came utterance o tale s') (able : s.Able fun _ => True)
    {w : Workspace} {read : Option String} {e : Event} (unmoved : s.workspace.Unmoved w)
    (wrote : { s with workspace := w }.Wrote text e s')
    (said : tale = [.textProcessed utterance read none, e]) :
    let refusal := s.workspace.desktop.refuses s.workspace.desktop.calls (.act (.typeText text))
    (refusal = none → s.Delivered text s') ∧
      ∀ f, refusal = some f → s.Withheld text f.message s' := by
  intro refusal
  obtain ⟨journal, rfl⟩ := unmoved
  have typed (listening : s.workspace.journal.listening = true) :=
    h.filterMap_events (f := Event.typedText?)
      (fun e other => by cases e <;> first | rfl | cases other) listening able
  have untyped (listening : s.workspace.journal.listening = true) :=
    h.filterMap_events (f := Event.untypedText?)
      (fun e other => by cases e <;> first | rfl | cases other) listening able
  rw [said] at typed untyped
  cases wrote with
  | typed ran =>
      obtain ⟨-, ⟨f, -, failed, -⟩ | ⟨taken, -, actions⟩⟩ := Act.act_cases ran
      · cases failed
      · refine ⟨fun _ => ⟨?_, typed, rfl⟩, fun f refused => ?_⟩
        · exact (congrArg (List.drop _) actions).trans List.drop_left
        · cases taken.symm.trans refused
  | @refused f e _ ran read =>
      obtain ⟨-, ⟨f', refused, failed, actions⟩ | ⟨-, granted, -⟩⟩ := Act.act_cases ran
      · obtain rfl : f = f' := Except.error.inj failed
        refine ⟨fun taken => ?_, fun f' refused' => ?_⟩
        · cases taken.symm.trans refused
        · obtain rfl : f = f' := Option.some.inj (refused.symm.trans refused')
          rw [← Failure.message_of_asError read]
          refine ⟨?_, fun listening => ⟨typed listening, untyped listening⟩, rfl⟩
          exact (congrArg (List.drop _) actions).trans List.drop_length
      · cases granted

/-- Typing such a text is the only call for it, and it is delivered exactly if it is taken. -/
theorem Came.delivered_iff (h : s.Came utterance o tale s') (able : s.Able fun _ => True)
    {w : Workspace} {read : Option String} {e : Event} (unmoved : s.workspace.Unmoved w)
    (wrote : { s with workspace := w }.Wrote text e s')
    (said : tale = [.textProcessed utterance read none, e]) :
    let refusal := s.workspace.desktop.refuses s.workspace.desktop.calls (.act (.typeText text))
    s'.workspace.desktop.calls = .act (.typeText text) :: s.workspace.desktop.calls ∧
    (s.Delivered text s' ↔ refusal = none) ∧
    ∀ f, refusal = some f → s.Withheld text f.message s' := by
  intro refusal
  obtain ⟨delivered, withheld⟩ := h.delivered_or_withheld able unmoved wrote said
  refine ⟨(wrote.typed_of_unmoved unmoved).calls, ⟨fun done => ?_, delivered⟩, withheld⟩
  -- a refused text was not typed
  cases refused : refusal with
  | none => rfl
  | some f =>
      have nothing := (withheld f refused).typed
      rw [done.typed] at nothing
      cases nothing

end Session

/-- In whatever state a session is: when the outcome of an utterance names a text, the only call made
for it was to type that text. It was delivered exactly if the keyboard took it; if the keyboard
refused it, it was withheld. -/
theorem SessionSetup.named_text_delivered_iff {u : SessionSetup} {s : Session}
    (reached : u.Reaches s) {utterance text : String} {o : Outcome}
    (ended : ((Session.processText utterance).run s).1 = .ok o) (named : o.text? = some text) :
    let s' := ((Session.processText utterance).run s).2
    let refusal := s.workspace.desktop.refuses s.workspace.desktop.calls (.act (.typeText text))
    s'.workspace.desktop.calls = .act (.typeText text) :: s.workspace.desktop.calls ∧
    (s.Delivered text s' ↔ refusal = none) ∧
    ∀ f, refusal = some f → s.Withheld text f.message s' := by
  obtain ⟨tale, came⟩ := Session.came_processText s utterance
  rw [ended] at came
  have own (c : Command) (mem : c ∈ s.registry.commands) : c ∈ u.start.registry.commands := by
    rw [reached.frame] at mem
    exact mem
  obtain ⟨w, read, e, unmoved, wrote, said⟩ := came.wrote_of_text
    (fun c mem => u.discerns_registry c (own c mem))
    (fun c mem => u.conveys_registry c (own c mem)) named
  exact came.delivered_iff reached.able unmoved wrote said

/-- A symbol that the keyboard takes is delivered. -/
theorem SessionSetup.named_text_delivered_slash :
    let u : SessionSetup := {
      settings := { text := { punctuationCommands := false } }, platform := "linux"
      files := .empty "/work", environment := [], now := ⟨2024, 6, 7, 8, 9, 10⟩
      refuses := Fault.refusal [{
        method := .typeText, subject := some (.text "hello"), failure := .plain "jammed" }] }
    let s := u.start.next (.say "type hello")
    let r := (Session.processText "type slash").run s
    let o := Outcome.command (some "/")
    u.Reaches s ∧ (r.1 = .ok o ∧ o.text? = some "/") ∧ s.Delivered "/" r.2 := by
  intro u s r o
  have reached : u.Reaches s := .next _ .start
  have ended : r.1 = .ok o := Outcome.of_toOption (by decide +kernel)
  have named : o.text? = some "/" := by decide
  have taken : s.workspace.desktop.refuses s.workspace.desktop.calls (.act (.typeText "/")) =
      none := by decide +kernel
  exact ⟨reached, ⟨ended, named⟩, (named_text_delivered_iff reached ended named).2.1.2 taken⟩

/-- Dictated text that the keyboard refuses is said to have been typed. -/
theorem SessionSetup.refused_text_named :
    let u : SessionSetup := {
      settings := { text := { punctuationCommands := false, commandOnlyMode := false } }
      platform := "linux", files := .empty "/work", environment := []
      now := ⟨2024, 6, 7, 8, 9, 10⟩
      refuses := Fault.refusal [{ method := .typeText, failure := .plain "jammed" }] }
    let r := (Session.processText "hello").run u.start
    let o := Outcome.typed "hello"
    (r.1 = .ok o ∧ o.text? = some "hello") ∧ r.2.workspace.desktop.actions = [] ∧
      r.2.dictation.last = "" ∧ ¬ u.start.Delivered "hello" r.2 := by
  intro u r o
  have ended : r.1 = .ok o := Outcome.of_toOption (by decide +kernel)
  have seen : r.2.workspace.desktop.actions = [] ∧ r.2.dictation.last = "" := by decide +kernel
  refine ⟨⟨ended, by decide⟩, seen.1, seen.2, fun delivered => ?_⟩
  have remembered : "" = "hello" := seen.2.symm.trans delivered.remembered
  exact absurd remembered (by decide)

end VoiceControl
