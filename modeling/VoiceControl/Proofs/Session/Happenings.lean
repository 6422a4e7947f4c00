import VoiceControl.Proofs.Command.Repertoire
import VoiceControl.Session

/-!
# What happens to a session

An utterance takes one of eleven ways from speech to effect. `Session.Came` lists them once, each
with its outcome, the events about the utterance that it publishes and the session that it leaves,
so that what holds of every utterance is a case analysis. Where a failure of which no error can be
made is on the way, the utterance has no outcome, and what trying to make one raises comes out.

Between utterances the overlays are asked and drawn and the world changes. A run is a list of such
happenings, in any order; whatever fails on the way is part of what a session is built from.
-/

namespace VoiceControl

/-- An outcome is told from others by equality, a failure that came out in its place is not. -/
theorem Outcome.of_toOption {o : Except Failure Outcome} {a : Outcome}
    (h : o.toOption = some a) : o = .ok a := by
  cases o with
  | ok b => exact congrArg _ (Option.some.inj h)
  | error f => cases h

namespace Session

variable {s s' : Session}

/-! ## Steps of a session -/

theorem run_bind {α β : Type} (x : Speak α) (f : α → Speak β) (s : Session) :
    (x >>= f).run s = (f (x.run s).1).run (x.run s).2 := rfl

theorem run_get (s : Session) : (get : Speak Session).run s = (s, s) := rfl

theorem run_perform {α : Type} (act : Act α) (s : Session) :
    (perform act).run s =
      ((act.on s.workspace).1, { s with workspace := (act.on s.workspace).2 }) := rfl

theorem run_publish (e : Event) (s : Session) :
    (publish e).run s = ((), { s with workspace := s.workspace.published (some .main) e }) := rfl

/-- The workspace once the failure of an utterance was reported as an error. -/
def reported (w : Workspace) (utterance : String) (f e : Failure) : Workspace :=
  (w.noted [if f.isExecution then .commandFailed else .processingFailed]).published (some .main)
    (.failed "text_processing" utterance e.message)

/-- How the failure of an utterance is settled: what comes of the utterance, the events about it and
the workspace that is left. -/
inductive Settled (w : Workspace) (utterance : String) (f : Failure) :
    Except Failure Outcome → List Event → Workspace → Prop
  | reported {e} (read : f.asError = .ok e) :
      Settled w utterance f (.ok (.failed e.message))
        [.failed "text_processing" utterance e.message] (reported w utterance f e)
  | raised {g} (unread : f.asError = .error g) : Settled w utterance f (.error g) [] w

theorem settled_reportFailure (utterance : String) (f : Failure) (s : Session) :
    ∃ tale w, Settled s.workspace utterance f ((reportFailure utterance f).run s).1 tale w ∧
      ((reportFailure utterance f).run s).2 = { s with workspace := w } := by
  rw [reportFailure]
  cases read : f.asError with
  | ok e => exact ⟨_, _, .reported read, rfl⟩
  | error g => exact ⟨_, _, .raised read, rfl⟩

/-! ## Typing -/

/-- The event by which typing a text ends, and the session that it leaves. -/
inductive Wrote (s : Session) (text : String) : Event → Session → Prop
  | typed {w} (ran : (Act.act (.typeText text)).on s.workspace = (.ok (), w)) :
      Wrote s text (.textTyped text)
        { s with
          workspace := w.published (some .main) (.textTyped text)
          dictation := s.dictation.remember text }
  | refused {f e w} (ran : (Act.act (.typeText text)).on s.workspace = (.error f, w))
      (read : f.asError = .ok e) :
      Wrote s text (.failed "text_injection" text e.message)
        { s with
          workspace := (w.noted [.typingFailed]).published (some .main)
            (.failed "text_injection" text e.message) }

/-- A text is not typed, and of the failure no error can be made. -/
def Unwritten (w : Workspace) (text : String) (g : Failure) (w' : Workspace) : Prop :=
  ∃ f, (Act.act (.typeText text)).on w = (.error f, w') ∧ f.asError = .error g

/-- Typing for an utterance comes to its outcome or to what is raised. -/
theorem run_typeFor (utterance text : String) (o : Outcome) (s : Session) :
    (∃ e, s.Wrote text e ((typeFor utterance text o).run s).2 ∧
      ((typeFor utterance text o).run s).1 = .ok o) ∨
    ∃ g w tale w', Unwritten s.workspace text g w ∧
      Settled (w.noted [.typingFailed]) utterance g ((typeFor utterance text o).run s).1 tale w' ∧
      ((typeFor utterance text o).run s).2 = { s with workspace := w' } := by
  rw [typeFor, run_bind, typeOut, run_bind, run_perform]
  rcases ran : (Act.act (.typeText text)).on s.workspace with ⟨f | ⟨⟩, w⟩
  · dsimp only
    rw [run_bind]
    cases read : f.asError with
    | ok e => exact .inl ⟨_, .refused ran read, rfl⟩
    | error g =>
        obtain ⟨tale, w', settled, left⟩ :=
          settled_reportFailure utterance g { s with workspace := w.noted [.typingFailed] }
        exact .inr ⟨g, w, tale, w', ⟨f, ran, read⟩, settled, left⟩
  · exact .inl ⟨_, .typed ran, rfl⟩

/-! ## Utterances -/

/-- How a session reads an utterance, unless it is left with no word of it. -/
def read (s : Session) (utterance : String) : Option Processed :=
  let filtered := String.ofList (s.lexicon.significant utterance.toList)
  if filtered = "" then none else some (s.dictation.book.process filtered)

/-- The workspace in which it was told how an utterance was read. -/
def heard (s : Session) (utterance : String) (text : Option String) (word : Option CommandWord) :
    Workspace :=
  s.workspace.published (some .main) (.textProcessed utterance text word)

/-- The text that is typed once the commands were given a text, if there is one: what the command
that was carried out gave, or else the text itself where all is typed that no command takes. -/
def typing? (s : Session) (text : String) (r : DispatchResult) : Option String :=
  if r.executed then r.output.filter (· ≠ "") else if s.commandOnly then none else some text

theorem typing?_executed {t text : String} {o : Option String} :
    s.typing? t ⟨o, true⟩ = some text ↔ o = some text ∧ text ≠ "" := by
  simp [typing?]

theorem typing?_foreign {t text : String} {o : Option String} :
    s.typing? t ⟨o, false⟩ = some text ↔ s.commandOnly = false ∧ t = text := by
  simp [typing?]

/-- The ways of an utterance: what comes of it, the events that are about it and the session that it
leaves. -/
inductive Came (s : Session) (utterance : String) :
    Except Failure Outcome → List Event → Session → Prop
  | unheard (read : s.read utterance = none) : Came s utterance (.ok .ignored) [] s
  | nothing (read : s.read utterance = some .nothing) :
      Came s utterance (.ok .ignored) [.textProcessed utterance none none]
        { s with workspace := s.heard utterance none none }
  | blank (read : s.read utterance = some (.text "")) :
      Came s utterance (.ok .ignored) [.textProcessed utterance (some "") none]
        { s with workspace := s.heard utterance (some "") none }
  | word {c w} (read : s.read utterance = some (.commandWord c))
      (ran : (wordAct s.dictation.lastLength c).on (s.heard utterance none (some c)) =
        (.ok (), w)) :
      Came s utterance (.ok (.commandWord c)) [.textProcessed utterance none (some c)]
        { s with
          workspace := w
          dictation := if c = .undoLast then s.dictation.remember "" else s.dictation }
  | wordFailed {c f w o tale w'} (read : s.read utterance = some (.commandWord c))
      (ran : (wordAct s.dictation.lastLength c).on (s.heard utterance none (some c)) =
        (.error f, w)) (settled : Settled w utterance f o tale w') :
      Came s utterance o (.textProcessed utterance none (some c) :: tale)
        { s with workspace := w' }
  | commandFailed {t f w o tale w'} (read : s.read utterance = some (.text t)) (full : t ≠ "")
      (ran : (s.registry.process t).on (s.heard utterance (some t) none) = (.error f, w))
      (settled : Settled w utterance f o tale w') :
      Came s utterance o (.textProcessed utterance (some t) none :: tale)
        { s with workspace := w' }
  | command {t o w} (read : s.read utterance = some (.text t)) (full : t ≠ "")
      (ran : (s.registry.process t).on (s.heard utterance (some t) none) = (.ok ⟨o, true⟩, w))
      (silent : o.getD "" = "") :
      Came s utterance (.ok (.command o)) [.textProcessed utterance (some t) none]
        { s with workspace := w }
  | output {t o w e s'} (read : s.read utterance = some (.text t)) (full : t ≠ "")
      (ran : (s.registry.process t).on (s.heard utterance (some t) none) = (.ok ⟨some o, true⟩, w))
      (wrote : { s with workspace := w }.Wrote o e s') :
      Came s utterance (.ok (.command (some o))) [.textProcessed utterance (some t) none, e] s'
  | unmatched {t o w} (read : s.read utterance = some (.text t)) (full : t ≠ "")
      (ran : (s.registry.process t).on (s.heard utterance (some t) none) = (.ok ⟨o, false⟩, w))
      (only : s.commandOnly = true) :
      Came s utterance (.ok (.unmatched t)) [.textProcessed utterance (some t) none]
        { s with workspace := w }
  | typed {t o w e s'} (read : s.read utterance = some (.text t)) (full : t ≠ "")
      (ran : (s.registry.process t).on (s.heard utterance (some t) none) = (.ok ⟨o, false⟩, w))
      (wrote : { s with workspace := w }.Wrote t e s') (free : s.commandOnly = false) :
      Came s utterance (.ok (.typed t)) [.textProcessed utterance (some t) none, e] s'
  | unwritten {t r w text g w₁ o tale w'} (read : s.read utterance = some (.text t)) (full : t ≠ "")
      (ran : (s.registry.process t).on (s.heard utterance (some t) none) = (.ok r, w))
      (typing : s.typing? t r = some text) (unwritten : Unwritten w text g w₁)
      (settled : Settled (w₁.noted [.typingFailed]) utterance g o tale w') :
      Came s utterance o (.textProcessed utterance (some t) none :: tale)
        { s with workspace := w' }

/-- Taking a text back makes the session forget it, unless that failed. -/
theorem run_runWord (c : CommandWord) (s : Session) :
    (runWord c).run s =
      let ran := (wordAct s.dictation.lastLength c).on s.workspace
      let dictation :=
        if c = .undoLast ∧ ran.1.isOk then s.dictation.remember "" else s.dictation
      (ran.1, { s with workspace := ran.2, dictation }) := by
  rw [runWord, run_bind, run_get]
  dsimp only
  rw [run_bind, run_perform]
  dsimp only
  generalize (wordAct s.dictation.lastLength c).on s.workspace = ran
  obtain ⟨outcome, w⟩ := ran
  cases c <;> cases outcome <;> rfl

theorem came_dispatch {utterance t : String} (read : s.read utterance = some (.text t))
    (full : t ≠ "") :
    let r := (dispatch utterance t).run { s with workspace := s.heard utterance (some t) none }
    ∃ tale, s.Came utterance r.1 tale r.2 := by
  dsimp only
  rw [dispatch, run_bind, run_get]
  dsimp only
  rw [run_bind, run_perform]
  dsimp only
  rcases ran : (s.registry.process t).on (s.heard utterance (some t) none) with
    ⟨f | ⟨o, executed⟩, w⟩
  · dsimp only
    obtain ⟨tale, w', settled, left⟩ := settled_reportFailure utterance f { s with workspace := w }
    rw [left]
    exact ⟨_, .commandFailed read full ran settled⟩
  · dsimp only
    cases executed with
    | true =>
        rw [if_pos rfl]
        by_cases silent : o.getD "" = ""
        · -- an empty output is not typed
          rw [if_pos silent]
          exact ⟨_, .command read full ran silent⟩
        · rw [if_neg silent]
          obtain ⟨o, rfl⟩ : ∃ text, o = some text := by
            cases o with
            | none => exact absurd rfl silent
            | some o => exact ⟨o, rfl⟩
          rcases run_typeFor utterance o (.command (some o)) { s with workspace := w } with
            ⟨e, wrote, ended⟩ | ⟨g, w₁, tale, w', unwritten, settled, left⟩
          · dsimp only [Option.getD_some]
            rw [ended]
            exact ⟨_, .output read full ran wrote⟩
          · dsimp only [Option.getD_some]
            rw [left]
            exact ⟨_, .unwritten read full ran (typing?_executed.2 ⟨rfl, silent⟩) unwritten
              settled⟩
    | false =>
        rw [if_neg Bool.false_ne_true]
        by_cases only : s.commandOnly = true
        · rw [if_pos only]
          exact ⟨_, .unmatched read full ran only⟩
        · rw [if_neg only]
          rcases run_typeFor utterance t (.typed t) { s with workspace := w } with
            ⟨e, wrote, ended⟩ | ⟨g, w₁, tale, w', unwritten, settled, left⟩
          · rw [ended]
            exact ⟨_, .typed read full ran wrote (Bool.eq_false_iff.2 only)⟩
          · rw [left]
            exact ⟨_, .unwritten read full ran
              (typing?_foreign.2 ⟨Bool.eq_false_iff.2 only, rfl⟩) unwritten settled⟩

/-- Every utterance takes one of the ways. -/
theorem came_processText (s : Session) (utterance : String) :
    let r := (processText utterance).run s
    ∃ tale, s.Came utterance r.1 tale r.2 := by
  dsimp only
  rw [processText, run_bind, run_get]
  dsimp only
  by_cases silent : String.ofList (s.lexicon.significant utterance.toList) = ""
  · rw [if_pos silent]
    exact ⟨_, .unheard (if_pos silent)⟩
  rw [if_neg silent]
  have reads : s.read utterance =
      some (s.dictation.book.process (String.ofList (s.lexicon.significant utterance.toList))) :=
    if_neg silent
  generalize s.dictation.book.process (String.ofList (s.lexicon.significant utterance.toList)) =
    reading at reads ⊢
  cases reading with
  | nothing => exact ⟨_, .nothing reads⟩
  | commandWord c =>
      dsimp only
      rw [run_bind, run_publish]
      dsimp only
      rw [run_bind, run_runWord]
      dsimp only
      rcases ran : (wordAct s.dictation.lastLength c).on (s.heard utterance none (some c)) with
        ⟨f | ⟨⟩, w⟩ <;> rw [heard] at ran <;> rw [ran]
      · dsimp only
        rw [if_neg fun h => Bool.false_ne_true h.2]
        obtain ⟨tale, w', settled, left⟩ :=
          settled_reportFailure utterance f { s with workspace := w }
        rw [left]
        exact ⟨_, .wordFailed reads ran settled⟩
      · -- having succeeded, the command word is all that counts
        have taken : (c = .undoLast ∧ (Except.ok () : Except Failure Unit).isOk = true) =
            (c = .undoLast) := propext ⟨And.left, fun h => ⟨h, rfl⟩⟩
        simp only [taken]
        exact ⟨_, .word reads ran⟩
  | text t =>
      dsimp only
      rw [run_bind, run_publish]
      dsimp only
      by_cases blank : t = ""
      · subst blank
        exact ⟨_, .blank reads⟩
      · rw [if_neg blank]
        exact came_dispatch reads blank

end Session

/-! ## Runs -/

/-- What can happen to a session in progress: an utterance, a recording of some length with what
the transcriber makes of it, a request to the overlays or a step of one of their queues, the drawing
of all that is waiting, and a change of the world outside. -/
inductive Happening where
  | say (utterance : String)
  | hear (length : Nat) (transcriber : Option (Except Failure String))
  | move (m : Move)
  | flush
  | change (files : Files) (existing : Option (List String)) (environment : Environment)
      (now : Moment) (sources : Sources)

namespace Session

variable {s s' : Session}

/-- A session after a happening. -/
def next (s : Session) : Happening → Session
  | .say utterance => ((processText utterance).run s).2
  | .hear length transcriber => ((handleAudio length transcriber).run s).2
  | .move m =>
      let w := s.workspace
      { s with workspace := { w with overlays := w.overlays.after m }.hear (w.overlays.told m) }
  | .flush => (flush.run s).2
  | .change files existing environment now sources =>
      { s with workspace := { s.workspace with files, existing, environment, now, sources } }

/-- Whether a failure comes out of a happening. -/
def raises (s : Session) : Happening → Bool
  | .say utterance => !((processText utterance).run s).1.isOk
  | .hear length transcriber => !((handleAudio length transcriber).run s).1.isOk
  | _ => false

/-- A session after happenings. -/
def after (s : Session) (hs : List Happening) : Session := hs.foldl next s

@[simp] theorem after_nil (s : Session) : s.after [] = s := rfl

@[simp] theorem after_cons (s : Session) (h : Happening) (hs : List Happening) :
    s.after (h :: hs) = (s.next h).after hs := rfl

/-- What a happening can do: something besides, and then perhaps what an utterance does. The truth
value is whether a failure comes out of it, and the events are those that are about the utterance. -/
inductive Step (s : Session) : Bool → List Event → Session → Prop
  | aside {w} (raises : Bool) (before : s.workspace.Aside w) :
      Step s raises [] { s with workspace := w }
  | spoken {w utterance o tale s'} (before : s.workspace.Aside w)
      (came : { s with workspace := w }.Came utterance o tale s') : Step s (!o.isOk) tale s'

/-- Transcribing a recording is not about an utterance yet. -/
theorem aside_transcribe (s : Session) (length : Nat)
    (transcriber : Option (Except Failure String)) :
    ∃ w, s.workspace.Aside w ∧
      ((transcribe length transcriber).run s).2 = { s with workspace := w } := by
  unfold transcribe
  by_cases silent : length = 0
  · rw [if_pos silent]
    exact ⟨_, s.workspace.aside_noted [.noAudio], rfl⟩
  rw [if_neg silent]
  cases transcriber with
  | none => exact ⟨_, s.workspace.aside_noted [.noTranscriber], rfl⟩
  | some answer =>
      have started := s.workspace.aside_published (some .main)
        (e := .transcriptionStarted length) rfl
      cases answer with
      | ok text =>
          exact ⟨_, Workspace.lasting_aside.trans started (Workspace.aside_published _ (some .main)
            (e := .transcriptionCompleted (Text.trimText text)) rfl), rfl⟩
      | error f =>
          rw [run_bind]
          dsimp only
          cases f.asError with
          | ok e =>
              have noted := Workspace.lasting_aside.trans started
                (Workspace.aside_noted _ [.transcriptionFailed])
              exact ⟨_, Workspace.lasting_aside.trans noted (Workspace.aside_published _ (some .main)
                (e := .transcriptionFailed e.message) rfl), rfl⟩
          | error g => exact ⟨_, started, rfl⟩

theorem step_handleAudio (s : Session) (length : Nat)
    (transcriber : Option (Except Failure String)) :
    let r := (handleAudio length transcriber).run s
    ∃ tale, s.Step (!r.1.isOk) tale r.2 := by
  dsimp only
  obtain ⟨w, before, transcribed⟩ := s.aside_transcribe length transcriber
  rw [handleAudio, run_bind, transcribed]
  rcases ((transcribe length transcriber).run s).1 with f | text?
  · exact ⟨_, .aside _ before⟩
  · cases text? with
    | none => exact ⟨_, .aside _ before⟩
    | some text =>
        dsimp only
        by_cases blank : text = ""
        · rw [if_pos blank]
          exact ⟨_, .aside _ before⟩
        · rw [if_neg blank]
          obtain ⟨tale, came⟩ := came_processText { s with workspace := w } text
          exact ⟨tale, .spoken before came⟩

/-- Whatever happens is such a step. -/
theorem step_next (s : Session) (h : Happening) :
    ∃ tale, s.Step (s.raises h) tale (s.next h) := by
  cases h with
  | say utterance =>
      obtain ⟨tale, came⟩ := came_processText s utterance
      exact ⟨tale, .spoken (Workspace.lasting_aside.refl _) came⟩
  | hear length transcriber => exact s.step_handleAudio length transcriber
  | move m =>
      have heard := Workspace.aside_hear (s.workspace.overlays.events_told m)
        { s.workspace with overlays := s.workspace.overlays.after m }
      exact ⟨_, .aside _ ⟨⟨heard.listening, heard.events⟩, heard.desktop,
        (.after trivial .still : s.workspace.overlays.Went _).trans heard.overlays, heard.reach⟩⟩
  | flush =>
      let drawn := s.workspace.overlays.flush s.workspace.sources
      have silent : ∀ e ∈ Signal.events drawn.2, e.isLifecycle = true := by
        simp [drawn, Coordinator.events_flush]
      have heard := Workspace.aside_hear silent { s.workspace with overlays := drawn.1 }
      have went := (s.workspace.overlays.drew_flush s.workspace.sources).went
      exact ⟨_, .aside _ ⟨⟨heard.listening, heard.events⟩, heard.desktop, went.trans heard.overlays,
        heard.reach⟩⟩
  | change files existing environment now sources =>
      exact ⟨_, .aside _ ⟨Workspace.tells_of_silent rfl rfl, rfl, .still, rfl⟩⟩

/-! ## What lasts -/

theorem composed_wordAct {types : String → Prop} (n : Nat) (c : CommandWord) :
    (wordAct n c).Composed types := by
  cases c with
  | undoLast =>
      induction n with
      | zero => exact Act.composed_pure _
      | succ n ih => exact (Act.Composed.tap _).bind fun _ => ih
  | clearLine =>
      exact (Act.Composed.tap _).bind fun _ => (Act.composed_pressCombo _ _).bind fun _ => .tap _

/-- Whatever a session dispatches a text to is put together from what commands do. -/
def Able (types : String → Prop) (s : Session) : Prop :=
  ∀ t, (s.registry.process t).Composed types

/-- A relation between workspaces that nothing breaks: neither what commands do nor what is
published about an utterance. -/
structure Respected (R : Workspace → Workspace → Prop) : Prop where
  lasting : Workspace.Lasting R
  aside : ∀ {w w'}, Workspace.Aside w w' → R w w'
  published : ∀ w e, R w (w.published (some .main) e)
  act : ∀ {α : Type} {x : Act α}, x.Composed (fun _ => True) → x.Within R

section Parts

variable {R : Workspace → Workspace → Prop} {utterance : String} {o : Except Failure Outcome}
  {tale : List Event}

/-- A relation that is kept by what is written down and by typing. -/
structure Typist (R : Workspace → Workspace → Prop) : Prop where
  lasting : Workspace.Lasting R
  noted : ∀ w ns, R w (w.noted ns)
  published : ∀ w e, R w (w.published (some .main) e)
  type : ∀ text, (Act.act (.typeText text)).Within R

theorem Settled.keeps {w w' : Workspace} {f : Failure} (h : Settled w utterance f o tale w')
    (kept : Typist R) : R w w' := by
  cases h with
  | reported => exact kept.lasting.trans (kept.noted w _) (kept.published _ _)
  | raised => exact kept.lasting.refl w

theorem Unwritten.keeps {w w' : Workspace} {text : String} {g : Failure}
    (h : Unwritten w text g w') (kept : Typist R) : R w (w'.noted [.typingFailed]) := by
  obtain ⟨f, ran, -⟩ := h
  have type := kept.type text w
  rw [ran] at type
  exact kept.lasting.trans type (kept.noted _ _)

theorem Wrote.keeps {text : String} {e : Event} (h : s.Wrote text e s') (kept : Typist R) :
    R s.workspace s'.workspace := by
  have type := kept.type text s.workspace
  cases h with
  | typed ran =>
      rw [ran] at type
      exact kept.lasting.trans type (kept.published _ _)
  | refused ran =>
      rw [ran] at type
      have noted := kept.lasting.trans type (kept.noted _ [.typingFailed])
      exact kept.lasting.trans noted (kept.published _ _)

/-- The way of an utterance keeps what its parts keep. -/
theorem Came.keeps (h : s.Came utterance o tale s') (kept : Typist R)
    (word : ∀ n c, (wordAct n c).Within R)
    (process : ∀ t, s.read utterance = some (.text t) → t ≠ "" →
      (s.registry.process t).Within R) : R s.workspace s'.workspace := by
  have word {c r w} (ran : (wordAct s.dictation.lastLength c).on (s.heard utterance none (some c)) =
      (r, w)) : R s.workspace w := by
    have did := word s.dictation.lastLength c (s.heard utterance none (some c))
    rw [ran] at did
    exact kept.lasting.trans (kept.published _ _) did
  have command {t r w} (read : s.read utterance = some (.text t)) (full : t ≠ "")
      (ran : (s.registry.process t).on (s.heard utterance (some t) none) = (r, w)) :
      R s.workspace w := by
    have did := process t read full (s.heard utterance (some t) none)
    rw [ran] at did
    exact kept.lasting.trans (kept.published _ _) did
  cases h with
  | unheard _ => exact kept.lasting.refl _
  | nothing _ | blank _ => exact kept.published _ _
  | word _ ran => exact word ran
  | wordFailed _ ran settled => exact kept.lasting.trans (word ran) (settled.keeps kept)
  | commandFailed read full ran settled =>
      exact kept.lasting.trans (command read full ran) (settled.keeps kept)
  | command read full ran | unmatched read full ran => exact command read full ran
  | output read full ran wrote | typed read full ran wrote =>
      exact kept.lasting.trans (command read full ran) (wrote.keeps kept)
  | unwritten read full ran _ unwritten settled =>
      have typed := kept.lasting.trans (command read full ran) (unwritten.keeps kept)
      exact kept.lasting.trans typed (settled.keeps kept)

end Parts

section Respected

variable {R : Workspace → Workspace → Prop} {utterance : String} {o : Except Failure Outcome}
  {tale : List Event}

theorem Respected.typist (kept : Respected R) : Typist R where
  lasting := kept.lasting
  noted w ns := kept.aside (w.aside_noted ns)
  published := kept.published
  type _ := kept.act (Act.composed_act rfl fun _ _ => trivial)

theorem Came.within (h : s.Came utterance o tale s') (kept : Respected R)
    (able : s.Able fun _ => True) : R s.workspace s'.workspace :=
  h.keeps kept.typist (fun n c => kept.act (composed_wordAct n c)) fun t _ _ => kept.act (able t)

theorem Step.within {raises : Bool} (h : s.Step raises tale s') (kept : Respected R) (able : s.Able fun _ => True) :
    R s.workspace s'.workspace := by
  cases h with
  | aside _ before => exact kept.aside before
  | spoken before came => exact kept.lasting.trans (kept.aside before) (came.within kept able)

end Respected

/-! ## What is told -/

section Telling

variable {utterance : String} {o : Except Failure Outcome} {tale : List Event}

theorem Settled.tells {w w' : Workspace} {f : Failure} (h : Settled w utterance f o tale w')
    (listening : w.journal.listening = true) : w.Tells tale w' := by
  cases h with
  | reported =>
      have noted :=
        (w.aside_noted [if f.isExecution then .commandFailed else .processingFailed]).toTells
      exact noted.trans (Workspace.tells_published (noted.listening.trans listening) rfl)
  | raised => exact Workspace.lasting_tells.refl w

theorem Unwritten.tells {w w' : Workspace} {text : String} {g : Failure}
    (h : Unwritten w text g w') : w.Tells [] (w'.noted [.typingFailed]) := by
  obtain ⟨f, ran, -⟩ := h
  have type := (Act.composed_act rfl fun _ _ => trivial :
    (Act.act (.typeText text)).Composed fun _ => True).tells w
  rw [ran] at type
  exact type.trans (w'.aside_noted [.typingFailed]).toTells

theorem Wrote.tells {text : String} {e : Event} (h : s.Wrote text e s')
    (listening : s.workspace.journal.listening = true) : s.workspace.Tells [e] s'.workspace := by
  have type := (Act.composed_act rfl fun _ _ => trivial :
    (Act.act (.typeText text)).Composed fun _ => True).tells s.workspace
  cases h with
  | typed ran =>
      rw [ran] at type
      exact type.trans (Workspace.tells_published (type.listening.trans listening) rfl)
  | refused ran =>
      rw [ran] at type
      have noted := type.trans (Workspace.aside_noted _ [.typingFailed]).toTells
      exact noted.trans (Workspace.tells_published (noted.listening.trans listening) rfl)

/-- Of all that is published on the way of an utterance, its tale is what is about it. -/
theorem Came.tells (h : s.Came utterance o tale s')
    (listening : s.workspace.journal.listening = true) (able : s.Able fun _ => True) :
    s.workspace.Tells tale s'.workspace := by
  have word {c r w} (ran : (wordAct s.dictation.lastLength c).on (s.heard utterance none (some c)) =
      (r, w)) : s.workspace.Tells [.textProcessed utterance none (some c)] w := by
    have spoken : (wordAct s.dictation.lastLength c).Composed fun _ => True :=
      composed_wordAct _ _
    have did := spoken.tells (s.heard utterance none (some c))
    rw [ran] at did
    exact (Workspace.tells_published listening rfl).trans did
  have command {t r w} (ran : (s.registry.process t).on (s.heard utterance (some t) none) =
      (r, w)) : s.workspace.Tells [.textProcessed utterance (some t) none] w := by
    have did := (able t).tells (s.heard utterance (some t) none)
    rw [ran] at did
    exact (Workspace.tells_published listening rfl).trans did
  cases h with
  | unheard _ => exact Workspace.lasting_tells.refl _
  | nothing _ | blank _ => exact Workspace.tells_published listening rfl
  | word _ ran => exact word ran
  | wordFailed _ ran settled =>
      exact (word ran).trans (settled.tells ((word ran).listening.trans listening))
  | commandFailed _ _ ran settled =>
      exact (command ran).trans (settled.tells ((command ran).listening.trans listening))
  | command _ _ ran | unmatched _ _ ran => exact command ran
  | output _ _ ran wrote | typed _ _ ran wrote =>
      exact (command ran).trans (wrote.tells ((command ran).listening.trans listening))
  | unwritten _ _ ran _ unwritten settled =>
      have typed := (command ran).trans unwritten.tells
      exact typed.trans (settled.tells (typed.listening.trans listening))

theorem Step.tells {raises : Bool} (h : s.Step raises tale s') (listening : s.workspace.journal.listening = true)
    (able : ∀ t, (s.registry.process t).Composed fun _ => True) :
    s.workspace.Tells tale s'.workspace := by
  cases h with
  | aside _ before => exact before.toTells
  | spoken before came =>
      exact before.toTells.trans (came.tells (before.listening.trans listening) able)

end Telling

/-! ## Sessions in progress -/

theorem Wrote.frame {text : String} {e : Event} (h : s.Wrote text e s') :
    s' = { s with workspace := s'.workspace, dictation := s'.dictation } := by
  cases h <;> rfl

theorem Came.frame {utterance : String} {o : Except Failure Outcome} {tale : List Event}
    (h : s.Came utterance o tale s') :
    s' = { s with workspace := s'.workspace, dictation := s'.dictation } := by
  cases h with
  | output _ _ _ wrote | typed _ _ _ wrote => exact wrote.frame
  | _ => rfl

/-- Nothing of a session ever changes but its workspace and its memory of what was typed. -/
theorem Step.frame {raises : Bool} {tale : List Event} (h : s.Step raises tale s') :
    s' = { s with workspace := s'.workspace, dictation := s'.dictation } := by
  cases h with
  | aside => rfl
  | spoken _ came => exact came.frame

/-- A session in progress that was built as `u` says. -/
structure Underway (u : SessionSetup) (s : Session) : Prop where
  registry : s.registry = u.start.registry
  listening : s.workspace.journal.listening = true
  refuses : s.workspace.desktop.refuses = u.refuses

/-- Nobody stops listening, and what is refused is settled beforehand. -/
def Steady (w w' : Workspace) : Prop :=
  w'.journal.listening = w.journal.listening ∧ w'.desktop.refuses = w.desktop.refuses

theorem lasting_steady : Workspace.Lasting Steady where
  refl _ := ⟨rfl, rfl⟩
  trans h h' := ⟨h'.1.trans h.1, h'.2.trans h.2⟩

theorem respected_steady : Respected Steady where
  lasting := lasting_steady
  aside h := ⟨h.listening, congrArg Desktop.refuses h.desktop⟩
  published w e := ⟨w.journal.listening_publish .main e, rfl⟩
  act composed := by
    refine composed.within_of_call lasting_steady
      (fun h => ⟨h.listening, congrArg Desktop.refuses h.desktop⟩) fun c _ w => ?_
    rw [Act.on_call]
    exact ⟨rfl, w.desktop.refuses_call c⟩

end Session

/-- Whether a command of the user's types a text. -/
def SessionSetup.types (u : SessionSetup) (text : String) : Prop :=
  ∃ d ∈ (Command.definitions u.settings.custom).1, d.action = .typeText text

/-- The commands of a session are the user's and those built in. -/
theorem SessionSetup.forall_registry {u : SessionSetup} {P : Command → Prop}
    (builtins : ∀ o, ∀ c ∈ Command.builtins o, P c)
    (customs : ∀ first lx, ∀ c ∈ (Command.customs first u.settings.custom lx).1, P c) :
    ∀ c ∈ u.start.registry.commands, P c := by
  intro c hc
  rcases Registry.mem_registerAll.1 hc with nowhere | mem
  · exact absurd nowhere List.not_mem_nil
  · rcases List.mem_append.1 mem with custom | own
    · exact customs _ _ c custom
    · exact builtins _ c own

/-- The commands of a session are put together from what commands do, and they type what the user's
own commands were defined with. -/
theorem SessionSetup.composed_registry {u : SessionSetup} {types : String → Prop}
    (typed : ∀ t, u.types t → types t) : ∀ c ∈ u.start.registry.commands, c.Composed types :=
  forall_registry Command.composed_builtins fun first lx =>
    Command.composed_customs first lx fun d hd t ht => typed t ⟨d, hd, ht⟩

namespace Session

/-- The overlays are asked and drawn at most, and what commands have at their disposal is settled
beforehand. -/
def Ranging (w w' : Workspace) : Prop := w.overlays.Went w'.overlays ∧ w'.reach = w.reach

theorem lasting_ranging : Workspace.Lasting Ranging where
  refl _ := ⟨.still, rfl⟩
  trans h h' := ⟨h.1.trans h'.1, h'.2.trans h.2⟩

theorem respected_ranging : Respected Ranging where
  lasting := lasting_ranging
  aside h := ⟨h.overlays, h.reach⟩
  published _ _ := ⟨.still, rfl⟩
  act composed := by
    refine composed.within_of_call lasting_ranging (fun h => ⟨h.overlays, h.reach⟩) fun c _ w => ?_
    rw [Act.on_call]
    exact ⟨.still, rfl⟩

variable {s s' : Session} {u : SessionSetup} {raises : Bool} {tale : List Event}

theorem underway_start (u : SessionSetup) : Underway u u.start := ⟨rfl, rfl, rfl⟩

theorem Underway.able (h : Underway u s) {types : String → Prop}
    (typed : ∀ t, u.types t → types t) : s.Able types := by
  intro t
  rw [h.registry]
  exact Registry.composed_process (SessionSetup.composed_registry typed) t true

theorem Underway.step (h : Underway u s) (step : s.Step raises tale s') : Underway u s' := by
  have steady := step.within respected_steady (h.able fun _ _ => trivial)
  have same : s'.registry = s.registry := by rw [step.frame]
  exact ⟨same.trans h.registry, steady.1.trans h.listening, steady.2.trans h.refuses⟩

/-- Whatever happens, a session stays in progress, and what nothing breaks holds from its beginning
to its end. -/
theorem Underway.after {R : Workspace → Workspace → Prop} (h : Underway u s) (kept : Respected R)
    (hs : List Happening) : Underway u (s.after hs) ∧ R s.workspace (s.after hs).workspace := by
  -- what is dispatched to, and so what keeps the relation, is known at every step
  induction hs generalizing s with
  | nil => exact ⟨h, kept.lasting.refl _⟩
  | cons happening hs ih =>
      obtain ⟨tale, step⟩ := s.step_next happening
      obtain ⟨underway, later⟩ := ih (h.step step)
      have now := step.within kept (h.able fun _ _ => trivial)
      exact ⟨underway, kept.lasting.trans now later⟩

theorem underway_after (u : SessionSetup) (hs : List Happening) : Underway u (u.start.after hs) :=
  ((underway_start u).after respected_steady hs).1

/-- Whatever happens to a session, its overlays only ever made moves. -/
theorem ranging_after (u : SessionSetup) (hs : List Happening) :
    Ranging u.start.workspace (u.start.after hs).workspace :=
  ((underway_start u).after respected_ranging hs).2

end Session

end VoiceControl
