import VoiceControl.Proofs.Session.Restraint
import VoiceControl.Proofs.Text.LowerCase

/-!
# Words that mean nothing

Before anything else is done for an utterance, the words that mean nothing are dropped. What is done
then goes by the words that remain; how the utterance was spoken is only told. So two utterances
that differ in such words come to the same.

* `Padded`: a list of words with further words put in.
* `Session.Joint`: two ways of speaking that come to the same, run side by side.
* `SessionSetup.polite_words_inert`: an utterance with polite words in it comes to what it comes to
  without them.
-/

namespace VoiceControl

open VoiceControl.Text

/-! ## Side by side -/

namespace Session

variable {α β : Type}

/-- Two sessions differ in their journals at most, and these tell the same but for the words in
which utterances were spoken. -/
def Alike (s s' : Session) : Prop :=
  ∃ journal, s.workspace.journal.Alike journal ∧
    s' = { s with workspace := { s.workspace with journal } }

/-- Two sessions that are alike and whose commands do what commands do. -/
structure Twins (s s' : Session) : Prop where
  alike : s.Alike s'
  able : s.Able fun _ => True

/-- Run side by side, both give the same and leave sessions that are alike. -/
def Joint (x y : Speak α) : Prop :=
  ∀ s s' : Session, s.Twins s' →
    (y.run s').1 = (x.run s).1 ∧ (x.run s).2.Twins (y.run s').2

variable {s s' : Session}

theorem Alike.workspace (h : s.Alike s') : s.workspace.Alike s'.workspace := by
  obtain ⟨j, journal, rfl⟩ := h
  exact ⟨j, journal, rfl⟩

/-- Two sessions that are alike remain so as long as their workspaces do. -/
theorem Twins.moved (h : s.Twins s') {w w' : Workspace} (alike : w.Alike w') :
    { s with workspace := w }.Twins { s' with workspace := w' } := by
  obtain ⟨⟨_, _, rfl⟩, able⟩ := h
  obtain ⟨j, journal, rfl⟩ := alike
  exact ⟨⟨j, journal, rfl⟩, able⟩

theorem joint_pure (a : α) : Joint (pure a) (pure a) := fun _ _ twins => ⟨rfl, twins⟩

theorem Joint.bind {x y : Speak α} {f g : α → Speak β} (first : Joint x y)
    (next : ∀ a, Joint (f a) (g a)) : Joint (x >>= f) (y >>= g) := by
  intro s s' twins
  obtain ⟨value, after⟩ := first s s' twins
  rw [run_bind, run_bind, value]
  exact next _ _ _ after

theorem Joint.reading {f g : Session → Speak α}
    (each : ∀ s s' : Session, s.Twins s' → Joint (f s) (g s')) :
    Joint (get >>= f) (get >>= g) := fun s s' twins => each s s' twins s s' twins

/-- An act does not look at the journal. -/
theorem joint_perform {x : Act α} (composed : x.Composed fun _ => True) :
    Joint (perform x) (perform x) := by
  intro s s' twins
  obtain ⟨outcome, after⟩ := composed.blind _ _ twins.alike.workspace
  rw [run_perform, run_perform]
  exact ⟨outcome, twins.moved after⟩

theorem joint_publish {e e' : Event} (same : e'.unheard = e.unheard) :
    Joint (publish e) (publish e') := by
  intro s s' twins
  rw [run_publish, run_publish]
  exact ⟨rfl, twins.moved (twins.alike.workspace.published _ same)⟩

theorem joint_note (n : Notice) : Joint (note n) (note n) :=
  (joint_perform (Act.composed_note n)).bind fun _ => joint_pure ()

theorem joint_remember (text : String) : Joint (remember text) (remember text) := by
  rintro s s' ⟨⟨j, journal, rfl⟩, able⟩
  exact ⟨rfl, ⟨j, journal, rfl⟩, able⟩

/-! ## The way of an utterance -/

/-- The words in which an utterance was spoken are told with its failure and matter to nothing. -/
theorem joint_reportFailure (x y : String) (f : Failure) :
    Joint (reportFailure x f) (reportFailure y f) := by
  have told (error : String) : Joint (publish (.failed "text_processing" x error))
      (publish (.failed "text_processing" y error)) := joint_publish rfl
  unfold reportFailure
  cases f.asError with
  | ok e => exact (joint_note _).bind fun _ => (told _).bind fun _ => joint_pure _
  | error g => exact joint_pure _

theorem joint_typeOut (text : String) : Joint (typeOut text) (typeOut text) := by
  refine (joint_perform (Act.composed_act rfl fun _ _ => trivial)).bind fun outcome => ?_
  cases outcome with
  | ok _ =>
      exact (joint_remember text).bind fun _ => (joint_publish rfl).bind fun _ => joint_pure _
  | error f =>
      refine (joint_note _).bind fun _ => ?_
      cases f.asError with
      | ok e => exact (joint_publish rfl).bind fun _ => joint_pure _
      | error g => exact joint_pure _

theorem joint_typeFor (x y text : String) (o : Outcome) :
    Joint (typeFor x text o) (typeFor y text o) := by
  refine (joint_typeOut text).bind fun outcome => ?_
  cases outcome with
  | ok _ => exact joint_pure _
  | error f => exact joint_reportFailure x y f

theorem joint_runWord (c : CommandWord) : Joint (runWord c) (runWord c) := by
  refine .reading fun s s' twins => ?_
  obtain ⟨⟨j, -, rfl⟩, -⟩ := twins
  refine (joint_perform (composed_wordAct _ c)).bind fun outcome => ?_
  split
  · exact (joint_remember "").bind fun _ => joint_pure outcome
  · exact joint_pure outcome

theorem joint_dispatch (x y text : String) : Joint (dispatch x text) (dispatch y text) := by
  refine .reading fun s s' twins => ?_
  obtain ⟨⟨j, -, rfl⟩, able⟩ := twins
  refine (joint_perform (able text)).bind fun outcome => ?_
  cases outcome with
  | error f => exact joint_reportFailure x y f
  | ok r =>
      dsimp only
      split
      · -- only an output that is not empty is typed
        split
        · exact joint_pure _
        · exact joint_typeFor x y _ _
      · split
        · exact joint_pure _
        · exact joint_typeFor x y text _

/-- What is done about an utterance once it was read. -/
def obey (utterance : String) : Option Processed → Speak (Except Failure Outcome)
  | none => return .ok .ignored
  | some .nothing => do
      publish (.textProcessed utterance none none)
      return .ok .ignored
  | some (.commandWord w) => do
      publish (.textProcessed utterance none (some w))
      match ← runWord w with
      | .ok () => return .ok (.commandWord w)
      | .error f => reportFailure utterance f
  | some (.text t) => do
      publish (.textProcessed utterance (some t) none)
      if t = "" then return .ok .ignored
      dispatch utterance t

theorem run_processText_obey (utterance : String) (s : Session) :
    (processText utterance).run s = (obey utterance (s.read utterance)).run s := by
  rw [processText, run_bind, run_get, read]
  dsimp only
  split
  · rfl
  · cases s.dictation.book.process (String.ofList (s.lexicon.significant utterance.toList)) <;> rfl

theorem joint_obey (x y : String) (reading : Option Processed) :
    Joint (obey x reading) (obey y reading) := by
  have told (processed : Option String) (word : Option CommandWord) :
      Joint (publish (.textProcessed x processed word))
        (publish (.textProcessed y processed word)) :=
    joint_publish rfl
  rcases reading with _ | _ | w | t
  · exact joint_pure _
  · exact (told _ _).bind fun _ => joint_pure _
  · refine (told _ _).bind fun _ => (joint_runWord _).bind fun outcome => ?_
    cases outcome with
    | ok _ => exact joint_pure _
    | error f => exact joint_reportFailure x y f
  · refine (told _ _).bind fun _ => ?_
    split
    · exact joint_pure _
    · exact joint_dispatch x y _

/-- Two utterances that are read alike come to the same. -/
theorem twins_of_read (twins : s.Twins s') {x y : String} (same : s.read y = s.read x) :
    ((processText y).run s').1 = ((processText x).run s).1 ∧
      ((processText x).run s).2.Twins ((processText y).run s').2 := by
  have reading : s'.read y = s.read x := by
    obtain ⟨⟨j, -, rfl⟩, -⟩ := twins
    exact same
  rw [run_processText_obey, run_processText_obey, reading]
  exact joint_obey x y (s.read x) s s' twins

/-- Two utterances of which the same remains come to the same. -/
theorem twins_processText (twins : s.Twins s') {x y : String}
    (same : s.lexicon.significant y.toList = s.lexicon.significant x.toList) :
    ((processText y).run s').1 = ((processText x).run s).1 ∧
      ((processText x).run s).2.Twins ((processText y).run s').2 := by
  refine twins_of_read twins ?_
  rw [read, read, same]

end Session

/-! ## Words put in -/

/-- A list of words has become another one by putting in words that `P` permits. -/
inductive Padded (P : List Char → Prop) : List (List Char) → List (List Char) → Prop
  | nil : Padded P [] []
  | keep {ws vs} (w : List Char) (rest : Padded P ws vs) : Padded P (w :: ws) (w :: vs)
  | insert {ws vs} {w : List Char} (permitted : P w) (rest : Padded P ws vs) : Padded P ws (w :: vs)

/-- Words that mean nothing leave no trace in what is significant. -/
theorem Padded.significant {P : List Char → Prop} {lx : Lexicon} {x y : List Char}
    (ignored : ∀ w, P w → lx.isIgnored w = true) (padded : Padded P (words x) (words y)) :
    lx.significant y = lx.significant x := by
  have kept {ws vs : List (List Char)} (h : Padded P ws vs) :
      vs.filter (fun w => !lx.isIgnored w) = ws.filter (fun w => !lx.isIgnored w) := by
    induction h with
    | nil => rfl
    | keep w _ ih => rw [List.filter_cons, List.filter_cons, ih]
    | insert permitted _ ih => rw [List.filter_cons_of_neg (by simp [ignored _ permitted]), ih]
  exact congrArg unwords (kept padded)

namespace SessionSetup

variable {u : SessionSetup} {s : Session}

/-- A word that is to be ignored: without marks at its ends and in lower case it is in the list of
such words, as it is written there or in lower case. -/
def Polite (u : SessionSetup) (word : List Char) : Prop :=
  let key := lowerText (String.ofList (trimBy Lexicon.isEdgeMark word))
  key ∈ u.settings.parser.ignoredWords ∨ key ∈ u.settings.parser.ignoredWords.map lowerText

theorem Polite.isIgnored {w : List Char} (polite : u.Polite w) :
    u.start.lexicon.isIgnored w = true := by
  have list : u.start.lexicon.ignored = u.settings.parser.ignoredWords.map lowerText := rfl
  have key : String.ofList (lower (trimBy Lexicon.isEdgeMark w)) =
      lowerText (String.ofList (trimBy Lexicon.isEdgeMark w)) := by
    rw [lowerText, String.toList_ofList]
  rw [Lexicon.isIgnored, list, key, List.contains_iff_mem]
  rcases polite with written | lowered
  · -- an entry that a word in lower case is equal to is in lower case itself
    exact List.mem_map.2 ⟨_, written, lowerText_lowerText _⟩
  · exact lowered

theorem Reaches.able (reached : u.Reaches s) : s.Able fun _ => True := by
  intro t
  rw [reached.frame]
  exact Registry.composed_process (composed_registry fun _ _ => trivial) t true

/-- Whatever state a session is in, polite words before, between and after the words of an
utterance make no difference to its outcome nor to anything that it does. Only in what is told about
the utterance itself they are heard. -/
theorem polite_words_inert (reached : u.Reaches s) {x y : String}
    (padded : Padded u.Polite (words x.toList) (words y.toList)) :
    let r := (Session.processText x).run s
    let r' := (Session.processText y).run s
    r'.1 = r.1 ∧ r.2.Alike r'.2 := by
  intro r r'
  have ignored : ∀ w, u.Polite w → s.lexicon.isIgnored w = true := by
    rw [reached.frame]
    exact fun w polite => polite.isIgnored
  have twins : s.Twins s := ⟨⟨_, s.workspace.journal.alike_refl, rfl⟩, reached.able⟩
  obtain ⟨outcome, after⟩ := Session.twins_processText twins (padded.significant ignored)
  exact ⟨outcome, after.alike⟩

/-- Asked as politely as can be, the second of two scrolls is the same scroll. -/
theorem polite_words_inert_scroll :
    let u : SessionSetup := {
      settings := { text := { punctuationCommands := false } }, platform := "linux"
      files := .empty "/work", environment := [], now := ⟨2024, 6, 7, 8, 9, 10⟩ }
    let s := u.start.next (.say "scroll up")
    let x := "scroll up"
    let y := "  Please, scroll THANK you! up"
    let r := (Session.processText x).run s
    let r' := (Session.processText y).run s
    u.Reaches s ∧ Padded u.Polite (words x.toList) (words y.toList) ∧
      (r.1 = .ok (.command none) ∧ r.2.workspace.desktop.actions.length = 2) ∧
      r'.1 = r.1 ∧ r.2.Alike r'.2 := by
  intro u s x y r r'
  have reached : u.Reaches s := .next _ .start
  have padded : Padded u.Polite (words x.toList) (words y.toList) := by
    have plain : words x.toList = ["scroll".toList, "up".toList] := by decide +kernel
    have polite : words y.toList = ["Please,".toList, "scroll".toList, "THANK".toList,
        "you!".toList, "up".toList] := by decide +kernel
    rw [plain, polite]
    exact .insert (.inl (by decide +kernel)) (.keep _ (.insert (.inl (by decide +kernel))
      (.insert (.inl (by decide +kernel)) (.keep _ .nil))))
  have scrolled : r.1 = .ok (.command none) := Outcome.of_toOption (by decide +kernel)
  exact ⟨reached, padded, ⟨scrolled, by decide +kernel⟩, polite_words_inert reached padded⟩

end SessionSetup

end VoiceControl
