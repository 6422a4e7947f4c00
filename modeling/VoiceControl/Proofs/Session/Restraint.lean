import VoiceControl.Proofs.Command.Outputs
import VoiceControl.Proofs.Session.Happenings

/-!
# Utterances that carry nothing out

An utterance may be ignored, it may be for no command, and the command that it is for may turn out
not to be valid. Whether a command is valid is found out by looking, so in all these cases nothing
is done: the journal says what was heard, and the rest of the session stays as it is. Where such an
utterance is typed, typing it is the only call that is made.

* `SessionSetup.Reaches`: the states that a session can get into.
* `Command.Discerns`: validating a command changes nothing; all commands of a session are so.
* `SessionSetup.futile_utterance_inert`: what becomes of the session.
-/

namespace VoiceControl

/-! ## Validating -/

/-- Validating a command changes nothing. -/
def Command.Discerns (c : Command) : Prop := ∀ text, (c.validate text).Within Eq

namespace Command

theorem discerns_builtins (o : BuiltinOptions) : ∀ c ∈ builtins o, c.Discerns := by
  unfold builtins numbered
  simp only [List.zipIdx_cons, List.zipIdx_nil, List.map_cons, List.map_nil, List.forall_mem_cons]
  and_intros
  all_goals first | exact fun _ _ => rfl | exact nofun

theorem discerns_custom (id : Nat) (d : CustomDefinition) (fuzzy : Option Lexicon) :
    (custom id d fuzzy).Discerns := by
  intro text w
  unfold custom
  dsimp only
  split
  · rfl
  · rfl

theorem discerns_customs (first : Nat) (s : CustomSettings) (lx : Option Lexicon) :
    ∀ c ∈ (customs first s lx).1, c.Discerns := by
  intro c hc
  obtain ⟨⟨d, i⟩, -, rfl⟩ := List.mem_map.1 hc
  exact discerns_custom _ _ _

end Command

theorem SessionSetup.discerns_registry (u : SessionSetup) :
    ∀ c ∈ u.start.registry.commands, c.Discerns :=
  forall_registry Command.discerns_builtins fun first lx => Command.discerns_customs first _ lx

/-- A dispatch that carries nothing out leaves its mark in the journal only, and so does one that
comes to a text. -/
theorem Registry.unmoved_process {r : Registry} (discerns : ∀ c ∈ r.commands, c.Discerns)
    {text : String} {enabledOnly executed : Bool} {w w' : Workspace} {output : Option String}
    (idle : executed = true → output ≠ none ∧ ∀ c ∈ r.commands, c.Conveys)
    (ran : (r.process text enabledOnly).on w = (.ok ⟨output, executed⟩, w')) :
    w.Unmoved w' := by
  have noted := w.unmoved_noted (r.findMatching text enabledOnly).2
  rw [on_process] at ran
  cases found : (r.findMatching text enabledOnly).1 with
  | none =>
      rw [found] at ran
      exact (Prod.mk.inj ran).2 ▸ noted
  | some c =>
      rw [found] at ran
      generalize w.noted (r.findMatching text enabledOnly).2 = w₁ at noted ran
      obtain ⟨last, result, w₂, ends, -, dispatched⟩ | ⟨g, w₂, -, dispatched⟩ :=
        dispatch_concludes (w.reach.dispatch.or w.reach.events) c text w₁
      case inr => cases (Prod.mk.inj (dispatched.symm.trans ran)).1
      obtain ⟨value, rfl⟩ := Prod.mk.inj (dispatched.symm.trans ran)
      have mem : c ∈ r.commands := by
        rw [findMatching_fst] at found
        exact List.mem_of_find?_eq_some found
      have told := w₁.unmoved_published (w.reach.dispatch.or w.reach.events)
        (.commandDetected c.name text c.priority)
      have checked : w.Unmoved (c.turn text (w.reach.dispatch.or w.reach.events) w₁).checked := by
        have seen := discerns c mem text (w₁.published (w.reach.dispatch.or w.reach.events)
          (.commandDetected c.name text c.priority))
        rw [seen] at told
        exact Workspace.lasting_unmoved.trans noted told
      refine Workspace.lasting_unmoved.trans ?_ (w₂.unmoved_published _ last)
      cases ends with
      | failed | crashed => cases value
      | executed _ gave =>
          cases value
          obtain ⟨given, conveys⟩ := idle rfl
          obtain ⟨o, rfl⟩ := Option.ne_none_iff_exists'.1 given
          exact Workspace.lasting_unmoved.trans checked
            (conveys c mem text _ o _ (Prod.ext gave rfl))
      | refused => exact checked
      | unclear =>
          exact Workspace.lasting_unmoved.trans checked (Workspace.unmoved_noted _ _)

/-! ## Utterances -/

namespace Session

variable {s s' : Session} {utterance : String} {o : Except Failure Outcome} {tale : List Event}

/-- Nothing of a session has changed but the journal. -/
def Unmoved (s s' : Session) : Prop :=
  ∃ journal, s' = { s with workspace := { s.workspace with journal } }

theorem unmoved_of_workspace {w : Workspace} (h : s.workspace.Unmoved w) :
    s.Unmoved { s with workspace := w } := by
  obtain ⟨j, rfl⟩ := h
  exact ⟨j, rfl⟩

/-- A text was given to the keyboard, and nothing else was called or has changed. The text is
remembered if the keyboard took it. -/
structure Typed (s : Session) (text : String) (s' : Session) : Prop where
  calls : s'.workspace.desktop.calls = .act (.typeText text) :: s.workspace.desktop.calls
  workspace : ∃ journal, s'.workspace =
    { s.workspace with desktop := (s.workspace.desktop.call (.act (.typeText text))).2, journal }
  dictation : s'.dictation =
    if (s.workspace.desktop.call (.act (.typeText text))).1.isOk then s.dictation.remember text
    else s.dictation

/-- An utterance for which nothing is carried out, or a text is given, goes no further than the
dispatch. -/
theorem unmoved_dispatch (discerns : ∀ c ∈ s.registry.commands, c.Discerns) {t : String}
    {output : Option String} {executed : Bool} {w : Workspace}
    (idle : executed = true → output ≠ none ∧ ∀ c ∈ s.registry.commands, c.Conveys)
    (ran : (s.registry.process t).on (s.heard utterance (some t) none) =
      (.ok ⟨output, executed⟩, w)) : s.workspace.Unmoved w :=
  Workspace.lasting_unmoved.trans (s.workspace.unmoved_published _ _)
    (Registry.unmoved_process discerns idle ran)

theorem Came.unmoved (h : s.Came utterance o tale s')
    (discerns : ∀ c ∈ s.registry.commands, c.Discerns)
    (futile : o = .ok .ignored ∨ ∃ t, o = .ok (.unmatched t)) : s.Unmoved s' := by
  cases h with
  | unheard => exact ⟨s.workspace.journal, rfl⟩
  | nothing | blank => exact unmoved_of_workspace (s.workspace.unmoved_published _ _)
  | unmatched _ _ ran =>
      exact unmoved_of_workspace (unmoved_dispatch discerns (fun carried => by cases carried) ran)
  | wordFailed _ _ settled | commandFailed _ _ _ settled | unwritten _ _ _ _ _ settled =>
      cases settled <;> simp at futile
  | _ => simp at futile

theorem Wrote.typed_of_unmoved {text : String} {e : Event} {w : Workspace}
    (h : { s with workspace := w }.Wrote text e s') (before : s.workspace.Unmoved w) :
    s.Typed text s' := by
  obtain ⟨j, rfl⟩ := before
  cases h with
  | typed ran | refused ran =>
      rw [Act.act, Act.on_call] at ran
      obtain ⟨value, rfl⟩ := Prod.mk.inj ran
      exact ⟨Desktop.calls_call _ _, ⟨_, rfl⟩, by simp [value, Except.isOk, Except.toBool]⟩

theorem Came.typed_of_outcome {t : String} (h : s.Came utterance (.ok (.typed t)) tale s')
    (discerns : ∀ c ∈ s.registry.commands, c.Discerns) :
    s.commandOnly = false ∧ s.Typed t s' := by
  cases h with
  | typed _ _ ran wrote free =>
      have idle := unmoved_dispatch discerns (fun carried => by cases carried) ran
      exact ⟨free, wrote.typed_of_unmoved idle⟩
  | wordFailed _ _ settled | commandFailed _ _ _ settled | unwritten _ _ _ _ _ settled =>
      cases settled

/-- A text that no command takes is not carried out, and not typed where only commands are. -/
theorem Came.outcome_of_unmatched {t : String} (h : s.Came utterance o tale s')
    (only : s.commandOnly = true) (read : s.read utterance = some (.text t))
    (foreign : (s.registry.findMatching t).1 = none) :
    o = .ok .ignored ∨ o = .ok (.unmatched t) := by
  have nothing {t' r w} (read' : s.read utterance = some (.text t'))
      (ran : (s.registry.process t').on (s.heard utterance (some t') none) = (r, w)) :
      t' = t ∧ r = .ok .nothing := by
    obtain rfl : t' = t := by simpa [read] using read'.symm
    rw [Registry.on_process, foreign] at ran
    exact ⟨rfl, (Prod.mk.inj ran).1.symm⟩
  cases h with
  | unheard | nothing | blank => exact .inl rfl
  | word read' | wordFailed read' =>
      rw [read] at read'
      cases read'
  | commandFailed read' _ ran | command read' _ ran | output read' _ ran =>
      cases (nothing read' ran).2
  | unmatched read' _ ran => exact .inr (by rw [(nothing read' ran).1])
  | typed _ _ _ _ free => cases only.symm.trans free
  | unwritten read' _ ran typing =>
      obtain rfl := Except.ok.inj (nothing read' ran).2
      cases only.symm.trans (typing?_foreign.1 typing).1

end Session

/-! ## Sessions in any state -/

/-- The states that a session built as `u` says can get into. Its memory can be set from outside,
and it can be spoken to even after its end. -/
inductive SessionSetup.Reaches (u : SessionSetup) : Session → Prop
  | start : u.Reaches u.start
  | next {s} (h : Happening) (reached : u.Reaches s) : u.Reaches (s.next h)
  | remember {s} (text : String) (reached : u.Reaches s) :
      u.Reaches ((Session.remember text).run s).2
  | dispose {s} (reached : u.Reaches s) : u.Reaches (Session.dispose.run s).2

/-- In every state a session has the commands, the words and the mode that it started with. -/
theorem SessionSetup.Reaches.frame {u : SessionSetup} {s : Session} (reached : u.Reaches s) :
    s = { u.start with workspace := s.workspace, dictation := s.dictation } := by
  induction reached with
  | start => rfl
  | next h _ ih =>
      rename_i s _
      obtain ⟨tale, step⟩ := s.step_next h
      rw [step.frame, ih]
  | remember text _ ih =>
      rw [ih]
      rfl
  | dispose _ ih =>
      rw [ih]
      rfl

/-- An utterance that is ignored or unmatched leaves a mark in the journal and nothing else. One
that is typed calls for that and for nothing else. Where only commands are carried out nothing is
typed, and a text that no command takes does nothing. -/
theorem SessionSetup.futile_utterance_inert {u : SessionSetup} {s : Session} (reached : u.Reaches s)
    (utterance : String) :
    let r := (Session.processText utterance).run s
    ((r.1 = .ok .ignored ∨ ∃ t, r.1 = .ok (.unmatched t)) → s.Unmoved r.2) ∧
    (∀ t, r.1 = .ok (.typed t) → s.Typed t r.2) ∧
    (u.settings.text.commandOnlyMode = true →
      (∀ t, r.1 ≠ .ok (.typed t)) ∧
      ∀ t, s.read utterance = some (.text t) → (s.registry.findMatching t).1 = none →
        s.Unmoved r.2) := by
  intro r
  obtain ⟨tale, came⟩ : ∃ tale, s.Came utterance r.1 tale r.2 :=
    Session.came_processText s utterance
  have frame := reached.frame
  have discerns : ∀ c ∈ s.registry.commands, c.Discerns := by
    rw [frame]
    exact u.discerns_registry
  have mode : s.commandOnly = u.settings.text.commandOnlyMode := by
    rw [frame]
    rfl
  have typed {t : String} (h : r.1 = .ok (.typed t)) : s.commandOnly = false ∧ s.Typed t r.2 := by
    rw [h] at came
    exact came.typed_of_outcome discerns
  refine ⟨came.unmoved discerns, fun t h => (typed h).2, fun only => ?_⟩
  have only := mode.trans only
  refine ⟨fun t h => ?_, fun t read foreign => came.unmoved discerns ?_⟩
  · cases only.symm.trans (typed h).1
  · rcases came.outcome_of_unmatched only read foreign with ignored | unmatched
    · exact .inl ignored
    · exact .inr ⟨t, unmatched⟩

/-- There is nothing to refine while no grid is up: a command takes the words, but it is not
valid. -/
theorem SessionSetup.futile_utterance_inert_refine :
    let u : SessionSetup := {
      settings := { text := { punctuationCommands := false } }, platform := "linux"
      files := .empty "/work", environment := [], now := ⟨2024, 6, 7, 8, 9, 10⟩ }
    let s := (u.start.next (.say "scroll up")).next (.say "type hello")
    let r := (Session.processText "refine 5").run s
    u.Reaches s ∧ (s.registry.findMatching "refine 5").1.isSome ∧
      r.1 = .ok (.unmatched "refine 5") ∧ s.Unmoved r.2 := by
  intro u s r
  have reached : u.Reaches s := .next _ (.next _ .start)
  have refused : (s.registry.findMatching "refine 5").1.isSome ∧
      r.1.toOption = some (.unmatched "refine 5") := by
    decide +kernel
  have unmatched : r.1 = .ok (.unmatched "refine 5") := Outcome.of_toOption refused.2
  have inert := (futile_utterance_inert reached "refine 5").1 (.inr ⟨_, unmatched⟩)
  exact ⟨reached, refused.1, unmatched, inert⟩

end VoiceControl
