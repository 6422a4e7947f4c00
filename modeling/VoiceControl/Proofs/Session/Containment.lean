import VoiceControl.Proofs.Session.Happenings

/-!
# Failures stay with their utterance

Carrying an utterance out may fail at any call. The failure is reported once and becomes the
outcome of the utterance, nothing is typed for it, and the session remembers what it remembered.
That takes an error which can be reported. Of a raised value that has no text none can be made, and
what asking for the text raises is the only thing that ever comes out in place of an outcome.
-/

namespace VoiceControl

/-- The utterance and the message of an event that reports a failed utterance. -/
def Event.failedUtterance? : Event → Option (String × String)
  | .failed component text error =>
      if component = "text_processing" then some (text, error) else none
  | _ => none

/-- The message with which an utterance failed. -/
def Outcome.error? : Outcome → Option String
  | .failed error => some error
  | _ => none

theorem Event.failedUtterance?_eq_none {e : Event} (other : e.isOfUtterance = false) :
    e.failedUtterance? = none := by
  cases e <;> first | rfl | cases other

namespace Act

variable {α β : Type} {x : Act α} {f : α → Act β} {w w' : Workspace}

/-- The failure that an act raises. -/
def raised? (x : Act α) (w : Workspace) : Option Failure :=
  match (x.on w).1 with
  | .ok _ => none
  | .error f => some f

theorem raised?_bind_of_ok {a : α} (ran : x.on w = (.ok a, w')) :
    (x >>= f).raised? w = (f a).raised? w' := by
  rw [raised?, on_bind, ran]
  rfl

theorem raised?_bind_of_error {e : Failure} (ran : x.on w = (.error e, w')) :
    (x >>= f).raised? w = some e := by
  rw [raised?, on_bind, ran]

/-- Trying an act raises nothing. -/
theorem raised?_attempt_bind {r : Except Failure α} {f : Except Failure α → Act β}
    (ran : x.on w = (r, w')) : (attempt x >>= f).raised? w = (f r).raised? w' :=
  raised?_bind_of_ok (by rw [on_attempt, ran])

end Act

/-- What comes of an utterance that a failure is raised for: an outcome with the message, as long as
an error can be made of the failure. -/
def Failure.verdict (f : Failure) : Except Failure Outcome := f.asError.map fun e => .failed e.message

namespace Session

variable {s s' : Session} {utterance : String} {o : Except Failure Outcome} {tale : List Event}

/-- The typing of a text as the utterance that it is typed for sees it: a failure counts only if no
error can be made of it. -/
def writing (text : String) : Act Unit := do
  match ← Act.attempt (Act.act (.typeText text)) with
  | .ok () => pure ()
  | .error f =>
      let _ ← Act.conclude f.asError

/-- What is done for an utterance. -/
def errand (s : Session) (utterance : String) : Act Unit :=
  match s.read utterance with
  | some (.commandWord c) => do
      Act.publish (some .main) (.textProcessed utterance none (some c))
      wordAct s.dictation.lastLength c
  | some (.text t) => do
      Act.publish (some .main) (.textProcessed utterance (some t) none)
      if t ≠ "" then
        let r ← s.registry.process t
        match s.typing? t r with
        | some text => writing text
        | none => pure ()
  | some .nothing | none => pure ()

theorem raised_errand_word {c : CommandWord} (read : s.read utterance = some (.commandWord c)) :
    (s.errand utterance).raised? s.workspace =
      (wordAct s.dictation.lastLength c).raised? (s.heard utterance none (some c)) := by
  rw [errand, read]
  exact Act.raised?_bind_of_ok (Act.on_publish _ _ _)

/-- The errand of a text that the commands are given is that of the commands and then the typing. -/
theorem raised_errand_text {t : String} (read : s.read utterance = some (.text t)) (full : t ≠ "") :
    (s.errand utterance).raised? s.workspace =
      (s.registry.process t >>= fun r =>
        match s.typing? t r with
        | some text => writing text
        | none => pure ()).raised? (s.heard utterance (some t) none) := by
  rw [errand, read]
  dsimp only
  rw [Act.raised?_bind_of_ok (Act.on_publish _ _ _), if_pos full]
  rfl

theorem Wrote.raised {text : String} {e : Event} (h : s.Wrote text e s') :
    (writing text).raised? s.workspace = none := by
  cases h with
  | typed ran => exact Act.raised?_attempt_bind ran
  | refused ran read =>
      rw [writing, Act.raised?_attempt_bind ran]
      dsimp only
      rw [read]
      rfl

theorem Unwritten.raised {w w' : Workspace} {text : String} {g : Failure}
    (h : Unwritten w text g w') : (writing text).raised? w = some g := by
  obtain ⟨f, ran, unread⟩ := h
  rw [writing, Act.raised?_attempt_bind ran]
  dsimp only
  rw [unread]
  rfl

theorem Settled.verdict {w w' : Workspace} {f : Failure} (h : Settled w utterance f o tale w') :
    o = f.verdict := by
  cases h with
  | reported read | raised read =>
      rw [Failure.verdict, read]
      rfl

/-- What comes of an utterance, by what is raised for it. -/
inductive ComesTo : Option Failure → Except Failure Outcome → Prop
  | ended {a : Outcome} (good : a.error? = none) : ComesTo none (.ok a)
  | failed (f : Failure) : ComesTo (some f) f.verdict

/-- Nothing is raised where whatever is typed is typed without failure. -/
theorem raised_errand_eq_none {t : String} (read : s.read utterance = some (.text t))
    (full : t ≠ "") {r : DispatchResult} {w : Workspace}
    (ran : (s.registry.process t).on (s.heard utterance (some t) none) = (.ok r, w))
    (typed : ∀ text, s.typing? t r = some text → (writing text).raised? w = none) :
    (s.errand utterance).raised? s.workspace = none := by
  rw [raised_errand_text read full, Act.raised?_bind_of_ok ran]
  cases typing : s.typing? t r with
  | none => rfl
  | some text => exact typed text typing

/-- What comes of an utterance is told by what its errand raises. -/
theorem Came.comesTo (h : s.Came utterance o tale s') :
    ComesTo ((s.errand utterance).raised? s.workspace) o := by
  generalize raised : (s.errand utterance).raised? s.workspace = failure
  have quiet {a : Outcome} (none : (s.errand utterance).raised? s.workspace = none)
      (good : a.error? = Option.none) : ComesTo failure (.ok a) := by
    obtain rfl : failure = Option.none := raised.symm.trans none
    exact .ended good
  have failed {f : Failure} (some : (s.errand utterance).raised? s.workspace = Option.some f)
      (verdict : o = f.verdict) : ComesTo failure o := by
    obtain rfl : failure = Option.some f := raised.symm.trans some
    exact verdict ▸ .failed f
  cases h with
  | unheard read | nothing read =>
      refine quiet ?_ rfl
      rw [errand, read]
      rfl
  | blank read =>
      refine quiet ?_ rfl
      rw [errand, read]
      dsimp only
      rw [Act.raised?, Act.on_bind, Act.on_publish]
      rfl
  | word read ran =>
      refine quiet ?_ rfl
      rw [raised_errand_word read, Act.raised?, ran]
  | wordFailed read ran settled =>
      refine failed ?_ settled.verdict
      rw [raised_errand_word read, Act.raised?, ran]
  | commandFailed read full ran settled =>
      refine failed ?_ settled.verdict
      rw [raised_errand_text read full, Act.raised?_bind_of_error ran]
  | command read full ran silent =>
      refine quiet (raised_errand_eq_none read full ran fun text typing => ?_) rfl
      obtain ⟨rfl, full⟩ := typing?_executed.1 typing
      exact absurd silent full
  | output read full ran wrote =>
      refine quiet (raised_errand_eq_none read full ran fun text typing => ?_) rfl
      obtain rfl := Option.some.inj (typing?_executed.1 typing).1
      exact wrote.raised
  | unmatched read full ran only =>
      refine quiet (raised_errand_eq_none read full ran fun text typing => ?_) rfl
      cases only.symm.trans (typing?_foreign.1 typing).1
  | typed read full ran wrote free =>
      refine quiet (raised_errand_eq_none read full ran fun text typing => ?_) rfl
      obtain rfl := (typing?_foreign.1 typing).2
      exact wrote.raised
  | unwritten read full ran typing unwritten settled =>
      refine failed ?_ settled.verdict
      rw [raised_errand_text read full, Act.raised?_bind_of_ok ran, typing]
      exact unwritten.raised

/-- A failed utterance is reported, and no other one is. -/
theorem Came.failures (h : s.Came utterance o tale s') :
    tale.filterMap Event.failedUtterance? =
      ((o.toOption.bind Outcome.error?).map (utterance, ·)).toList := by
  cases h with
  | output _ _ _ wrote | typed _ _ _ wrote => cases wrote <;> rfl
  | wordFailed _ _ settled | commandFailed _ _ _ settled | unwritten _ _ _ _ _ settled =>
      cases settled <;> rfl
  | _ => rfl

/-- For an utterance that something is raised for nothing is typed and nothing is forgotten. -/
theorem Came.untouched {f : Failure} (h : s.Came utterance o tale s') (raised : o = f.verdict) :
    (∀ t, .textTyped t ∉ tale) ∧ s'.dictation = s.dictation := by
  have good {a : Outcome} (ended : .ok a = f.verdict) : a.error? ≠ none := by
    rw [Failure.verdict] at ended
    cases read : f.asError with
    | ok e =>
        rw [read] at ended
        cases ended
        exact Option.some_ne_none _
    | error g =>
        rw [read] at ended
        cases ended
  cases h with
  | wordFailed _ _ settled | commandFailed _ _ _ settled | unwritten _ _ _ _ _ settled =>
      cases settled <;> exact ⟨fun t mem => by simp at mem, rfl⟩
  | _ => exact absurd rfl (good raised)

/-- What is published for an utterance tells of its failure once, if it failed; where something is
raised for it, it tells of no typed text, and the memory stands. -/
theorem Came.contained (h : s.Came utterance o tale s')
    (listening : s.workspace.journal.listening = true) (able : s.Able fun _ => True) :
    ∃ own, s'.workspace.journal.events = s.workspace.journal.events ++ own ∧
      own.filterMap Event.failedUtterance? =
        ((o.toOption.bind Outcome.error?).map (utterance, ·)).toList ∧
      ∀ f, o = Failure.verdict f → (∀ t, .textTyped t ∉ own) ∧ s'.dictation = s.dictation := by
  obtain ⟨own, events, about⟩ := (h.tells listening able).events
  refine ⟨own, events, ?_, fun f raised => ?_⟩
  · rw [← Event.filterMap_isOfUtterance fun _ => Event.failedUtterance?_eq_none, about]
    exact h.failures
  · obtain ⟨silent, same⟩ := h.untouched raised
    refine ⟨fun t mem => silent t ?_, same⟩
    rw [← about]
    exact List.mem_filter.2 ⟨mem, rfl⟩

end Session

/-- Whatever fails, and whatever happened before: what comes of an utterance is settled by what its
errand raises. If that is nothing, the utterance has an outcome that is no failure. If it is a
failure of which an error can be made, the outcome is that error's message, and otherwise what
trying to make one raises comes out. Of the failed utterance and of no other a report is published,
once; where anything was raised, no text was typed and the session remembers what it remembered. -/
theorem SessionSetup.failed_utterance_contained (u : SessionSetup) (hs : List Happening)
    (utterance : String) :
    let s := u.start.after hs
    let r := (Session.processText utterance).run s
    let raised := (s.errand utterance).raised? s.workspace
    (raised = none → ∃ a, r.1 = .ok a ∧ a.error? = none) ∧
    (∀ f, raised = some f → r.1 = f.asError.map fun e => .failed e.message) ∧
    ∃ own, r.2.workspace.journal.events = s.workspace.journal.events ++ own ∧
      own.filterMap Event.failedUtterance? =
        ((r.1.toOption.bind Outcome.error?).map (utterance, ·)).toList ∧
      (raised.isSome → (∀ t, .textTyped t ∉ own) ∧ r.2.dictation = s.dictation) := by
  intro s r raised
  have underway := Session.underway_after u hs
  obtain ⟨tale, came⟩ : ∃ tale, s.Came utterance r.1 tale r.2 :=
    Session.came_processText s utterance
  have comes : Session.ComesTo raised r.1 := came.comesTo
  obtain ⟨own, events, failures, untouched⟩ :=
    came.contained underway.listening (underway.able fun _ _ => trivial)
  clear_value r raised
  obtain ⟨ended, after⟩ := r
  dsimp only at comes events failures untouched ⊢
  cases comes with
  | @ended a good =>
      refine ⟨fun _ => ⟨a, rfl, good⟩, fun f some => ?_, own, events, failures, fun some => ?_⟩
      · cases some
      · cases some
  | failed f =>
      refine ⟨fun none => ?_, fun f' same => ?_, own, events, failures, fun _ => untouched f rfl⟩
      · cases none
      · cases same
        rfl

/-- A value without a text that the keyboard raises while what was typed is taken back: the
utterance has no outcome, and no failure of it is reported. -/
theorem SessionSetup.failed_utterance_escapes :
    let u : SessionSetup := {
      settings := { text := { punctuationCommands := false } }, platform := "linux"
      files := .empty "/work", environment := [], now := ⟨2024, 6, 7, 8, 9, 10⟩
      refuses := Fault.refusal [{
        method := .pressKey, subject := some (.text "backspace")
        failure := .textless (.mistyped "Cannot convert object to primitive value") }] }
    let s := u.start.next (.say "type hello")
    let r := (Session.processText "scratch that").run s
    (∀ o, r.1 ≠ .ok o) ∧
      (r.2.workspace.journal.events.filterMap Event.failedUtterance?).length = 0 := by
  intro u s r
  have seen : r.1.toOption = none ∧
      (r.2.workspace.journal.events.filterMap Event.failedUtterance?).length = 0 := by
    decide +kernel
  refine ⟨fun o ended => ?_, seen.2⟩
  rw [ended] at seen
  exact absurd seen.1 (Option.some_ne_none o)

end VoiceControl
