import VoiceControl.Proofs.Session.Containment

/-!
# Taking back what was typed

What a session typed last is what it remembers, and taking it back presses backspace once for each
of its characters. Two ways lead past the memory. A custom command types its text without telling
the session, so that the text before it is taken back instead. And taking back may fail half way,
after which the whole text is still remembered and may be taken back again.

* `Session.Effect`: what a happening does to the memory, and what can be seen of it.
* `undo_erases_told_text`: how often backspace is pressed while no call fails.
* `undo_presses_after_told_text`: how often it is pressed for one text, whatever fails.
-/

namespace VoiceControl

/-! ## What can be seen -/

/-- The text that an action types. -/
def Action.text? : Action → Option String
  | .typeText t => some t
  | _ => none

/-- The text that an event says was typed. -/
def Event.typedText? : Event → Option String
  | .textTyped t => some t
  | _ => none

/-- The command word that an utterance was read as. -/
def Event.word? : Event → Option CommandWord
  | .textProcessed _ _ word => word
  | _ => none

/-- The actions that backspace is pressed and released by `n` times. -/
def taps (n : Nat) : List Action :=
  (List.replicate n [Action.pressKey "backspace", .releaseKey "backspace"]).flatten

/-- What was done and what was published during a happening, and whether a failure came out of it. -/
structure Deed where
  actions : List Action
  events : List Event
  raises : Bool := false

namespace Deed

/-- An utterance was read as the command word that takes the last text back. -/
def undoes (d : Deed) : Bool := (d.events.filterMap Event.word?).contains .undoLast

/-- An utterance failed, and that was told or came out. -/
def fails (d : Deed) : Bool :=
  d.raises || (d.events.filterMap Event.failedUtterance?).length != 0

/-- The text that was told last to have been typed. -/
def told? (d : Deed) : Option String := (d.events.filterMap Event.typedText?).getLast?

/-- The text that was typed last. -/
def typed? (d : Deed) : Option String := (d.actions.filterMap Action.text?).getLast?

/-- How often backspace was pressed. -/
def presses (d : Deed) : Nat := d.actions.count (.pressKey "backspace")

end Deed

/-- The last text of some sort that is not taken back yet; `last` is the one before. -/
def newest (text? : Deed → Option String) (last : Option String) (d : Deed) : Option String :=
  if d.undoes then none else (text? d).or last

/-- The last text of some sort since a text was taken back. -/
def latest (text? : Deed → Option String) (ds : List Deed) : Option String :=
  ds.foldl (newest text?) none

/-- The number of characters of a text, if there is one. -/
def characters (text : Option String) : Nat := text.elim 0 String.length

/-- How often backspace was pressed to take texts back. -/
def erased (ds : List Deed) : Nat :=
  ds.foldr (fun d n => (if d.undoes then d.presses else 0) + n) 0

/-- How often it was pressed by utterances that failed. -/
def erasedInVain (ds : List Deed) : Nat := erased (ds.filter (·.fails))

/-- What was done and published from one workspace to a later one. -/
def Deed.between (w w' : Workspace) : Deed where
  actions := w'.desktop.actions.drop w.desktop.actions.length
  events := w'.journal.events.drop w.journal.events.length

namespace Session

/-- What is seen of a happening. -/
def deed (s : Session) (h : Happening) : Deed :=
  { Deed.between s.workspace (s.next h).workspace with raises := s.raises h }

/-- What is seen of happenings, one after the other. -/
def deeds (s : Session) : List Happening → List Deed
  | [] => []
  | h :: hs => s.deed h :: (s.next h).deeds hs

end Session

/-! ## Taking back -/

theorem count_taps (n : Nat) : (taps n).count (.pressKey "backspace") = n := by
  induction n with
  | zero => rfl
  | succ n ih =>
      show (Action.pressKey "backspace" :: .releaseKey "backspace" :: taps n).count _ = n + 1
      simp [ih]

theorem taps_inj {m n : Nat} : taps m = taps n ↔ m = n := by
  refine ⟨fun h => ?_, congrArg taps⟩
  rw [← count_taps m, h, count_taps]

/-- Backspace is pressed and released, unless one or the other is refused. -/
theorem Act.tap_cases {key : String} {w w' : Workspace} {r : Except Failure Unit}
    (ran : (tap key).on w = (r, w')) :
    w'.desktop.refuses = w.desktop.refuses ∧
      ((r = .ok () ∧ w'.desktop.actions = w.desktop.actions ++ [.pressKey key, .releaseKey key]) ∨
        (∃ f, r = .error f) ∧ w.desktop.refuses ≠ (fun _ _ => none) ∧
          ∃ done, done <+: [.pressKey key] ∧ w'.desktop.actions = w.desktop.actions ++ done) := by
  rw [tap, on_bind] at ran
  rcases pressed : (act (.pressKey key)).on w with ⟨r₁, w₁⟩
  rw [pressed] at ran
  obtain ⟨refuses₁, ⟨f, refused, rfl, actions₁⟩ | ⟨-, rfl, actions₁⟩⟩ := act_cases pressed
  · obtain ⟨rfl, rfl⟩ := Prod.mk.inj ran
    refine ⟨refuses₁, .inr ⟨⟨f, rfl⟩, fun granted => ?_, [], List.nil_prefix, ?_⟩⟩
    · rw [granted] at refused
      cases refused
    · rw [actions₁, List.append_nil]
  · obtain ⟨refuses₂, ⟨f, refused, rfl, actions₂⟩ | ⟨-, rfl, actions₂⟩⟩ := act_cases ran
    · refine ⟨refuses₂.trans refuses₁, .inr ⟨⟨f, rfl⟩, fun granted => ?_, _, List.prefix_rfl, ?_⟩⟩
      · rw [refuses₁, granted] at refused
        cases refused
      · rw [actions₂, actions₁]
    · refine ⟨refuses₂.trans refuses₁, .inl ⟨rfl, ?_⟩⟩
      rw [actions₂, actions₁, List.append_assoc]
      rfl

namespace Session

/-- Taking back presses backspace as often as it should; only if a call is refused, it fails and
may have done so less often. -/
theorem undo_cases {n : Nat} {w w' : Workspace} {r : Except Failure Unit}
    (ran : (wordAct n .undoLast).on w = (r, w')) :
    ∃ done, w'.desktop.actions = w.desktop.actions ++ done ∧
      ((r = .ok () ∧ done = taps n) ∨
        (∃ f, r = .error f) ∧ done.count (.pressKey "backspace") ≤ n ∧
          w.desktop.refuses ≠ fun _ _ => none) := by
  induction n generalizing w with
  | zero =>
      obtain ⟨rfl, rfl⟩ := Prod.mk.inj ran
      exact ⟨[], (List.append_nil _).symm, .inl ⟨rfl, rfl⟩⟩
  | succ n ih =>
      have ran : (Act.tap "backspace" >>= fun _ => wordAct n .undoLast).on w = (r, w') := ran
      rw [Act.on_bind] at ran
      rcases tapped : (Act.tap "backspace").on w with ⟨r₁, w₁⟩
      rw [tapped] at ran
      obtain ⟨refuses, ⟨rfl, actions⟩ | ⟨⟨f, rfl⟩, refused, done, less, actions⟩⟩ :=
        Act.tap_cases tapped
      · obtain ⟨done, actions', ends⟩ := ih ran
        refine ⟨[.pressKey "backspace", .releaseKey "backspace"] ++ done, ?_, ?_⟩
        · rw [actions', actions, List.append_assoc]
        · -- the first tap went well, so the whole ends as the taps after it do
          rcases ends with ⟨rfl, rfl⟩ | ⟨failed, few, refused⟩
          · exact .inl ⟨rfl, rfl⟩
          · refine .inr ⟨failed, ?_, refuses ▸ refused⟩
            simpa using few
      · obtain ⟨rfl, rfl⟩ := Prod.mk.inj ran
        refine ⟨done, actions, .inr ⟨⟨f, rfl⟩, ?_, refused⟩⟩
        have once := less.sublist.count_le (Action.pressKey "backspace")
        simp at once
        omega

end Session

/-! ## What a happening does to the memory -/

/-- What was done since types nothing but what is permitted. -/
def Workspace.Writes (types : String → Prop) (w w' : Workspace) : Prop :=
  ∃ done, w'.desktop.actions = w.desktop.actions ++ done ∧ ∀ t, .typeText t ∈ done → types t

theorem Workspace.lasting_writes (types : String → Prop) : Lasting (Writes types) where
  refl _ := ⟨[], (List.append_nil _).symm, by simp⟩
  trans := by
    rintro w w' w'' ⟨done, actions, typed⟩ ⟨more, actions', typed'⟩
    refine ⟨done ++ more, ?_, fun t mem => ?_⟩
    · rw [actions', actions, List.append_assoc]
    · exact (List.mem_append.1 mem).elim (typed t) (typed' t)

theorem Act.Composed.writes {types : String → Prop} {α : Type} {x : Act α}
    (composed : x.Composed types) : x.Within (Workspace.Writes types) := by
  refine composed.within_of_call (Workspace.lasting_writes types)
    (fun h => ⟨[], by rw [h.desktop, List.append_nil], by simp⟩) fun c typed w => ?_
  rcases ran : (Act.call c).on w with ⟨r, w'⟩
  obtain ⟨-, actions | ⟨a, rfl, actions⟩⟩ := call_cases ran
  · exact ⟨[], by rw [actions, List.append_nil], by simp⟩
  · refine ⟨[a], actions, fun t mem => typed t ?_⟩
    rw [List.mem_singleton.1 mem]

/-- What a happening does to the text that a session remembers, and what is seen of it. Texts that
nobody is told of are permitted by `types`. -/
inductive Session.Effect (types : String → Prop) (refuses : Refusal) (last : String) (d : Deed) :
    String → Prop
  | takenBack (undoes : d.undoes = true) (told : d.told? = none) (fails : d.fails = false)
      (actions : d.actions = taps last.length) : Effect types refuses last d ""
  | takenInVain (undoes : d.undoes = true) (told : d.told? = none) (fails : d.fails = true)
      (presses : d.presses ≤ last.length) (refused : refuses ≠ fun _ _ => none) :
      Effect types refuses last d last
  | wrote {t} (undoes : d.undoes = false) (told : d.told? = some t) (typed : d.typed? = some t) :
      Effect types refuses last d t
  | otherwise (undoes : d.undoes = false) (told : d.told? = none)
      (typed : ∀ t, d.typed? = some t → types t) : Effect types refuses last d last

namespace Deed

variable {d : Deed} {tale : List Event}

/-- What is seen of an utterance is in its tale. -/
theorem seen (about : d.events.filter (·.isOfUtterance) = tale) :
    d.undoes = (tale.filterMap Event.word?).contains .undoLast ∧
      d.fails = (d.raises || (tale.filterMap Event.failedUtterance?).length != 0) ∧
      d.told? = (tale.filterMap Event.typedText?).getLast? := by
  have word := Event.filterMap_isOfUtterance (f := Event.word?)
    (fun e other => by cases e <;> first | rfl | cases other) d.events
  have failed := Event.filterMap_isOfUtterance (fun _ => Event.failedUtterance?_eq_none) d.events
  have typed := Event.filterMap_isOfUtterance (f := Event.typedText?)
    (fun e other => by cases e <;> first | rfl | cases other) d.events
  rw [undoes, fails, told?, ← word, ← failed, ← typed, about]
  exact ⟨rfl, rfl, rfl⟩

theorem typed?_of_writes {types : String → Prop} (h : ∀ t, .typeText t ∈ d.actions → types t) :
    ∀ t, d.typed? = some t → types t := by
  intro t typed
  obtain ⟨a, mem, text⟩ := List.mem_filterMap.1 (List.mem_of_getLast? typed)
  cases a <;> cases text
  exact h t mem

theorem typed?_of_last {done : List Action} {t : String}
    (actions : d.actions = done ++ [.typeText t]) : d.typed? = some t := by
  rw [typed?, actions, List.filterMap_append]
  exact List.getLast?_concat

end Deed

namespace Session

variable {s s' : Session} {u : SessionSetup} {d : Deed} {tale : List Event}

/-- Typing a text comes last, and it is remembered if it was typed. -/
theorem Wrote.effect {types : String → Prop} {refuses : Refusal} {utterance text : String}
    {read : Option String} {e : Event} {before done : List Action} (h : s.Wrote text e s')
    (about : d.events.filter (·.isOfUtterance) = [.textProcessed utterance read none, e])
    (did : s.workspace.desktop.actions = before ++ done) (typed : ∀ t, .typeText t ∈ done → types t)
    (actions : s'.workspace.desktop.actions = before ++ d.actions) :
    Effect types refuses s.dictation.last d s'.dictation.last := by
  obtain ⟨undoes, fails, told⟩ := Deed.seen about
  cases h with
  | typed ran =>
      obtain ⟨-, ⟨f, -, failed, -⟩ | ⟨-, -, wrote⟩⟩ := Act.act_cases ran
      · cases failed
      · have last : d.actions = done ++ [.typeText text] := by
          rw [did, List.append_assoc] at wrote
          exact List.append_cancel_left (actions.symm.trans wrote)
        exact .wrote undoes told (Deed.typed?_of_last last)
  | refused ran =>
      obtain ⟨-, ⟨-, -, -, still⟩ | ⟨-, granted, -⟩⟩ := Act.act_cases ran
      · have same : d.actions = done := by
          rw [did] at still
          exact List.append_cancel_left (actions.symm.trans still)
        refine .otherwise undoes told (Deed.typed?_of_writes ?_)
        rw [same]
        exact typed
      · cases granted

/-- A failure is told, or it comes out. -/
theorem Settled.seen {w w' : Workspace} {utterance : String} {f : Failure}
    {o : Except Failure Outcome} (h : Settled w utterance f o tale w') (text : Option String)
    (word : Option CommandWord) :
    let tale := .textProcessed utterance text word :: tale
    w'.desktop = w.desktop ∧ tale.filterMap Event.word? = word.toList ∧
      tale.filterMap Event.typedText? = [] ∧
      (!o.isOk || (tale.filterMap Event.failedUtterance?).length != 0) = true := by
  cases h <;> cases word <;> exact ⟨rfl, rfl, rfl, rfl⟩

/-- What the ways of an utterance do to the text that is remembered. -/
theorem Came.effect {types : String → Prop} {utterance : String}
    {o : Except Failure Outcome} (h : s.Came utterance o tale s') (able : s.Able types)
    (about : d.events.filter (·.isOfUtterance) = tale) (raises : d.raises = !o.isOk)
    (actions : s'.workspace.desktop.actions = s.workspace.desktop.actions ++ d.actions) :
    Effect types s.workspace.desktop.refuses s.dictation.last d s'.dictation.last := by
  obtain ⟨undoes, fails, told⟩ := Deed.seen about
  -- an act that commands are made of types what is permitted
  have writes {α : Type} {x : Act α} {w w' : Workspace} {r : Except Failure α}
      {types : String → Prop} (composed : x.Composed types) (ran : x.on w = (r, w')) :
      ∃ done, w'.desktop.actions = w.desktop.actions ++ done ∧
        ∀ t, .typeText t ∈ done → types t := by
    have wrote := composed.writes w
    rwa [ran] at wrote
  -- so nothing else is seen to be typed if nothing is told
  have quiet {done : List Action} (typed : ∀ t, .typeText t ∈ done → types t)
      (did : s'.workspace.desktop.actions = s.workspace.desktop.actions ++ done) :
      ∀ t, d.typed? = some t → types t := by
    obtain rfl : d.actions = done := List.append_cancel_left (actions.symm.trans did)
    exact Deed.typed?_of_writes typed
  cases h with
  | unheard | nothing | blank =>
      have idle : ∀ t, .typeText t ∈ ([] : List Action) → types t := fun _ mem => by cases mem
      exact .otherwise undoes told (quiet idle (List.append_nil _).symm)
  | @word c w _ ran =>
      cases c with
      | undoLast =>
          obtain ⟨done, did, ⟨-, all⟩ | ⟨⟨f, failed⟩, -⟩⟩ := undo_cases ran
          · obtain rfl : d.actions = done := List.append_cancel_left (actions.symm.trans did)
            rw [raises] at fails
            exact .takenBack undoes told fails all
          · cases failed
      | clearLine =>
          obtain ⟨done, did, typed⟩ := writes (composed_wordAct _ _) ran
          exact .otherwise undoes told (quiet typed did)
  | @wordFailed c f w o tale w' _ ran settled =>
      obtain ⟨desktop, word, text, failed⟩ := settled.seen none (some c)
      rw [word] at undoes
      rw [text] at told
      rw [raises, failed] at fails
      cases c with
      | undoLast =>
          obtain ⟨done, did, ⟨succeeded, -⟩ | ⟨-, few, refused⟩⟩ := undo_cases ran
          · cases succeeded
          · rw [← desktop] at did
            obtain rfl : d.actions = done := List.append_cancel_left (actions.symm.trans did)
            exact .takenInVain undoes told fails few refused
      | clearLine =>
          obtain ⟨done, did, typed⟩ := writes (composed_wordAct _ _) ran
          rw [← desktop] at did
          exact .otherwise undoes told (quiet typed did)
  | @commandFailed t f w o tale w' _ _ ran settled =>
      obtain ⟨desktop, word, text, -⟩ := settled.seen (some t) none
      rw [word] at undoes
      rw [text] at told
      obtain ⟨done, did, typed⟩ := writes (able _) ran
      rw [← desktop] at did
      exact .otherwise undoes told (quiet typed did)
  | command _ _ ran | unmatched _ _ ran =>
      obtain ⟨done, did, typed⟩ := writes (able _) ran
      exact .otherwise undoes told (quiet typed did)
  | output _ _ ran wrote | typed _ _ ran wrote =>
      obtain ⟨done, did, typed⟩ := writes (able _) ran
      exact wrote.effect about did typed actions
  | @unwritten t r w _ g w₁ o tale w' _ _ ran _ unwritten settled =>
      obtain ⟨desktop, word, text, -⟩ := settled.seen (some t) none
      rw [word] at undoes
      rw [text] at told
      obtain ⟨done, did, typed⟩ := writes (able _) ran
      obtain ⟨f, refused, -⟩ := unwritten
      obtain ⟨-, ⟨-, -, -, still⟩ | ⟨-, granted, -⟩⟩ := Act.act_cases refused
      · -- what was refused left the record as it was
        have same : w'.desktop.actions = w.desktop.actions :=
          (congrArg Desktop.actions desktop).trans still
        exact .otherwise undoes told (quiet typed (same.trans did))
      · cases granted

/-- What was done is never taken off the record. -/
theorem respected_writes : Respected (Workspace.Writes fun _ => True) where
  lasting := Workspace.lasting_writes _
  aside h := ⟨[], by rw [h.desktop, List.append_nil], fun _ _ => trivial⟩
  published _ _ := ⟨[], (List.append_nil _).symm, fun _ _ => trivial⟩
  act composed := composed.writes

/-- What is seen of a happening is all that was done and published in it. -/
theorem Underway.recorded (underway : Underway u s) (h : Happening) :
    ∃ tale, s.Step (s.raises h) tale (s.next h) ∧
      (s.next h).workspace.desktop.actions = s.workspace.desktop.actions ++ (s.deed h).actions ∧
      (s.next h).workspace.journal.events = s.workspace.journal.events ++ (s.deed h).events ∧
      (s.deed h).events.filter (·.isOfUtterance) = tale := by
  obtain ⟨tale, step⟩ := s.step_next h
  have able : s.Able fun _ => True := underway.able fun _ _ => trivial
  obtain ⟨own, events, about⟩ := (step.tells underway.listening able).events
  obtain ⟨done, actions, -⟩ := step.within respected_writes able
  have seen : s.deed h = ⟨done, own, s.raises h⟩ := by
    rw [deed, Deed.between, actions, events, List.drop_left, List.drop_left]
  rw [seen]
  exact ⟨tale, step, actions, events, about⟩

/-- What a happening does to the text that is remembered. -/
theorem Underway.effect (underway : Underway u s) (h : Happening) :
    Effect u.types u.refuses s.dictation.last (s.deed h) (s.next h).dictation.last := by
  obtain ⟨tale, step, actions, -, about⟩ := underway.recorded h
  have raises : (s.deed h).raises = s.raises h := rfl
  generalize s.deed h = d at actions about raises ⊢
  generalize s.next h = s' at step actions ⊢
  generalize s.raises h = raised at step raises
  rw [← underway.refuses]
  cases step with
  | aside _ before =>
      obtain ⟨undoes, -, told⟩ := Deed.seen about
      have nothing : d.actions = [] := by
        dsimp only at actions
        rw [before.desktop] at actions
        exact List.append_right_eq_self.1 actions.symm
      exact .otherwise undoes told (by simp [Deed.typed?, nothing])
  | @spoken w _ _ _ _ before came =>
      have same : w.desktop = s.workspace.desktop := before.desktop
      rw [← same] at actions ⊢
      exact came.effect (underway.able fun _ h => h) about raises actions

end Session

/-! ## Runs without refusals -/

/-- A session remembers the text that was told last, and the text typed last is that one or one that
nobody was told of. -/
structure Recalls (types : String → Prop) (last : String) (typed told : Option String) : Prop where
  last : last = told.getD ""
  typed : typed = told ∨ ∃ t, typed = some t ∧ types t

theorem Recalls.step {types : String → Prop} {refuses : Refusal} {last last' : String} {d : Deed}
    {typed told : Option String} (h : Recalls types last typed told)
    (granted : refuses = fun _ _ => none) (effect : Session.Effect types refuses last d last') :
    Recalls types last' (newest Deed.typed? typed d) (newest Deed.told? told d) := by
  cases effect with
  | takenBack undoes => exact ⟨by simp [newest, undoes], .inl (by simp [newest, undoes])⟩
  | takenInVain _ _ _ _ refused => exact absurd granted refused
  | wrote undoes told typed =>
      exact ⟨by simp [newest, undoes, told], .inl (by simp [newest, undoes, told, typed])⟩
  | otherwise undoes told typed =>
      refine ⟨by simpa [newest, undoes, told] using h.last, ?_⟩
      cases new : d.typed? with
      | none => simpa [newest, undoes, told, new] using h.typed
      | some t => exact .inr ⟨t, by simp [newest, undoes, new], typed t new⟩

/-- While nothing is refused, this lasts. -/
theorem Session.Underway.recalls {s : Session} {u : SessionSetup} (underway : Underway u s)
    (granted : u.refuses = fun _ _ => none) {typed told : Option String}
    (h : Recalls u.types s.dictation.last typed told) (hs : List Happening) :
    Recalls u.types (s.after hs).dictation.last ((s.deeds hs).foldl (newest Deed.typed?) typed)
      ((s.deeds hs).foldl (newest Deed.told?) told) := by
  -- by the step lemma; the texts recalled so far go along
  induction hs generalizing s typed told with
  | nil => exact h
  | cons happening hs ih =>
      obtain ⟨tale, step⟩ := s.step_next happening
      exact ih (underway.step step) (h.step granted (underway.effect happening))

/-- While no call is refused, taking back presses and releases backspace once for each character of
the text told last since the time before. That is as often as there are characters in the text typed
last just if the two have equally many; and if they are not the same, the text typed last is that of
a command of the user's. -/
theorem SessionSetup.undo_erases_told_text {u : SessionSetup}
    (granted : u.refuses = fun _ _ => none) (hs : List Happening) {h : Happening}
    (undoes : ((u.start.after hs).deed h).undoes = true) :
    let past := u.start.deeds hs
    let d := (u.start.after hs).deed h
    d.actions = taps (characters (latest Deed.told? past)) ∧
    (d.actions = taps (characters (latest Deed.typed? past)) ↔
      characters (latest Deed.typed? past) = characters (latest Deed.told? past)) ∧
    (latest Deed.typed? past = latest Deed.told? past ∨
      ∃ t, latest Deed.typed? past = some t ∧ u.types t) := by
  intro past d
  have start : Recalls u.types u.start.dictation.last none none := ⟨rfl, .inl rfl⟩
  have recalls := (Session.underway_start u).recalls granted start hs
  have length : (u.start.after hs).dictation.last.length =
      characters (latest Deed.told? past) := by
    rw [recalls.last]
    show ((latest Deed.told? past).getD "").length = _
    cases latest Deed.told? past <;> rfl
  have erases : d.actions = taps (characters (latest Deed.told? past)) := by
    have effect := (Session.underway_after u hs).effect h
    generalize ((u.start.after hs).next h).dictation.last = last' at effect
    cases effect with
    | takenBack _ _ _ actions => exact length ▸ actions
    | takenInVain _ _ _ _ refused => exact absurd granted refused
    | wrote other | otherwise other => exact absurd (undoes.symm.trans other) (by decide)
  refine ⟨erases, ?_, recalls.typed⟩
  rw [erases, taps_inj]
  exact eq_comm

/-- A typed word is taken back letter by letter. -/
theorem SessionSetup.undo_erases_told_hello :
    let u : SessionSetup := {
      settings := { text := { punctuationCommands := false } }, platform := "linux"
      files := .empty "/work", environment := [], now := ⟨2024, 6, 7, 8, 9, 10⟩ }
    let d := (u.start.after [.say "type hello"]).deed (.say "scratch that")
    (u.refuses = fun _ _ => none) ∧ d.undoes = true ∧ d.actions = taps 5 := by
  intro u d
  have undoes : d.undoes = true := by decide +kernel
  refine ⟨rfl, undoes, ?_⟩
  exact (undo_erases_told_text rfl [.say "type hello"] undoes).1.trans (by decide +kernel)

/-- After a command of the user's typed two letters, taking back presses backspace for the five of
the text before. -/
theorem SessionSetup.undo_erases_too_much_after_custom_text :
    let u : SessionSetup := {
      settings := {
        text := { punctuationCommands := false }
        custom := { enabled := true, commands := [.mapping [("trigger", .text "agree"),
          ("action", .mapping [("type", .text "type_text"), ("text", .text "ok")])]] } }
      platform := "linux", files := .empty "/work", environment := []
      now := ⟨2024, 6, 7, 8, 9, 10⟩ }
    let said := [.say "type hello", .say "agree"]
    let d := (u.start.after said).deed (.say "scratch that")
    (u.refuses = fun _ _ => none) ∧ d.undoes = true ∧
      latest Deed.typed? (u.start.deeds said) = some "ok" ∧ d.actions = taps 5 ∧
      d.actions ≠ taps (characters (latest Deed.typed? (u.start.deeds said))) := by
  exact ⟨rfl, by decide +kernel⟩

/-! ## Runs with refusals -/

theorem erased_cons (d : Deed) (ds : List Deed) :
    erased (d :: ds) = (if d.undoes then d.presses else 0) + erased ds := rfl

theorem erased_eq_zero {ds : List Deed} (h : ∀ d ∈ ds, d.undoes = true → d.presses = 0) :
    erased ds = 0 := by
  induction ds with
  | nil => rfl
  | cons d ds ih =>
      rw [List.forall_mem_cons] at h
      rw [erased_cons, ih h.2]
      split
      · exact h.1 ‹_›
      · rfl

theorem erasedInVain_cons (d : Deed) (ds : List Deed) :
    erasedInVain (d :: ds) =
      (if d.fails then if d.undoes then d.presses else 0 else 0) + erasedInVain ds := by
  cases fails : d.fails <;> simp [erasedInVain, erased_cons, fails]

/-- Until another text is told, no attempt to take a text back goes further than its length, and the
attempts that fail count on top of the one that succeeds. -/
theorem Session.Underway.erases {s : Session} {u : SessionSetup} (underway : Underway u s)
    {hs : List Happening} (quiet : ∀ d ∈ s.deeds hs, d.told? = none) :
    (∀ d ∈ s.deeds hs, d.undoes = true → d.presses ≤ s.dictation.last.length) ∧
      erased (s.deeds hs) = erasedInVain (s.deeds hs) +
        if (s.deeds hs).any fun d => d.undoes && !d.fails then s.dictation.last.length else 0 := by
  induction hs generalizing s with
  | nil => exact ⟨by simp [deeds], rfl⟩
  | cons h hs ih =>
      obtain ⟨tale, step⟩ := s.step_next h
      rw [deeds, List.forall_mem_cons] at quiet
      obtain ⟨each, total⟩ := ih (underway.step step) quiet.2
      rw [deeds, List.forall_mem_cons, erased_cons, erasedInVain_cons, List.any_cons, total]
      have effect := underway.effect h
      -- either the text is forgotten now, or the rest of the run is about the same text
      generalize s.deed h = d at effect quiet ⊢
      generalize hlast : (s.next h).dictation.last = last' at effect each total
      cases effect with
      | takenBack undoes told fails actions =>
          have all : d.presses = s.dictation.last.length := by
            rw [Deed.presses, actions, count_taps]
          refine ⟨⟨fun _ => Nat.le_of_eq all, fun d' mem undoes => ?_⟩, ?_⟩
          · exact Nat.le_trans (each d' mem undoes) (Nat.zero_le _)
          · simp [undoes, fails, all, Nat.add_comm]
      | takenInVain undoes told fails presses refused =>
          refine ⟨⟨fun _ => presses, each⟩, ?_⟩
          simp [undoes, fails, Nat.add_assoc]
      | wrote undoes told typed =>
          rw [quiet.1] at told
          cases told
      | otherwise undoes told typed =>
          refine ⟨⟨fun other => ?_, each⟩, ?_⟩
          · rw [undoes] at other
            cases other
          · simp [undoes]

/-- Until another text is told, each attempt to take a text back presses backspace at most once for
each of its characters, and what is pressed altogether is what the failed attempts pressed and, if
one succeeded, once more for each character. So it is within the length of the text just if the
failed attempts pressed nothing, or none succeeded and together they stayed within it. Before any
text is told, nothing is pressed. -/
theorem SessionSetup.undo_presses_after_told_text (u : SessionSetup) :
    (∀ hs, (∀ d ∈ u.start.deeds hs, d.told? = none) → erased (u.start.deeds hs) = 0) ∧
    ∀ before h text hs,
      let ds := ((u.start.after before).next h).deeds hs
      let succeeds := ds.any fun d => d.undoes && !d.fails
      ((u.start.after before).deed h).told? = some text → (∀ d ∈ ds, d.told? = none) →
        (∀ d ∈ ds, d.undoes = true → d.presses ≤ text.length) ∧
        erased ds = erasedInVain ds + (if succeeds then text.length else 0) ∧
        (erased ds ≤ text.length ↔
          erasedInVain ds = 0 ∨ succeeds = false ∧ erasedInVain ds ≤ text.length) := by
  constructor
  · intro hs quiet
    obtain ⟨each, -⟩ := (Session.underway_start u).erases quiet
    exact erased_eq_zero fun d mem undoes => Nat.le_zero.1 (each d mem undoes)
  · intro before h text hs ds succeeds told quiet
    have underway := Session.underway_after u before
    obtain ⟨tale, step⟩ := (u.start.after before).step_next h
    have remembered : ((u.start.after before).next h).dictation.last = text := by
      have effect := underway.effect h
      generalize ((u.start.after before).next h).dictation.last = last' at effect
      cases effect with
      | wrote _ told' => exact Option.some.inj (told'.symm.trans told)
      | takenBack _ silent | takenInVain _ silent | otherwise _ silent =>
          rw [silent] at told
          cases told
    obtain ⟨each, total⟩ := (underway.step step).erases quiet
    rw [remembered] at each total
    refine ⟨each, total, ?_⟩
    have total : erased ds = erasedInVain ds + if succeeds then text.length else 0 := total
    rw [total]
    cases succeeds with
    | true =>
        rw [if_pos rfl]
        constructor
        · intro within
          exact .inl (by omega)
        · rintro (nothing | ⟨failed, -⟩)
          · omega
          · cases failed
    | false =>
        rw [if_neg Bool.false_ne_true, Nat.add_zero]
        constructor
        · intro within
          exact .inr ⟨rfl, within⟩
        · rintro (nothing | ⟨-, within⟩)
          · omega
          · exact within

/-- A single attempt that fails half way stays within the text. -/
theorem SessionSetup.undo_presses_after_told_hello :
    let u : SessionSetup := {
      settings := { text := { punctuationCommands := false } }, platform := "linux"
      files := .empty "/work", environment := [], now := ⟨2024, 6, 7, 8, 9, 10⟩
      refuses := Fault.refusal [{
        method := .pressKey, subject := some (.text "backspace"), nth := some 3
        failure := .plain "jammed" }] }
    let ds := (u.start.next (.say "type hello")).deeds [.say "scratch that"]
    (u.start.deed (.say "type hello")).told? = some "hello" ∧ (∀ d ∈ ds, d.told? = none) ∧
      erased ds = 2 ∧ erased ds ≤ "hello".length := by
  intro u ds
  have told : (u.start.deed (.say "type hello")).told? = some "hello" := by decide +kernel
  have quiet : ∀ d ∈ ds, d.told? = none := by decide +kernel
  obtain ⟨-, -, within⟩ := u.undo_presses_after_told_text.2 [] _ "hello" [.say "scratch that"] told
    quiet
  exact ⟨told, quiet, by decide +kernel, within.2 (.inr (by decide +kernel))⟩

/-- An attempt that fails half way and one that succeeds go further than the text together. -/
theorem SessionSetup.undo_presses_too_often_after_failure :
    let u : SessionSetup := {
      settings := { text := { punctuationCommands := false } }, platform := "linux"
      files := .empty "/work", environment := [], now := ⟨2024, 6, 7, 8, 9, 10⟩
      refuses := Fault.refusal [{
        method := .pressKey, subject := some (.text "backspace"), nth := some 3
        failure := .plain "jammed" }] }
    let ds := (u.start.next (.say "type hello")).deeds [.say "scratch that", .say "scratch that"]
    (u.start.deed (.say "type hello")).told? = some "hello" ∧ (∀ d ∈ ds, d.told? = none) ∧
      erased ds = 7 ∧ ¬ erased ds ≤ "hello".length := by
  decide +kernel

end VoiceControl
