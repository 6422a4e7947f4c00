import VoiceControl.Proofs.Command.Discretion
import VoiceControl.Proofs.Overlay.Announcements

/-!
# What commands are made of

A command looks at the workspace, writes down, asks the overlays, makes single calls on the desktop
and makes gestures: it taps a key, holds keys during an act, or drags. `Act.Composed` is what can
be put together from these. `Act.Composed.within` is an induction over it: a relation between
workspaces that every part keeps is kept by the whole, whether it gives a value or fails. By
`Act.Composed.blind` no part looks at the journal, and so the whole does not.
-/

namespace VoiceControl

/-- Whether an event is about an utterance itself: how it was read, what was typed for it or why it
failed. Commands and overlays publish no such event. -/
def Event.isOfUtterance : Event → Bool
  | .textProcessed .. | .textTyped _ | .failed .. => true
  | _ => false

theorem Event.isOfUtterance_of_isLifecycle {e : Event} (h : e.isLifecycle = true) :
    e.isOfUtterance = false := by
  cases e <;> first | rfl | cases h

/-- What is read off the events about utterances is not found in others. -/
theorem Event.filterMap_isOfUtterance {β : Type} {f : Event → Option β}
    (about : ∀ e, e.isOfUtterance = false → f e = none) (es : List Event) :
    (es.filter (·.isOfUtterance)).filterMap f = es.filterMap f := by
  rw [List.filterMap_filter]
  refine congrArg (List.filterMap · es) (funext fun e => ?_)
  cases he : e.isOfUtterance with
  | true => exact if_pos rfl
  | false => exact (about e he).symm

/-- Whether a call presses something or lets go of it. -/
def Call.holds : Call → Bool
  | .act (.pressKey _) | .act (.releaseKey _) | .act (.pressButton _) | .act (.releaseButton _) =>
      true
  | _ => false

/-- Every call is recorded, whatever comes of it. -/
theorem Desktop.calls_call (d : Desktop) (c : Call) : (d.call c).2.calls = c :: d.calls := by
  unfold call
  split
  · rfl
  · cases c with
    | act a => cases a <;> rfl
    | askPointer | askFile path => rfl

/-- What a desktop refuses is settled beforehand. -/
theorem Desktop.refuses_call (d : Desktop) (c : Call) : (d.call c).2.refuses = d.refuses := by
  unfold call
  split
  · rfl
  · cases c with
    | act a => cases a <;> rfl
    | askPointer | askFile path => rfl

namespace Workspace

/-! ## Relations that last -/

/-- A relation that holds while nothing is done, and from one act to the next. -/
structure Lasting (R : Workspace → Workspace → Prop) : Prop where
  refl : ∀ w, R w w
  trans : ∀ {w w' w''}, R w w' → R w' w'' → R w w''

/-- Of the events published since, those that are about the utterance are `tale`. -/
structure Tells (w : Workspace) (tale : List Event) (w' : Workspace) : Prop where
  listening : w'.journal.listening = w.journal.listening
  events : ∃ own, w'.journal.events = w.journal.events ++ own ∧
    own.filter (·.isOfUtterance) = tale

/-- Nothing was done on the desktop and nothing was published about the utterance; the overlays
were asked or drawn at most, and what commands have at their disposal is the same. -/
structure Aside (w w' : Workspace) : Prop extends w.Tells [] w' where
  desktop : w'.desktop = w.desktop
  overlays : w.overlays.Went w'.overlays
  reach : w'.reach = w.reach

variable {w w' w'' : Workspace} {tale more : List Event}

/-- Nothing was published at all. -/
theorem tells_of_silent (listening : w'.journal.listening = w.journal.listening)
    (events : w'.journal.events = w.journal.events) : w.Tells [] w' :=
  ⟨listening, [], by rw [events, List.append_nil], rfl⟩

theorem Tells.trans (h : w.Tells tale w') (h' : w'.Tells more w'') :
    w.Tells (tale ++ more) w'' := by
  obtain ⟨own, events, about⟩ := h.events
  obtain ⟨own', events', about'⟩ := h'.events
  refine ⟨h'.listening.trans h.listening, own ++ own', ?_, ?_⟩
  · rw [events', events, List.append_assoc]
  · rw [List.filter_append, about, about']

theorem lasting_tells : Lasting (·.Tells [] ·) where
  refl _ := tells_of_silent rfl rfl
  trans h h' := h.trans h'

/-- Nothing but the journal has changed. -/
theorem Tells.aside {journal : Journal} (h : w.Tells [] { w with journal }) :
    w.Aside { w with journal } :=
  ⟨h, rfl, .still, rfl⟩

theorem lasting_aside : Lasting Aside where
  refl w := ⟨lasting_tells.refl w, rfl, .still, rfl⟩
  trans h h' := ⟨h.toTells.trans h'.toTells, h'.desktop.trans h.desktop,
    h.overlays.trans h'.overlays, h'.reach.trans h.reach⟩

/-- What is published while somebody listens is told. -/
theorem tells_published (listening : w.journal.listening = true) {e : Event}
    (about : e.isOfUtterance = true) : w.Tells [e] (w.published (some .main) e) :=
  ⟨w.journal.listening_publish .main e, [e], Journal.on_publish listening .main e,
    List.filter_cons_of_pos about⟩

theorem aside_noted (w : Workspace) (ns : List Notice) : w.Aside (w.noted ns) := by
  obtain ⟨listening, events⟩ := w.journal_noted ns
  exact Tells.aside (tells_of_silent listening (events .main))

/-- Publishing on a channel changes nothing but the journal. -/
theorem aside_published (w : Workspace) (sink : Option Channel) {e : Event}
    (about : e.isOfUtterance = false) : w.Aside (w.published sink e) := by
  cases sink with
  | none => exact lasting_aside.refl w
  | some ch =>
      refine Tells.aside ?_
      cases listening : w.journal.listening with
      | false =>
          exact tells_of_silent (w.journal.listening_publish ch e)
            (by simp [Journal.publish, listening])
      | true =>
          cases ch with
          | main =>
              exact ⟨w.journal.listening_publish .main e, [e], Journal.on_publish listening .main e,
                List.filter_cons_of_neg (Bool.eq_false_iff.1 about)⟩
          | side =>
              -- the events of the commands' own channel are not those of the session
              exact tells_of_silent (w.journal.listening_publish .side e)
                (w.journal.on_publish_of_ne (by decide : Channel.main ≠ .side) e)

/-- What overlays say about themselves is written down. -/
theorem aside_hear {signals : List Signal}
    (about : ∀ e ∈ Signal.events signals, e.isLifecycle = true) (w : Workspace) :
    w.Aside (w.hear signals) := by
  induction signals generalizing w with
  | nil => exact lasting_aside.refl w
  | cons s signals ih =>
      cases s with
      | notice n =>
          have first : w.Aside (w.hear [.notice n]) := Tells.aside (tells_of_silent rfl rfl)
          exact lasting_aside.trans first (ih about _)
      | inquiry i =>
          have first : w.Aside (w.hear [.inquiry i]) := Tells.aside (tells_of_silent rfl rfl)
          exact lasting_aside.trans first (ih about _)
      | event e =>
          rw [Signal.events_event, List.forall_mem_cons] at about
          have told := Event.isOfUtterance_of_isLifecycle about.1
          exact lasting_aside.trans (w.aside_published (some .main) told) (ih about.2 _)

end Workspace

/-! ## Acts and what they keep -/

namespace Act

variable {α β : Type} {R : Workspace → Workspace → Prop}

/-- An act leads from every workspace to one that the relation permits, whatever comes of it. -/
def Within (R : Workspace → Workspace → Prop) (x : Act α) : Prop := ∀ w, R w (x.on w).2

theorem within_pure (lasting : Workspace.Lasting R) (a : α) : (pure a : Act α).Within R :=
  fun w => lasting.refl w

theorem within_throw (lasting : Workspace.Lasting R) (f : Failure) : (throw f : Act α).Within R :=
  fun w => lasting.refl w

theorem within_get (lasting : Workspace.Lasting R) : (get : Act Workspace).Within R :=
  fun w => lasting.refl w

theorem within_conclude (lasting : Workspace.Lasting R) (outcome : Except Failure α) :
    (conclude outcome).Within R := by
  cases outcome with
  | ok a => exact within_pure lasting a
  | error f => exact within_throw lasting f

theorem Within.bind (lasting : Workspace.Lasting R) {x : Act α} {f : α → Act β}
    (first : x.Within R) (next : ∀ a, (f a).Within R) : (x >>= f).Within R := by
  intro w
  have began := first w
  rw [on_bind]
  rcases hr : x.on w with ⟨a | f', w'⟩ <;> rw [hr] at began
  · exact began
  · exact lasting.trans began (next _ w')

theorem Within.attempt {x : Act α} (h : x.Within R) : (attempt x).Within R := h

/-! ## Gestures, call by call -/

/-- A refused action has no effect, and one that is granted is added to those done. -/
theorem act_cases {a : Action} {w w' : Workspace} {r : Except Failure Unit}
    (ran : (act a).on w = (r, w')) :
    w'.desktop.refuses = w.desktop.refuses ∧
      ((∃ f, w.desktop.refuses w.desktop.calls (.act a) = some f ∧ r = .error f ∧
          w'.desktop.actions = w.desktop.actions) ∨
        (w.desktop.refuses w.desktop.calls (.act a) = none ∧ r = .ok () ∧
          w'.desktop.actions = w.desktop.actions ++ [a])) := by
  rw [act, on_call] at ran
  obtain ⟨rfl, rfl⟩ := Prod.mk.inj ran
  refine ⟨w.desktop.refuses_call _, ?_⟩
  cases refused : w.desktop.refuses w.desktop.calls (.act a) with
  | some f =>
      exact .inl ⟨f, rfl, by simp [Desktop.call, refused], Desktop.actions_call_of_refused refused⟩
  | none =>
      refine .inr ⟨rfl, by simp [Desktop.call, refused], ?_⟩
      simp only [Desktop.call, refused]
      exact Desktop.actions_perform_act _ a

/-- A call adds at most its action to those done, and a question adds none. -/
theorem call_cases {c : Call} {w w' : Workspace} {r : Except Failure Unit}
    (ran : (call c).on w = (r, w')) :
    w'.desktop.refuses = w.desktop.refuses ∧ (w'.desktop.actions = w.desktop.actions ∨
      ∃ a, c = .act a ∧ w'.desktop.actions = w.desktop.actions ++ [a]) := by
  cases c with
  | act a =>
      obtain ⟨refuses, ⟨-, -, -, actions⟩ | ⟨-, -, actions⟩⟩ := act_cases ran
      · exact ⟨refuses, .inl actions⟩
      · exact ⟨refuses, .inr ⟨a, rfl, actions⟩⟩
  | askPointer | askFile path =>
      obtain ⟨-, rfl⟩ := Prod.mk.inj ((on_call _ w).symm.trans ran)
      refine ⟨w.desktop.refuses_call _, .inl ?_⟩
      unfold Desktop.call
      split <;> rfl

section Within

/-- Gestures press, let go and move the pointer, so they keep what such calls keep. -/
theorem within_tap (lasting : Workspace.Lasting R)
    (press : ∀ {c : Call}, c.holds = true → (call c).Within R) (key : String) :
    (tap key).Within R :=
  (press (c := .act (.pressKey key)) rfl).bind lasting fun _ =>
    press (c := .act (.releaseKey key)) rfl

theorem within_pressEach (lasting : Workspace.Lasting R)
    (press : ∀ {c : Call}, c.holds = true → (call c).Within R)
    {action : Act Unit} (h : action.Within R) (held keys : List String) (w : Workspace) :
    R w (pressEach held keys action w).2 := by
  induction keys generalizing held w with
  | nil => exact h w
  | cons key keys ih =>
      have pressed := press (c := .act (.pressKey key)) rfl w
      rw [pressEach_cons]
      rcases hr : (act (.pressKey key)).on w with ⟨f | ⟨⟩, w'⟩ <;> rw [act] at hr <;>
        rw [hr] at pressed
      · exact pressed
      · exact lasting.trans pressed (ih (key :: held) w')

theorem within_releaseEach (lasting : Workspace.Lasting R)
    (press : ∀ {c : Call}, c.holds = true → (call c).Within R) (keys : List String) :
    (releaseEach keys).Within R := by
  induction keys with
  | nil => exact within_pure lasting ()
  | cons key keys ih =>
      exact (press (c := .act (.releaseKey key)) rfl).bind lasting fun _ => ih

theorem within_withModifiers (lasting : Workspace.Lasting R)
    (press : ∀ {c : Call}, c.holds = true → (call c).Within R)
    {action : Act Unit} (h : action.Within R) (modifiers : List String) :
    (withModifiers modifiers action).Within R := by
  intro w
  rw [on_withModifiers]
  -- pressing never raises, it gives its outcome; what is held is released either way
  refine lasting.trans (within_pressEach lasting press h [] modifiers w) ?_
  exact (within_releaseEach lasting press _).bind lasting (fun _ => within_conclude lasting _) _

theorem within_drag (lasting : Workspace.Lasting R)
    (press : ∀ {c : Call}, c.holds = true → (call c).Within R)
    (move : ∀ p, (call (.act (.movePointer p))).Within R) (start finish : Point Number) :
    (drag start finish).Within R := by
  refine (move start).bind lasting fun _ => ?_
  refine (press (c := .act (.pressButton .left)) rfl).bind lasting fun _ => ?_
  refine (move finish).attempt.bind lasting fun outcome => ?_
  exact (press (c := .act (.releaseButton .left)) rfl).bind lasting
    fun _ => within_conclude lasting outcome

end Within

/-! ## Composition -/

/-- An act put together from what commands do. What it types is permitted by `types`. -/
inductive Composed (types : String → Prop) : {α : Type} → Act α → Prop
  | aside {α : Type} {x : Act α} (h : x.Within Workspace.Aside) (blind : x.Blind) :
      Composed types x
  | reading {α : Type} {f : Workspace → Act α} (unread : ∀ w journal, f { w with journal } = f w)
      (each : ∀ w, Composed types (f w)) : Composed types (get >>= f)
  | bind {α β : Type} {x : Act α} {f : α → Act β} (first : Composed types x)
      (next : ∀ a, Composed types (f a)) : Composed types (x >>= f)
  | attempt {α : Type} {x : Act α} (tried : Composed types x) : Composed types (attempt x)
  | call {c : Call} (free : c.holds = false) (typed : ∀ t, c = .act (.typeText t) → types t) :
      Composed types (Act.call c)
  | tap (key : String) : Composed types (Act.tap key)
  | hold (modifiers : List String) {action : Act Unit} (during : Composed types action) :
      Composed types (withModifiers modifiers action)
  | drag (start finish : Point Number) : Composed types (Act.drag start finish)

variable {types : String → Prop}

/-- What every part of an act keeps, the act keeps. -/
theorem Composed.within (lasting : Workspace.Lasting R)
    (aside : ∀ {w w'}, Workspace.Aside w w' → R w w')
    (call : ∀ {c : Call}, c.holds = false → (∀ t, c = .act (.typeText t) → types t) →
      (Act.call c).Within R)
    (tap : ∀ key, (Act.tap key).Within R)
    (hold : ∀ modifiers {action : Act Unit}, action.Within R →
      (withModifiers modifiers action).Within R)
    (drag : ∀ start finish, (Act.drag start finish).Within R) {x : Act α}
    (composed : x.Composed types) : x.Within R := by
  induction composed with
  | aside h _ => exact fun w => aside (h w)
  | reading _ _ each => exact (within_get lasting).bind lasting each
  | bind _ _ first next => exact first.bind lasting next
  | attempt _ tried => exact tried.attempt
  | call free typed => exact call free typed
  | tap key => exact tap key
  | hold modifiers _ during => exact hold modifiers during
  | drag start finish => exact drag start finish

/-- Acts keep what calls keep. -/
theorem Composed.within_of_call (lasting : Workspace.Lasting R)
    (aside : ∀ {w w'}, Workspace.Aside w w' → R w w')
    (call : ∀ c, (∀ t, c = .act (.typeText t) → types t) → (Act.call c).Within R)
    {x : Act α} (composed : x.Composed types) : x.Within R := by
  have press {c : Call} (holds : c.holds = true) : (Act.call c).Within R :=
    call c fun _ typed => by rw [typed] at holds; cases holds
  exact composed.within lasting aside (fun _ typed => call _ typed) (within_tap lasting press)
    (fun modifiers _ during => within_withModifiers lasting press during modifiers)
    (within_drag lasting press fun _ => call _ fun _ typed => by cases typed)

/-- No act of commands looks at the journal. -/
theorem Composed.blind {x : Act α} (composed : x.Composed types) : x.Blind := by
  induction composed with
  | aside _ blind => exact blind
  | reading unread _ each => exact .reading unread each
  | bind _ _ first next => exact first.bind next
  | attempt _ tried => exact tried.attempt
  | call _ _ => exact blind_call _
  | tap key => exact blind_tap key
  | hold modifiers _ during => exact during.withModifiers modifiers
  | drag start finish => exact blind_drag start finish

/-- No act of commands is about the utterance. -/
theorem Composed.tells {x : Act α} (composed : x.Composed types) : x.Within (·.Tells [] ·) := by
  refine composed.within_of_call Workspace.lasting_tells (fun h => h.toTells) fun c _ w => ?_
  rw [on_call]
  exact Workspace.tells_of_silent rfl rfl

end Act

end VoiceControl
