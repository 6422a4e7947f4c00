import VoiceControl.Proofs.Command.Reporting

/-!
# What nothing looks at

The journal is written and never read. So an act comes to the same on two workspaces that differ in
their journals only, and if the journals told the same but for how an utterance was worded, they
still do so afterwards.

* `Act.Blind`: an act that is so.
* `Act.Blind.bind`, `Act.Blind.reading`: such acts put together are so, and what they do may depend
  on all of the workspace but the journal.
-/

namespace VoiceControl

/-- An event without the words in which the utterance was spoken. The text of another failure was
not spoken, it was to be typed. -/
def Event.unheard : Event → Event
  | .textProcessed _ processed word => .textProcessed "" processed word
  | .failed component text error =>
      .failed component (if component = "text_processing" then "" else text) error
  | e => e

/-- Two journals tell the same, but for the words in which utterances were spoken. -/
structure Journal.Alike (j j' : Journal) : Prop where
  notices : j'.notices = j.notices
  events : j'.events.map Event.unheard = j.events.map Event.unheard
  sideEvents : j'.sideEvents.map Event.unheard = j.sideEvents.map Event.unheard
  inquiries : j'.inquiries = j.inquiries
  listening : j'.listening = j.listening

namespace Journal

variable {j j' : Journal}

theorem alike_refl (j : Journal) : j.Alike j := ⟨rfl, rfl, rfl, rfl, rfl⟩

theorem Alike.note (h : j.Alike j') (n : Notice) : (j.note n).Alike (j'.note n) :=
  { h with notices := congrArg (· ++ [n]) h.notices }

/-- What is published may name the utterance in other words. -/
theorem Alike.publish (h : j.Alike j') (ch : Channel) {e e' : Event}
    (same : e'.unheard = e.unheard) : (j.publish ch e).Alike (j'.publish ch e') := by
  have concat {es es' : List Event} (before : es'.map Event.unheard = es.map Event.unheard) :
      (es' ++ [e']).map Event.unheard = (es ++ [e]).map Event.unheard := by
    rw [List.map_append, List.map_append, before, List.map_singleton, List.map_singleton, same]
  unfold Journal.publish
  by_cases listening : j.listening = true
  · rw [if_pos listening, if_pos (h.listening.trans listening)]
    cases ch with
    | main => exact { h with events := concat h.events }
    | side => exact { h with sideEvents := concat h.sideEvents }
  · rw [if_neg listening, if_neg (h.listening ▸ listening)]
    exact h

theorem Alike.hear (h : j.Alike j') (s : Signal) : (j.hear s).Alike (j'.hear s) := by
  cases s with
  | notice n => exact h.note n
  | event e => exact h.publish .main rfl
  | inquiry i => exact { h with inquiries := congrArg (· ++ [i]) h.inquiries }

end Journal

namespace Workspace

/-- Two workspaces differ in their journals at most, and these tell the same but for the words in
which utterances were spoken. -/
def Alike (w w' : Workspace) : Prop :=
  ∃ journal, w.journal.Alike journal ∧ w' = { w with journal }

variable {w w' : Workspace}

theorem Alike.noted (h : w.Alike w') (ns : List Notice) : (w.noted ns).Alike (w'.noted ns) := by
  obtain ⟨j, journal, rfl⟩ := h
  refine ⟨ns.foldl Journal.note j, ?_, rfl⟩
  show (ns.foldl Journal.note w.journal).Alike (ns.foldl Journal.note j)
  generalize w.journal = i at journal
  induction ns generalizing i j with
  | nil => exact journal
  | cons n ns ih => exact ih _ _ (journal.note n)

theorem Alike.published (h : w.Alike w') (sink : Option Channel) {e e' : Event}
    (same : e'.unheard = e.unheard) : (w.published sink e).Alike (w'.published sink e') := by
  cases sink with
  | none => exact h
  | some ch =>
      obtain ⟨j, journal, rfl⟩ := h
      exact ⟨_, journal.publish ch same, rfl⟩

theorem Alike.hear (h : w.Alike w') (signals : List Signal) :
    (w.hear signals).Alike (w'.hear signals) := by
  obtain ⟨j, journal, rfl⟩ := h
  refine ⟨signals.foldl Journal.hear j, ?_, rfl⟩
  show (signals.foldl Journal.hear w.journal).Alike (signals.foldl Journal.hear j)
  generalize w.journal = i at journal
  induction signals generalizing i j with
  | nil => exact journal
  | cons s signals ih => exact ih _ _ (journal.hear s)

end Workspace

namespace Act

variable {α β : Type}

/-- An act comes to the same on workspaces that are alike, and leaves them so. -/
def Blind (x : Act α) : Prop :=
  ∀ w w' : Workspace, w.Alike w' → (x.on w').1 = (x.on w).1 ∧ (x.on w).2.Alike (x.on w').2

theorem blind_pure (a : α) : (pure a : Act α).Blind := fun _ _ alike => ⟨rfl, alike⟩

theorem blind_throw (f : Failure) : (throw f : Act α).Blind := fun _ _ alike => ⟨rfl, alike⟩

theorem blind_conclude (outcome : Except Failure α) : (conclude outcome).Blind := by
  cases outcome with
  | ok a => exact blind_pure a
  | error f => exact blind_throw f

theorem Blind.bind {x : Act α} {f : α → Act β} (first : x.Blind) (next : ∀ a, (f a).Blind) :
    (x >>= f).Blind := by
  intro w w' alike
  obtain ⟨outcome, after⟩ := first w w' alike
  rw [on_bind, on_bind]
  rcases hr : x.on w with ⟨e | a, v⟩ <;> rcases hr' : x.on w' with ⟨r', v'⟩ <;>
    rw [hr, hr'] at outcome after <;> subst outcome
  · exact ⟨rfl, after⟩
  · exact next a v v' after

theorem Blind.attempt {x : Act α} (h : x.Blind) : (attempt x).Blind := by
  intro w w' alike
  obtain ⟨outcome, after⟩ := h w w' alike
  rw [on_attempt, on_attempt, outcome]
  exact ⟨rfl, after⟩

/-- An act may go by all that it sees, unless it looks at the journal. -/
theorem Blind.reading {f : Workspace → Act α}
    (unread : ∀ w journal, f { w with journal } = f w) (each : ∀ w, (f w).Blind) :
    (get >>= f).Blind := by
  intro w w' alike
  have same : f w' = f w := by
    obtain ⟨j, -, rfl⟩ := alike
    exact unread w j
  rw [on_bind, on_bind, on_get, on_get]
  dsimp only
  rw [same]
  exact each w w w' alike

theorem blind_note (n : Notice) : (note n).Blind := fun _ _ alike => ⟨rfl, alike.noted [n]⟩

theorem blind_notes (ns : List Notice) : (ns.forM note : Act PUnit).Blind := by
  intro w w' alike
  rw [on_notes, on_notes]
  exact ⟨rfl, alike.noted ns⟩

theorem blind_publish (sink : Option Channel) (e : Event) : (publish sink e).Blind := by
  intro w w' alike
  rw [on_publish, on_publish]
  exact ⟨rfl, alike.published sink rfl⟩

/-! ## The desktop -/

theorem blind_call (c : Call) : (call c).Blind := by
  rintro w w' ⟨j, journal, rfl⟩
  rw [on_call, on_call]
  exact ⟨rfl, j, journal, rfl⟩

theorem blind_tap (key : String) : (tap key).Blind :=
  (blind_call (.act (.pressKey key))).bind fun _ => blind_call (.act (.releaseKey key))

theorem blind_releaseEach (keys : List String) : (releaseEach keys).Blind := by
  induction keys with
  | nil => exact blind_pure ()
  | cons key keys ih => exact (blind_call (.act (.releaseKey key))).bind fun _ => ih

theorem alike_pressEach {action : Act Unit} (h : action.Blind) (held keys : List String)
    {w w' : Workspace} (alike : w.Alike w') :
    (pressEach held keys action w').1 = (pressEach held keys action w).1 ∧
      (pressEach held keys action w).2.Alike (pressEach held keys action w').2 := by
  induction keys generalizing held w w' with
  | nil =>
      obtain ⟨outcome, after⟩ := h w w' alike
      rw [pressEach_nil, pressEach_nil, outcome]
      exact ⟨rfl, after⟩
  | cons key keys ih =>
      obtain ⟨outcome, after⟩ := blind_call (.act (.pressKey key)) w w' alike
      rw [pressEach_cons, pressEach_cons, act]
      rcases hr : (call (.act (.pressKey key))).on w with ⟨f | ⟨⟩, v⟩ <;>
        rcases hr' : (call (.act (.pressKey key))).on w' with ⟨r', v'⟩ <;>
        rw [hr, hr'] at outcome after <;> subst outcome
      · exact ⟨rfl, after⟩
      · exact ih (key :: held) after

theorem Blind.withModifiers {action : Act Unit} (h : action.Blind) (modifiers : List String) :
    (withModifiers modifiers action).Blind := by
  intro w w' alike
  obtain ⟨pressed, after⟩ := alike_pressEach h [] modifiers alike
  rw [on_withModifiers, on_withModifiers]
  dsimp only
  rw [pressed]
  exact (blind_releaseEach _).bind (fun _ => blind_conclude _) _ _ after

theorem blind_drag (start finish : Point Number) : (drag start finish).Blind :=
  (blind_call (.act (.movePointer start))).bind fun _ =>
    (blind_call (.act (.pressButton .left))).bind fun _ =>
      (blind_call (.act (.movePointer finish))).attempt.bind fun outcome =>
        (blind_call (.act (.releaseButton .left))).bind fun _ => blind_conclude outcome

/-! ## The overlays -/

theorem blind_ask (request : Coordinator → Coordinator.Reply Bool) : (ask request).Blind := by
  rintro w w' ⟨j, journal, rfl⟩
  rw [ask, on_bind, on_bind, on_get, on_get]
  dsimp only
  cases w.reach.overlays with
  | false => exact ⟨rfl, j, journal, rfl⟩
  | true =>
      have moved : { w with overlays := (request w.overlays).coordinator }.Alike
          { w with overlays := (request w.overlays).coordinator, journal := j } :=
        ⟨j, journal, rfl⟩
      exact ⟨rfl, moved.hear _⟩

theorem blind_activate (n : Number) : (activate n).Blind := by
  rintro w w' ⟨j, journal, rfl⟩
  rw [activate, on_bind, on_bind, on_get, on_get]
  dsimp only
  cases w.reach.overlays with
  | false => exact ⟨rfl, j, journal, rfl⟩
  | true =>
      have same : w.Alike { w with journal := j } := ⟨j, journal, rfl⟩
      rw [if_pos rfl, if_pos rfl, on_bind, on_bind, on_set, on_set]
      exact blind_conclude _ _ _ (same.hear _)

/-! ## What is kept besides -/

theorem blind_repeated (command : Nat) (d : Direction) : (repeated command d).Blind := by
  rintro w w' ⟨j, journal, rfl⟩
  exact ⟨rfl, j, journal, rfl⟩

theorem blind_filed (files : Files) : (modify fun w => { w with files } : Act PUnit).Blind := by
  rintro w w' ⟨j, journal, rfl⟩
  exact ⟨rfl, j, journal, rfl⟩

end Act

end VoiceControl
