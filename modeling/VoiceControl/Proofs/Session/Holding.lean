import VoiceControl.Proofs.Session.Happenings

/-!
# What is held down

Keys and buttons that are held form a stack: whatever is let go of is what was pressed last of all
that is still held. As long as no release is refused, every gesture keeps to this and ends with the
stack that it began with, wherever it fails. So nothing is held after an utterance.

* `heldAfter`: the stack after some actions, which exists only if they keep to the order.
* `Workspace.Grips`: what a part of a gesture does to the top of the stack, whatever lies below.
-/

namespace VoiceControl

/-- What can be held down on a desktop. -/
inductive Held where
  | key (name : String)
  | button (b : MouseButton)
  deriving Repr, DecidableEq

namespace Held

/-- The action that presses it. -/
def press : Held → Action
  | .key k => .pressKey k
  | .button b => .pressButton b

/-- The action that lets go of it. -/
def release : Held → Action
  | .key k => .releaseKey k
  | .button b => .releaseButton b

@[simp] theorem press_inj {h x : Held} : h.press = x.press ↔ h = x := by
  cases h <;> cases x <;> simp [press]

@[simp] theorem release_inj {h x : Held} : h.release = x.release ↔ h = x := by
  cases h <;> cases x <;> simp [release]

@[simp] theorem press_ne_release (h x : Held) : h.press ≠ x.release := by
  cases h <;> cases x <;> simp [press, release]

@[simp] theorem release_ne_press (h x : Held) : h.release ≠ x.press :=
  (press_ne_release x h).symm

/-- Lets go of the top of a stack. -/
def pop (h : Held) : List Held → Option (List Held)
  | [] => none
  | top :: rest => if top = h then some rest else none

end Held

/-- The stack of what is held once an action was done on it. -/
def Action.hold (held : List Held) : Action → Option (List Held)
  | .pressKey k => some (.key k :: held)
  | .pressButton b => some (.button b :: held)
  | .releaseKey k => Held.pop (.key k) held
  | .releaseButton b => Held.pop (.button b) held
  | _ => some held

/-- The stack of what is held after actions, unless something was let go of out of order. -/
def heldAfter (held : List Held) (done : List Action) : Option (List Held) :=
  done.foldlM Action.hold held

section Stack

variable {held held' : List Held} {before done : List Action}

theorem heldAfter_append (held : List Held) (before done : List Action) :
    heldAfter held (before ++ done) = (heldAfter held before).bind (heldAfter · done) :=
  List.foldlM_append

@[simp] theorem hold_press (h : Held) (held : List Held) :
    h.press.hold held = some (h :: held) := by
  cases h <;> rfl

theorem hold_release {h : Held} {held held' : List Held} :
    h.release.hold held = some held' ↔ held = h :: held' := by
  have popped : h.release.hold held = h.pop held := by cases h <;> rfl
  rw [popped]
  cases held with
  | nil => simp [Held.pop]
  | cons top rest =>
      by_cases same : top = h <;> simp [Held.pop, same]

/-- Where actions keep to the order, so do the first of them. -/
theorem heldAfter_of_prefix (h : before <+: done) (kept : heldAfter held done = some held') :
    ∃ between, heldAfter held before = some between := by
  obtain ⟨later, rfl⟩ := h
  rw [heldAfter_append] at kept
  obtain ⟨between, first, -⟩ := Option.bind_eq_some_iff.1 kept
  exact ⟨between, first⟩

/-- An action presses something, lets go of something or leaves the stack alone. -/
theorem hold_cases (a : Action) : (∃ h : Held, a = h.press) ∨ (∃ h : Held, a = h.release) ∨
    (∀ h : Held, a ≠ h.press ∧ a ≠ h.release) ∧ ∀ held, a.hold held = some held := by
  cases a with
  | pressKey k => exact .inl ⟨.key k, rfl⟩
  | pressButton b => exact .inl ⟨.button b, rfl⟩
  | releaseKey k => exact .inr (.inl ⟨.key k, rfl⟩)
  | releaseButton b => exact .inr (.inl ⟨.button b, rfl⟩)
  | _ => exact .inr (.inr ⟨fun h => by cases h <;> simp [Held.press, Held.release], fun _ => rfl⟩)

/-- What comes onto the stack was pressed, and what goes off it was let go of. -/
theorem count_hold {a : Action} (h : a.hold held = some held') (x : Held) :
    held.count x + [a].count x.press = held'.count x + [a].count x.release := by
  rcases hold_cases a with ⟨y, rfl⟩ | ⟨y, rfl⟩ | ⟨free, same⟩
  · obtain rfl : y :: held = held' := Option.some.inj ((hold_press y held).symm.trans h)
    simp [List.count_cons]
  · obtain rfl := hold_release.1 h
    simp [List.count_cons]
  · obtain rfl : held = held' := Option.some.inj ((same held).symm.trans h)
    simp [(free x).1, (free x).2]

theorem count_heldAfter (h : heldAfter held done = some held') (x : Held) :
    held.count x + done.count x.press = held'.count x + done.count x.release := by
  induction done generalizing held with
  | nil =>
      obtain rfl : held = held' := Option.some.inj h
      rfl
  | cons a done ih =>
      obtain ⟨between, first, rest⟩ := Option.bind_eq_some_iff.1 h
      have now := count_hold first x
      have later := ih rest
      rw [List.count_cons, List.count_cons]
      rw [List.count_singleton, List.count_singleton] at now
      omega

end Stack

/-! ## Gestures -/

/-- No release is refused. -/
def Desktop.LetsGo (d : Desktop) : Prop :=
  ∀ earlier, ∀ h : Held, d.refuses earlier (.act h.release) = none

namespace Workspace

/-- What was done since takes the stack from `before` to `after`, whatever lies below. -/
structure Grips (w : Workspace) (before after : List Held) (w' : Workspace) : Prop where
  refuses : w'.desktop.refuses = w.desktop.refuses
  done : ∃ done, w'.desktop.actions = w.desktop.actions ++ done ∧
    ∀ below, heldAfter (before ++ below) done = some (after ++ below)

variable {w w' w'' : Workspace} {a b c : List Held}

theorem grips_of_still (refuses : w'.desktop.refuses = w.desktop.refuses)
    (actions : w'.desktop.actions = w.desktop.actions) (held : List Held) :
    w.Grips held held w' :=
  ⟨refuses, [], by rw [actions, List.append_nil], fun _ => rfl⟩

theorem Grips.trans (h : w.Grips a b w') (h' : w'.Grips b c w'') : w.Grips a c w'' := by
  obtain ⟨done, actions, stack⟩ := h.done
  obtain ⟨more, actions', stack'⟩ := h'.done
  refine ⟨h'.refuses.trans h.refuses, done ++ more, ?_, fun below => ?_⟩
  · rw [actions', actions, List.append_assoc]
  · rw [heldAfter_append, stack]
    exact stack' below

/-- What happens on top of the stack happens on top of any stack. -/
theorem Grips.above (h : w.Grips a b w') (held : List Held) :
    w.Grips (a ++ held) (b ++ held) w' := by
  obtain ⟨done, actions, stack⟩ := h.done
  refine ⟨h.refuses, done, actions, fun below => ?_⟩
  rw [List.append_assoc, List.append_assoc]
  exact stack (held ++ below)

theorem Grips.letsGo (h : w.Grips a b w') (lets : w.desktop.LetsGo) : w'.desktop.LetsGo := by
  intro earlier held
  rw [h.refuses]
  exact lets earlier held

/-- Unless a release is refused, the stack of what is held is what it was. -/
def Restores (w w' : Workspace) : Prop := w.desktop.LetsGo → w.Grips [] [] w'

theorem lasting_restores : Lasting Restores where
  refl _ _ := grips_of_still rfl rfl []
  trans h h' lets := (h lets).trans (h' ((h lets).letsGo lets))

theorem Aside.restores (h : w.Aside w') : w.Restores w' := fun _ =>
  grips_of_still (congrArg Desktop.refuses h.desktop) (congrArg Desktop.actions h.desktop) []

end Workspace

namespace Act

open Workspace

variable {w w' : Workspace} {r : Except Failure Unit}

/-- Pressing something puts it onto the stack, unless it is refused. -/
theorem grips_press {h : Held} (ran : (act h.press).on w = (r, w')) :
    (∃ f, r = .error f ∧ w.Grips [] [] w') ∨ (r = .ok () ∧ w.Grips [] [h] w') := by
  obtain ⟨refuses, ⟨f, -, failed, actions⟩ | ⟨-, pressed, actions⟩⟩ := act_cases ran
  · exact .inl ⟨f, failed, grips_of_still refuses actions []⟩
  · refine .inr ⟨pressed, refuses, [h.press], actions, fun below => ?_⟩
    simp [heldAfter]

/-- Letting go of the top of the stack takes it off. -/
theorem grips_release (lets : w.desktop.LetsGo) (h : Held) :
    ∃ w', (act h.release).on w = (.ok (), w') ∧ w.Grips [h] [] w' := by
  rcases ran : (act h.release).on w with ⟨r, w'⟩
  obtain ⟨refuses, ⟨f, refused, -, -⟩ | ⟨-, rfl, actions⟩⟩ := act_cases ran
  · rw [lets] at refused
    cases refused
  · refine ⟨w', rfl, refuses, [h.release], actions, fun below => ?_⟩
    have popped : h.release.hold (h :: below) = some below := hold_release.2 rfl
    simp [heldAfter, popped]

/-- A call that presses nothing and lets go of nothing leaves the stack alone. -/
theorem within_free_call {c : Call} (free : c.holds = false) : (call c).Within Restores := by
  intro w lets
  rcases ran : (call c).on w with ⟨r, w'⟩
  obtain ⟨refuses, actions | ⟨a, rfl, actions⟩⟩ := call_cases ran
  · exact grips_of_still refuses actions []
  · refine ⟨refuses, [a], actions, fun below => ?_⟩
    cases a <;> first | rfl | cases free

theorem within_tap_restores (key : String) : (tap key).Within Restores := by
  intro w lets
  rw [tap, on_bind]
  rcases ran : (act (.pressKey key)).on w with ⟨r, w'⟩
  rcases grips_press (h := .key key) ran with ⟨f, rfl, still⟩ | ⟨rfl, pressed⟩
  · exact still
  · obtain ⟨w'', released, grips⟩ := grips_release (pressed.letsGo lets) (.key key)
    dsimp only
    rw [show (act (.releaseKey key)).on w' = (.ok (), w'') from released]
    exact pressed.trans grips

/-- Keys that are pressed one after the other lie on the stack, up to the first one refused. -/
theorem grips_pressEach {action : Act Unit} (during : action.Within Restores)
    (held keys : List String) (lets : w.desktop.LetsGo) :
    w.Grips (held.map .key) ((pressEach held keys action w).1.1.map .key)
      (pressEach held keys action w).2 := by
  -- the keys pressed so far are the top of the stack, the act happens above them
  induction keys generalizing held w with
  | nil =>
      rw [pressEach_nil]
      exact (during w lets).above _
  | cons key keys ih =>
      rw [pressEach_cons]
      rcases ran : (act (.pressKey key)).on w with ⟨r, w'⟩
      rcases grips_press (h := .key key) ran with ⟨f, rfl, still⟩ | ⟨rfl, pressed⟩
      · exact still.above _
      · dsimp only
        exact (pressed.above _).trans (ih (key :: held) (pressed.letsGo lets))

/-- Releasing keys takes them off the stack if they lie on top of it in this order. -/
theorem grips_releaseEach (keys : List String) (lets : w.desktop.LetsGo) :
    ∃ w', (releaseEach keys).on w = (.ok (), w') ∧ w.Grips (keys.map .key) [] w' := by
  induction keys generalizing w with
  | nil => exact ⟨w, rfl, grips_of_still rfl rfl []⟩
  | cons key keys ih =>
      obtain ⟨w', released, first⟩ := grips_release lets (.key key)
      obtain ⟨w'', ran, rest⟩ := ih (first.letsGo lets)
      refine ⟨w'', ?_, ?_⟩
      · rw [releaseEach, on_bind, show (act (.releaseKey key)).on w = (.ok (), w') from released]
        exact ran
      · exact (first.above (keys.map .key)).trans rest

/-- Modifiers are released in the reverse order of their pressing, wherever the act fails. -/
theorem within_withModifiers_restores (modifiers : List String) {action : Act Unit}
    (during : action.Within Restores) : (withModifiers modifiers action).Within Restores := by
  intro w lets
  have pressed := grips_pressEach during [] modifiers lets
  rw [on_withModifiers]
  dsimp only
  generalize pressEach [] modifiers action w = p at pressed ⊢
  obtain ⟨⟨held, outcome⟩, w'⟩ := p
  obtain ⟨w'', ran, released⟩ := grips_releaseEach held (pressed.letsGo lets)
  rw [on_bind, ran]
  cases outcome <;> exact pressed.trans released

theorem within_drag_restores (start finish : Point Number) :
    (drag start finish).Within Restores := by
  refine (within_free_call rfl).bind lasting_restores fun _ w lets => ?_
  rw [on_bind]
  rcases ran : (act (.pressButton .left)).on w with ⟨r, w'⟩
  rcases grips_press (h := .button .left) ran with ⟨f, rfl, still⟩ | ⟨rfl, pressed⟩
  · exact still
  · have moved : w'.Grips [] [] ((act (.movePointer finish)).on w').2 :=
      within_free_call rfl w' (pressed.letsGo lets)
    obtain ⟨w'', ran, released⟩ :=
      grips_release (moved.letsGo (pressed.letsGo lets)) (.button .left)
    dsimp only
    rw [on_bind, on_attempt]
    dsimp only
    rw [on_bind, show (act (.releaseButton .left)).on _ = (.ok (), w'') from ran]
    dsimp only
    -- the button is up by now, whether the way to the end was refused or not
    cases ((act (.movePointer finish)).on w').1 <;>
      exact pressed.trans ((moved.above _).trans released)

/-- Whatever commands do, they restore the stack of what is held. -/
theorem Composed.restores {types : String → Prop} {α : Type} {x : Act α}
    (composed : x.Composed types) : x.Within Restores :=
  composed.within lasting_restores Aside.restores (fun free _ => within_free_call free)
    within_tap_restores (fun modifiers _ during => within_withModifiers_restores modifiers during)
    within_drag_restores

end Act

/-! ## Sessions -/

theorem Session.respected_restores : Session.Respected Workspace.Restores where
  lasting := Workspace.lasting_restores
  aside h := h.restores
  published _ _ _ := ⟨rfl, [], (List.append_nil _).symm, fun _ => rfl⟩
  act composed := composed.restores

/-- Unless a release is refused, whatever else is refused and whatever happens: what is let go of is
always what was pressed last of all that is still held, and after every happening nothing is held,
so every key and every button was let go of as often as it was pressed. -/
theorem SessionSetup.nothing_stays_held (u : SessionSetup)
    (lets : ∀ earlier, ∀ h : Held, u.refuses earlier (.act h.release) = none)
    (hs : List Happening) :
    let done := (u.start.after hs).workspace.desktop.actions
    heldAfter [] done = some [] ∧
    (∀ before, ∀ h : Held, before ++ [h.release] <+: done →
      ∃ held, heldAfter [] before = some (h :: held)) ∧
    ∀ h : Held, done.count h.press = done.count h.release := by
  intro done
  have settled : heldAfter [] done = some [] := by
    -- nothing is held when a session starts
    have restored := ((Session.underway_start u).after Session.respected_restores hs).2 lets
    obtain ⟨own, actions, stack⟩ := restored.done
    have same : done = own := actions.trans (List.nil_append own)
    rw [same]
    exact stack []
  refine ⟨settled, fun before h within => ?_, fun h => ?_⟩
  · obtain ⟨after, kept⟩ := heldAfter_of_prefix within settled
    rw [heldAfter_append] at kept
    obtain ⟨held, first, last⟩ := Option.bind_eq_some_iff.1 kept
    have released : h.release.hold held = some after := by simpa [heldAfter] using last
    exact ⟨after, hold_release.1 released ▸ first⟩
  · simpa using count_heldAfter settled h

/-- Where the last key of a combination is refused, the keys before it are let go of. -/
theorem SessionSetup.nothing_stays_held_without_last_key :
    let combination : Tree := .mapping [("type", .text "key_combination"),
      ("keys", .list [.text "ctrl", .text "shift", .text "t"])]
    let u : SessionSetup := {
      settings := {
        text := { punctuationCommands := false }
        custom := { enabled := true, commands := [
          .mapping [("trigger", .text "new tab"), ("action", combination)]] } }
      platform := "linux", files := .empty "/work", environment := [], now := ⟨2024, 6, 7, 8, 9, 10⟩
      refuses := fun _ c => if c = .act (.pressKey "t") then some (.plain "jammed") else none }
    let done := (u.start.after [.say "new tab"]).workspace.desktop.actions
    (∀ earlier, ∀ h : Held, u.refuses earlier (.act h.release) = none) ∧
    done = [.pressKey "ctrl", .pressKey "shift", .releaseKey "shift", .releaseKey "ctrl"] ∧
    heldAfter [] done = some [] := by
  intro combination u done
  have lets : ∀ earlier, ∀ h : Held, u.refuses earlier (.act h.release) = none := by
    intro earlier h
    cases h <;> rfl
  exact ⟨lets, by decide +kernel, (u.nothing_stays_held lets [.say "new tab"]).1⟩

end VoiceControl
