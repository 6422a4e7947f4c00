import VoiceControl.Proofs.Command.Outputs

/-!
# Commands between movements

The counts of repeated movements are those of the commands that scroll and nudge. No other command
scrolls, and none comes near these counts, whether it works or fails half way.

* `Workspace.Resting`: nothing was scrolled, and the counts are as they were.
* `Command.Rests`: a command that leaves them so; all are so but the two that count.
-/

namespace VoiceControl

/-- Whether an action scrolls. -/
def Action.isScroll : Action → Bool
  | .scroll .. => true
  | _ => false

/-- The scrolls done on a desktop, oldest first. -/
def Desktop.scrolls (d : Desktop) : List Action := d.actions.filter (·.isScroll)

namespace Workspace

variable {w w' : Workspace}

/-- Nothing was scrolled, and the screen and the counts of repeated movements are as they were. -/
structure Resting (w w' : Workspace) : Prop where
  repeats : w'.repeats = w.repeats
  screen : w'.screen = w.screen
  scrolls : w'.desktop.scrolls = w.desktop.scrolls

theorem lasting_resting : Lasting Resting where
  refl _ := ⟨rfl, rfl, rfl⟩
  trans h h' :=
    ⟨h'.repeats.trans h.repeats, h'.screen.trans h.screen, h'.scrolls.trans h.scrolls⟩

theorem Unmoved.resting (h : w.Unmoved w') : w.Resting w' := by
  obtain ⟨j, rfl⟩ := h
  exact ⟨rfl, rfl, rfl⟩

end Workspace

/-! ## Parts -/

namespace Act

open Workspace

variable {α β : Type}

/-- An act that scrolls nothing and leaves the counts of repeated movements. -/
def Rests (x : Act α) : Prop := x.Within Resting

theorem rests_pure (a : α) : (pure a : Act α).Rests := within_pure lasting_resting a

theorem rests_throw (f : Failure) : (throw f : Act α).Rests := within_throw lasting_resting f

theorem rests_get : (get : Act Workspace).Rests := within_get lasting_resting

theorem rests_conclude (outcome : Except Failure α) : (conclude outcome).Rests :=
  within_conclude lasting_resting outcome

theorem Rests.bind {x : Act α} {f : α → Act β} (first : x.Rests) (next : ∀ a, (f a).Rests) :
    (x >>= f).Rests :=
  Within.bind lasting_resting first next

theorem rests_note (n : Notice) : (note n).Rests := fun w => (w.unmoved_noted [n]).resting

theorem rests_report (name text : String) (detail : Entries Tree) :
    (Command.report name text detail).Rests :=
  fun w => (unmoved_report name text detail w).resting

theorem rests_reportThen (name text : String) (detail : Entries Tree) (output : Option String) :
    (do Command.report name text detail; return output : Act (Option String)).Rests :=
  (rests_report name text detail).bind fun _ => rests_pure output

theorem rests_look (query : Coordinator → α) (otherwise : α) : (look query otherwise).Rests :=
  rests_get.bind fun _ => rests_pure _

theorem rests_hasOverlays : hasOverlays.Rests := rests_get.bind fun _ => rests_pure _

theorem rests_hasSystem : hasSystem.Rests := rests_get.bind fun _ => rests_pure _

theorem rests_filed (files : Files) : (modify fun w => { w with files } : Act PUnit).Rests :=
  fun _ => ⟨rfl, rfl, rfl⟩

/-- The overlays do not touch the desktop. -/
theorem rests_ask (request : Coordinator → Coordinator.Reply Bool) : (ask request).Rests := by
  intro w
  rw [ask, on_bind, on_get]
  dsimp only
  split
  · exact ⟨rfl, rfl, rfl⟩
  · exact lasting_resting.refl w

theorem rests_activate (n : Number) : (activate n).Rests := by
  intro w
  rw [activate, on_bind, on_get]
  dsimp only
  split
  · rw [on_bind, on_set]
    have heard : w.Resting (w.hear (w.overlays.activate w.sources n).2) := ⟨rfl, rfl, rfl⟩
    exact lasting_resting.trans heard (rests_conclude _ _)
  · exact lasting_resting.refl w

/-- A call scrolls only if that is what it is for. -/
theorem rests_call {c : Call} (level : ∀ a, c = .act a → a.isScroll = false) :
    (call c).Rests := by
  intro w
  rw [on_call]
  refine ⟨rfl, rfl, ?_⟩
  obtain ⟨-, same | ⟨a, rfl, more⟩⟩ := call_cases (on_call c w)
  · exact congrArg (List.filter Action.isScroll) same
  · have other : ¬ a.isScroll = true := by
      rw [level a rfl]
      decide
    refine (congrArg (List.filter Action.isScroll) more).trans ?_
    rw [List.filter_append, List.filter_cons_of_neg other]
    exact List.append_nil _

theorem rests_act {a : Action} (level : a.isScroll = false) : (act a).Rests :=
  rests_call fun b same => by
    obtain rfl := Call.act.inj same
    exact level

theorem rests_press {c : Call} (holds : c.holds = true) : (call c).Rests :=
  rests_call fun a same => by
    rw [same] at holds
    cases a <;> first | rfl | cases holds

theorem rests_tap (key : String) : (tap key).Rests := within_tap lasting_resting rests_press key

theorem rests_withModifiers (modifiers : List String) {action : Act Unit} (h : action.Rests) :
    (withModifiers modifiers action).Rests :=
  within_withModifiers lasting_resting rests_press h modifiers

theorem rests_pressCombo (modifiers : List String) (key : String) :
    (pressCombo modifiers key).Rests :=
  rests_withModifiers modifiers (rests_tap key)

theorem rests_drag (start finish : Point Number) : (drag start finish).Rests :=
  within_drag lasting_resting rests_press (fun _ => rests_act rfl) start finish

theorem rests_fileExists (path : String) : (fileExists path).Rests :=
  (rests_call fun _ same => by cases same).bind fun _ => rests_get.bind fun _ => rests_pure _

end Act

/-! ## Commands -/

/-- A command that scrolls nothing and leaves the counts of repeated movements. -/
def Command.Rests (c : Command) : Prop := ∀ text, (c.execute text).Rests

namespace Command

open Act

theorem rests_keyPress (id : Nat) (name : String) (triggers : List String)
    (key description : String) (priority : Number) :
    (keyPress id name triggers key description priority).Rests :=
  fun _ => (rests_tap key).bind fun _ => rests_pure none

theorem rests_keyboardShortcut (id : Nat) (name : String) (triggers : List String)
    (key description : String) (priority : Number) (modifier : String) :
    (keyboardShortcut id name triggers key description priority modifier).Rests :=
  fun _ => (rests_pressCombo _ key).bind fun _ => rests_pure none

theorem rests_deleteWord (id : Nat) : (deleteWord id).Rests :=
  fun _ => (rests_pressCombo _ _).bind fun _ => rests_pure none

theorem rests_deleteLine (id : Nat) : (deleteLine id).Rests :=
  fun _ => (rests_tap _).bind fun _ => (rests_pressCombo _ _).bind fun _ =>
    (rests_tap _).bind fun _ => rests_pure none

theorem rests_clipboard (id : Nat) : (clipboard id).Rests := by
  intro text
  unfold clipboard
  dsimp only
  split
  · exact rests_pure none
  · exact (rests_pressCombo _ _).bind fun _ => rests_reportThen _ _ _ none

theorem rests_fixedClick (id : Nat) (name : String) (triggers : List String)
    (button : MouseButton) (count : Nat) (description : String) (priority : Number) :
    (fixedClick id name triggers button count description priority).Rests :=
  fun _ => (rests_act rfl).bind fun _ => rests_reportThen _ _ _ none

theorem rests_arrowKey (id : Nat) : (arrowKey id).Rests := by
  intro text
  unfold arrowKey
  dsimp only
  split
  · exact (rests_tap _).bind fun _ => rests_reportThen _ _ _ none
  · exact rests_pure none

theorem rests_pageNavigation (id : Nat) : (pageNavigation id).Rests :=
  fun _ => (rests_tap _).bind fun _ => rests_reportThen _ _ _ none

theorem rests_homeEnd (id : Nat) : (homeEnd id).Rests := by
  have press (target : JumpTarget) : target.press.Rests := by
    cases target with
    | lineStart | lineEnd => exact rests_tap _
    | documentStart | documentEnd => exact rests_pressCombo _ _
  intro text
  unfold homeEnd
  dsimp only
  split
  · exact rests_pure none
  · exact (press _).bind fun _ => rests_reportThen _ _ _ none

theorem rests_moveWindow (id : Nat) : (moveWindow id).Rests :=
  fun _ => (rests_pressCombo _ _).bind fun _ => (rests_tap _).bind fun _ =>
    rests_reportThen _ _ _ none

theorem rests_minimize (id : Nat) (platform : String) : (minimize id platform).Rests :=
  fun _ => (rests_pressCombo _ _).bind fun _ => rests_reportThen _ _ _ none

theorem rests_maximize (id : Nat) : (maximize id).Rests :=
  fun _ => (rests_pressCombo _ _).bind fun _ => rests_reportThen _ _ _ none

theorem rests_closeWindow (id : Nat) : (closeWindow id).Rests :=
  fun _ => (rests_pressCombo _ _).bind fun _ => rests_reportThen _ _ _ none

theorem rests_switchWindow (id : Nat) : (switchWindow id).Rests :=
  fun _ => (rests_pressCombo _ _).bind fun _ => rests_reportThen _ _ _ none

theorem rests_switchToWindowNumber (id : Nat) (lx : Lexicon) :
    (switchToWindowNumber id lx).Rests := by
  intro text
  unfold switchToWindowNumber
  dsimp only
  split
  · exact rests_pure none
  · refine rests_hasOverlays.bind fun reached => ?_
    split
    · refine (rests_activate _).bind fun focused => ?_
      split
      · exact (rests_ask _).bind fun _ => rests_reportThen _ _ _ none
      · exact rests_reportThen _ _ _ none
    · exact rests_pure none

theorem rests_showOverlay (id : Nat) (name : String) (kind : OverlayKind)
    (phrases : List String) (description : String) (options : Option Tree) :
    (showOverlay id name kind phrases description options).Rests :=
  fun _ => (rests_ask _).bind fun _ => rests_reportThen _ _ _ none

theorem rests_hideOverlay (id : Nat) : (hideOverlay id).Rests := by
  intro text
  unfold hideOverlay
  dsimp only
  refine rests_hasOverlays.bind fun reached => ?_
  split
  · refine (rests_look _ _).bind fun current => (rests_ask _).bind fun taken => ?_
    split
    · exact rests_reportThen _ _ _ none
    · exact (rests_ask _).bind fun _ => rests_reportThen _ _ _ none
  · exact rests_pure none

theorem rests_goToNumber (lx : Lexicon) (name text : String) {andThen : Act Unit}
    (h : andThen.Rests) : (goToNumber lx name text andThen).Rests := by
  unfold goToNumber
  split
  · exact rests_pure none
  · refine (rests_look _ _).bind fun position => ?_
    split
    · exact rests_reportThen _ _ _ none
    · exact (rests_act rfl).bind fun _ => h.bind fun _ => rests_reportThen _ _ _ none

theorem rests_dragBetweenNumbers (id : Nat) (lx : Lexicon) :
    (dragBetweenNumbers id lx).Rests := by
  intro text
  unfold dragBetweenNumbers
  dsimp only
  split
  · exact rests_pure none
  · refine (rests_look _ _).bind fun start => (rests_look _ _).bind fun finish => ?_
    split
    · exact (rests_drag _ _).bind fun _ => rests_reportThen _ _ _ none
    · exact rests_reportThen _ _ _ none

theorem rests_refineGrid (id : Nat) (lx : Lexicon) : (refineGrid id lx).Rests := by
  intro text
  unfold refineGrid
  dsimp only
  split
  · exact rests_pure none
  · exact (rests_ask _).bind fun _ => rests_reportThen _ _ _ none

theorem rests_screenshot (id : Nat) (store : ScreenshotStore) (moment : Option Moment) :
    (screenshot id store moment).Rests := by
  intro text
  unfold screenshot
  dsimp only
  refine rests_get.bind fun w => Rests.bind (Within.attempt ?_) fun outcome => ?_
  · refine rests_get.bind fun w' => (rests_conclude _).bind fun files =>
      (rests_filed files).bind fun _ => rests_hasSystem.bind fun reached => ?_
    split
    · exact rests_act rfl
    · exact rests_pure _
  · split
    · exact (rests_conclude _).bind fun _ => rests_throw _
    · exact rests_reportThen _ _ _ none

theorem rests_referenceScreenshot (id : Nat) (store : ScreenshotStore) :
    (referenceScreenshot id store).Rests := by
  intro text
  unfold referenceScreenshot
  dsimp only
  split
  · exact rests_pure none
  · refine rests_get.bind fun w => (rests_conclude _).bind fun found => ?_
    split
    · exact (rests_note _).bind fun _ => rests_reportThen _ _ _ none
    · split
      · split
        · exact (rests_note _).bind fun _ => rests_reportThen _ _ _ _
        · exact rests_reportThen _ _ _ _
      · split
        · exact (rests_note _).bind fun _ => rests_reportThen _ _ _ none
        · exact rests_reportThen _ _ _ _

theorem rests_performCustom (name : String) (a : CustomAction) :
    (performCustom name a).Rests := by
  cases a with
  | typeText t =>
      rw [performCustom]
      split
      · exact (rests_note _).bind fun _ => rests_pure false
      · exact (rests_act rfl).bind fun _ => rests_pure true
  | copyText t =>
      rw [performCustom]
      split
      · exact (rests_note _).bind fun _ => rests_pure false
      · refine rests_hasSystem.bind fun reached => ?_
        split
        · exact (rests_act rfl).bind fun _ => rests_pure true
        · exact rests_pure true
  | launchFile p =>
      have launched (path : String) (there : Bool) :
          Act.Rests (if there then do act (.launch path); return true
            else throw (.execution name ("File not found: " ++ path) none) : Act Bool) := by
        split
        · exact (rests_act rfl).bind fun _ => rests_pure true
        · exact rests_throw _
      rw [performCustom]
      refine rests_get.bind fun w => rests_hasSystem.bind fun reached => ?_
      dsimp only
      split
      · exact (rests_fileExists _).bind (launched _)
      · exact (rests_pure _).bind (launched _)
  | pressKeys ks =>
      rw [performCustom]
      split
      · exact (rests_note _).bind fun _ => rests_pure false
      · exact (rests_withModifiers ks (rests_pure ())).bind fun _ => rests_pure true

theorem rests_custom (id : Nat) (d : CustomDefinition) (fuzzy : Option Lexicon) :
    (custom id d fuzzy).Rests := by
  intro text
  refine (rests_performCustom _ d.action).bind fun done => ?_
  split
  · exact rests_reportThen _ _ _ none
  · exact rests_pure none

theorem filter_builtins_scroll (o : BuiltinOptions) :
    (builtins o).filter (·.name = "ScrollCommand") = [scroll 21] := rfl

theorem filter_builtins_mouseMove (o : BuiltinOptions) :
    (builtins o).filter (·.name = "MouseMoveCommand") = [mouseMove 22] := rfl

/-- No built-in command counts but those that scroll and nudge. -/
theorem rests_builtins (o : BuiltinOptions) :
    ∀ c ∈ builtins o, c.name ≠ "ScrollCommand" → c.name ≠ "MouseMoveCommand" → c.Rests := by
  have other {c : Command} (rests : c.Rests) (_ : c.name ≠ "ScrollCommand")
      (_ : c.name ≠ "MouseMoveCommand") : c.Rests := rests
  simp only [builtins, numbered, List.zipIdx_cons, List.zipIdx_nil, List.map_cons, List.map_nil,
    List.forall_mem_cons]
  exact ⟨other fun _ => rests_pure _, other (rests_deleteWord _), other (rests_deleteLine _),
    other (rests_clipboard _), other (rests_keyboardShortcut _ _ _ _ _ _ _),
    other (rests_keyboardShortcut _ _ _ _ _ _ _), other (rests_keyboardShortcut _ _ _ _ _ _ _),
    other (rests_keyboardShortcut _ _ _ _ _ _ _), other (rests_keyPress _ _ _ _ _ _),
    other (rests_keyPress _ _ _ _ _ _), other (rests_keyPress _ _ _ _ _ _),
    other (rests_keyPress _ _ _ _ _ _), other (rests_keyPress _ _ _ _ _ _),
    other fun _ => rests_pure _, other fun _ => rests_goToNumber _ _ _ (rests_act rfl),
    other (rests_dragBetweenNumbers _ _), other (rests_refineGrid _ _),
    other (rests_fixedClick _ _ _ _ _ _ _), other (rests_fixedClick _ _ _ _ _ _ _),
    other (rests_fixedClick _ _ _ _ _ _ _), other (rests_fixedClick _ _ _ _ _ _ _),
    fun scroll _ => absurd rfl scroll, fun _ nudge => absurd rfl nudge,
    other (rests_pageNavigation _), other (rests_homeEnd _), other (rests_arrowKey _),
    other (rests_switchToWindowNumber _ _), other (rests_moveWindow _),
    other (rests_minimize _ _), other (rests_maximize _), other (rests_closeWindow _),
    other (rests_switchWindow _), other (rests_showOverlay _ _ _ _ _ _),
    other (rests_showOverlay _ _ _ _ _ _), other (rests_showOverlay _ _ _ _ _ _),
    other (rests_showOverlay _ _ _ _ _ _), other (rests_hideOverlay _),
    other (rests_referenceScreenshot _ _), other (rests_screenshot _ _ _),
    other fun _ => rests_goToNumber _ _ _ (rests_pure ()), by simp⟩

end Command

end VoiceControl
