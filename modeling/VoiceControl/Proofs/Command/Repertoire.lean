import VoiceControl.Command.Builtin
import VoiceControl.Command.Custom
import VoiceControl.Proofs.Command.Gestures
import VoiceControl.Proofs.Command.Order

/-!
# The repertoire of commands

Every command, built in or the user's own, is put together from what commands do, and so is
dispatching an utterance to one of them. No built-in command types anything by itself: what they
give back is for the caller to type. A custom command types the text it was defined with.
-/

namespace VoiceControl

variable {types : String → Prop}

/-! ## Parts -/

namespace Act

theorem composed_pure {α : Type} (a : α) : (pure a : Act α).Composed types :=
  .aside (within_pure Workspace.lasting_aside a) (blind_pure a)

theorem composed_throw {α : Type} (f : Failure) : (throw f : Act α).Composed types :=
  .aside (within_throw Workspace.lasting_aside f) (blind_throw f)

theorem composed_conclude {α : Type} (outcome : Except Failure α) :
    (conclude outcome).Composed types :=
  .aside (within_conclude Workspace.lasting_aside outcome) (blind_conclude outcome)

theorem composed_note (n : Notice) : (note n).Composed types :=
  .aside (fun w => w.aside_noted [n]) (blind_note n)

theorem composed_publish (sink : Option Channel) {e : Event} (about : e.isOfUtterance = false) :
    (publish sink e).Composed types := by
  refine .aside (fun w => ?_) (blind_publish sink e)
  rw [on_publish]
  exact w.aside_published sink about

theorem composed_report (name text : String) (detail : Entries Tree) :
    (Command.report name text detail).Composed types :=
  .reading (fun _ _ => rfl) fun _ => composed_publish _ rfl

/-- Reporting goes last. -/
theorem composed_reportThen (name text : String) (detail : Entries Tree)
    (output : Option String) :
    (do Command.report name text detail; return output : Act (Option String)).Composed types :=
  (composed_report name text detail).bind fun _ => composed_pure output

theorem composed_look {α : Type} (query : Coordinator → α) (otherwise : α) :
    (look query otherwise).Composed types :=
  .reading (fun _ _ => rfl) fun _ => composed_pure _

theorem composed_hasOverlays : hasOverlays.Composed types :=
  .reading (fun _ _ => rfl) fun _ => composed_pure _

theorem composed_hasSystem : hasSystem.Composed types :=
  .reading (fun _ _ => rfl) fun _ => composed_pure _

/-- The overlays become what a request makes of them and say what it makes them say. -/
theorem composed_ask {request : Coordinator → Coordinator.Reply Bool} (m : Move)
    (move : ∀ c, (request c).coordinator = c.after m)
    (about : ∀ c, ∀ e ∈ Signal.events (request c).signals, e.isLifecycle = true) :
    (ask request).Composed types := by
  refine .aside (fun w => ?_) (blind_ask request)
  rw [ask, on_bind, on_get]
  dsimp only
  cases reached : w.reach.overlays with
  | false => exact Workspace.lasting_aside.refl w
  | true =>
      have went : w.overlays.Went (request w.overlays).coordinator := by
        rw [move]
        exact .after trivial .still
      have asked : w.Aside { w with overlays := (request w.overlays).coordinator } :=
        ⟨Workspace.tells_of_silent rfl rfl, rfl, went, rfl⟩
      exact Workspace.lasting_aside.trans asked (Workspace.aside_hear (about w.overlays) _)

theorem composed_activate (n : Number) : (activate n).Composed types := by
  refine .aside (fun w => ?_) (blind_activate n)
  rw [activate, on_bind, on_get]
  dsimp only
  cases reached : w.reach.overlays with
  | false => exact Workspace.lasting_aside.refl w
  | true =>
      have silent := w.overlays.events_activate w.sources n
      have heard : w.Aside (w.hear (w.overlays.activate w.sources n).2) :=
        Workspace.aside_hear (by simp [silent]) w
      rw [if_pos rfl, on_bind, on_set]
      exact Workspace.lasting_aside.trans heard
        (within_conclude Workspace.lasting_aside (w.overlays.activate w.sources n).1 _)

theorem composed_repeated (command : Nat) (d : Direction) :
    (repeated command d).Composed types :=
  .aside (fun _ => ⟨Workspace.tells_of_silent rfl rfl, rfl, .still, rfl⟩)
    (blind_repeated command d)

theorem composed_filed (files : Files) :
    (modify fun w => { w with files } : Act PUnit).Composed types :=
  .aside (fun _ => ⟨Workspace.tells_of_silent rfl rfl, rfl, .still, rfl⟩) (blind_filed files)

theorem composed_act {a : Action} (free : (Call.act a).holds = false)
    (typed : ∀ t, a = .typeText t → types t) : (act a).Composed types :=
  .call free fun t h => typed t (Call.act.inj h)

theorem composed_pressCombo (modifiers : List String) (key : String) :
    (pressCombo modifiers key).Composed types :=
  .hold modifiers (.tap key)

/-- A question has no effect. -/
theorem composed_pointer : pointer.Composed types :=
  (Composed.call rfl fun _ h => by cases h).bind fun _ =>
    .reading (fun _ _ => rfl) fun _ => composed_pure _

theorem composed_fileExists (path : String) : (fileExists path).Composed types :=
  (Composed.call rfl fun _ h => by cases h).bind fun _ =>
    .reading (fun _ _ => rfl) fun _ => composed_pure _

end Act

/-! ## Commands -/

/-- A command that is put together from what commands do. -/
structure Command.Composed (types : String → Prop) (c : Command) : Prop where
  validate : ∀ text, (c.validate text).Composed types
  execute : ∀ text, (c.execute text).Composed types

namespace Command

open Act

theorem composed_anyOverlayUp : anyOverlayUp.Composed types := composed_look _ _

theorem composed_isUp (k : OverlayKind) : (isUp k).Composed types := composed_look _ _

section Keyboard

theorem composed_keyPress (id : Nat) (name : String) (triggers : List String)
    (key description : String) (priority : Number) :
    (keyPress id name triggers key description priority).Composed types where
  validate _ := composed_pure true
  execute _ := (Act.Composed.tap key).bind fun _ => composed_pure none

theorem composed_keyboardShortcut (id : Nat) (name : String) (triggers : List String)
    (key description : String) (priority : Number) (modifier : String) :
    (keyboardShortcut id name triggers key description priority modifier).Composed types where
  validate _ := composed_pure true
  execute _ := (composed_pressCombo _ key).bind fun _ => composed_pure none

theorem composed_deleteWord (id : Nat) : (deleteWord id).Composed types where
  validate _ := composed_pure true
  execute _ := (composed_pressCombo _ _).bind fun _ => composed_pure none

theorem composed_deleteLine (id : Nat) : (deleteLine id).Composed types where
  validate _ := composed_pure true
  execute _ := (Act.Composed.tap _).bind fun _ => (composed_pressCombo _ _).bind fun _ =>
    (Act.Composed.tap _).bind fun _ => composed_pure none

theorem composed_clipboard (id : Nat) : (clipboard id).Composed types where
  validate _ := composed_pure true
  execute text := by
    unfold clipboard
    dsimp only
    split
    · exact composed_pure none
    · exact (composed_pressCombo _ _).bind fun _ => composed_reportThen _ _ _ none

theorem composed_typeSymbol (id : Nat) (symbols : Symbols) :
    (typeSymbol id symbols).Composed types where
  validate _ := composed_pure true
  execute _ := composed_pure _

theorem composed_typeText (id : Nat) (symbols : Symbols) :
    (typeText id symbols).Composed types where
  validate _ := composed_pure true
  execute _ := composed_pure _

end Keyboard

section Mouse

theorem composed_fixedClick (id : Nat) (name : String) (triggers : List String)
    (button : MouseButton) (count : Nat) (description : String) (priority : Number) :
    (fixedClick id name triggers button count description priority).Composed types where
  validate _ := composed_pure true
  execute _ := (composed_act rfl fun _ h => by cases h).bind fun _ => composed_reportThen _ _ _ none

theorem composed_scroll (id : Nat) : (scroll id).Composed types where
  validate _ := composed_pure true
  execute text := by
    unfold scroll
    dsimp only
    split
    · exact composed_pure none
    · exact (composed_repeated _ _).bind fun _ => (composed_act rfl fun _ h => by cases h).bind
        fun _ => composed_reportThen _ _ _ none

theorem composed_mouseMove (id : Nat) : (mouseMove id).Composed types where
  validate _ := composed_pure true
  execute text := by
    unfold mouseMove
    dsimp only
    split
    · exact composed_pure none
    · refine (composed_repeated _ _).bind fun _ => composed_pointer.bind fun _ =>
        Act.Composed.reading (fun _ _ => rfl) fun _ => ?_
      exact (composed_act rfl fun _ h => by cases h).bind fun _ => composed_reportThen _ _ _ none

end Mouse

section Navigation

theorem composed_arrowKey (id : Nat) : (arrowKey id).Composed types where
  validate _ := composed_pure true
  execute text := by
    unfold arrowKey
    dsimp only
    split
    · exact (Act.Composed.tap _).bind fun _ => composed_reportThen _ _ _ none
    · exact composed_pure none

theorem composed_pageNavigation (id : Nat) : (pageNavigation id).Composed types where
  validate _ := composed_pure true
  execute _ := (Act.Composed.tap _).bind fun _ => composed_reportThen _ _ _ none

theorem composed_press (target : JumpTarget) : target.press.Composed types := by
  cases target with
  | lineStart | lineEnd => exact .tap _
  | documentStart | documentEnd => exact composed_pressCombo _ _

theorem composed_homeEnd (id : Nat) : (homeEnd id).Composed types where
  validate _ := composed_pure true
  execute text := by
    unfold homeEnd
    dsimp only
    split
    · exact composed_pure none
    · exact (composed_press _).bind fun _ => composed_reportThen _ _ _ none

end Navigation

section Windows

theorem composed_moveWindow (id : Nat) : (moveWindow id).Composed types where
  validate _ := composed_pure true
  execute _ := (composed_pressCombo _ _).bind fun _ => (Act.Composed.tap _).bind fun _ =>
    composed_reportThen _ _ _ none

theorem composed_minimize (id : Nat) (platform : String) :
    (minimize id platform).Composed types where
  validate _ := composed_pure true
  execute _ := (composed_pressCombo _ _).bind fun _ => composed_reportThen _ _ _ none

theorem composed_maximize (id : Nat) : (maximize id).Composed types where
  validate _ := composed_pure true
  execute _ := (composed_pressCombo _ _).bind fun _ => composed_reportThen _ _ _ none

theorem composed_closeWindow (id : Nat) : (closeWindow id).Composed types where
  validate _ := composed_pure true
  execute _ := (composed_pressCombo _ _).bind fun _ => composed_reportThen _ _ _ none

theorem composed_switchWindow (id : Nat) : (switchWindow id).Composed types where
  validate _ := composed_pure true
  execute _ := (composed_pressCombo _ _).bind fun _ => composed_reportThen _ _ _ none

theorem composed_switchToWindowNumber (id : Nat) (lx : Lexicon) :
    (switchToWindowNumber id lx).Composed types where
  validate _ := composed_isUp .windows
  execute text := by
    unfold switchToWindowNumber
    dsimp only
    split
    · exact composed_pure none
    · refine composed_hasOverlays.bind fun reached => ?_
      split
      · refine (composed_activate _).bind fun focused => ?_
        split
        · exact (composed_ask (.hide .windows) (fun _ => rfl) fun c => c.events_hide .windows).bind
            fun _ => composed_reportThen _ _ _ none
        · exact composed_reportThen _ _ _ none
      · exact composed_pure none

end Windows

section Overlays

theorem composed_showOverlay (id : Nat) (name : String) (kind : OverlayKind)
    (phrases : List String) (description : String) (options : Option Tree) :
    (showOverlay id name kind phrases description options).Composed types where
  validate _ := composed_hasOverlays
  execute _ :=
    (composed_ask (.reveal kind options) (fun _ => rfl) fun c => c.events_reveal kind options).bind
      fun _ => composed_reportThen _ _ _ none

theorem composed_hideOverlay (id : Nat) : (hideOverlay id).Composed types where
  validate _ := composed_hasOverlays
  execute text := by
    unfold hideOverlay
    dsimp only
    refine composed_hasOverlays.bind fun reached => ?_
    split
    · refine (composed_look _ _).bind fun current => ?_
      refine (composed_ask (.handleInput _) (fun _ => rfl)
        fun c => c.events_handleInput _).bind fun taken => ?_
      split
      · exact composed_reportThen _ _ _ none
      · exact (composed_ask .hideCurrent (fun _ => rfl) fun c => c.events_hideCurrent).bind
          fun _ => composed_reportThen _ _ _ none
    · exact composed_pure none

end Overlays

section Targets

theorem composed_goToNumber (lx : Lexicon) (name text : String) {andThen : Act Unit}
    (h : andThen.Composed types) : (goToNumber lx name text andThen).Composed types := by
  unfold goToNumber
  split
  · exact composed_pure none
  · refine (composed_look _ _).bind fun position => ?_
    split
    · exact composed_reportThen _ _ _ none
    · exact (composed_act rfl fun _ h => by cases h).bind fun _ => h.bind fun _ =>
        composed_reportThen _ _ _ none

theorem composed_clickNumber (id : Nat) (lx : Lexicon) : (clickNumber id lx).Composed types where
  validate _ := composed_hasOverlays
  execute _ := composed_goToNumber _ _ _ (composed_act rfl fun _ h => by cases h)

theorem composed_moveToNumber (id : Nat) (lx : Lexicon) : (moveToNumber id lx).Composed types where
  validate _ := composed_anyOverlayUp
  execute _ := composed_goToNumber _ _ _ (composed_pure ())

theorem composed_dragBetweenNumbers (id : Nat) (lx : Lexicon) :
    (dragBetweenNumbers id lx).Composed types where
  validate _ := composed_anyOverlayUp
  execute text := by
    unfold dragBetweenNumbers
    dsimp only
    split
    · exact composed_pure none
    · refine (composed_look _ _).bind fun start => (composed_look _ _).bind fun finish => ?_
      split
      · exact (Act.Composed.drag _ _).bind fun _ => composed_reportThen _ _ _ none
      · exact composed_reportThen _ _ _ none

theorem composed_refineGrid (id : Nat) (lx : Lexicon) : (refineGrid id lx).Composed types where
  validate _ := composed_isUp .grid
  execute text := by
    unfold refineGrid
    dsimp only
    split
    · exact composed_pure none
    · exact (composed_ask (.refine _) (fun _ => rfl) fun c => by simp [c.events_refine]).bind
        fun _ => composed_reportThen _ _ _ none

end Targets

section Screenshots

theorem composed_screenshot (id : Nat) (store : ScreenshotStore) (moment : Option Moment) :
    (screenshot id store moment).Composed types where
  validate _ := composed_hasSystem
  execute text := by
    unfold screenshot
    dsimp only
    refine Act.Composed.reading (fun _ _ => rfl) fun w => ?_
    refine (Act.Composed.attempt ?_).bind fun outcome => ?_
    · refine Act.Composed.reading (fun _ _ => rfl) fun w' => (composed_conclude _).bind fun files =>
        (composed_filed files).bind fun _ => composed_hasSystem.bind fun reached => ?_
      split
      · exact composed_act rfl fun _ h => by cases h
      · exact composed_pure _
    · split
      · exact (composed_conclude _).bind fun _ => composed_throw _
      · exact composed_reportThen _ _ _ none

theorem composed_referenceScreenshot (id : Nat) (store : ScreenshotStore) :
    (referenceScreenshot id store).Composed types where
  validate _ := composed_pure true
  execute text := by
    unfold referenceScreenshot
    dsimp only
    split
    · exact composed_pure none
    · refine Act.Composed.reading (fun _ _ => rfl) fun w =>
        (composed_conclude _).bind fun found => ?_
      split
      · exact (composed_note _).bind fun _ => composed_reportThen _ _ _ none
      · split
        · split
          · exact (composed_note _).bind fun _ => composed_reportThen _ _ _ _
          · exact composed_reportThen _ _ _ _
        · split
          · exact (composed_note _).bind fun _ => composed_reportThen _ _ _ none
          · exact composed_reportThen _ _ _ _

end Screenshots

/-- No built-in command types anything by itself. -/
theorem composed_builtins (o : BuiltinOptions) : ∀ c ∈ builtins o, c.Composed types := by
  simp only [builtins, numbered, List.zipIdx_cons, List.zipIdx_nil, List.map_cons, List.map_nil,
    List.forall_mem_cons]
  exact ⟨composed_typeText _ _, composed_deleteWord _, composed_deleteLine _, composed_clipboard _,
    composed_keyboardShortcut .., composed_keyboardShortcut .., composed_keyboardShortcut ..,
    composed_keyboardShortcut .., composed_keyPress .., composed_keyPress .., composed_keyPress ..,
    composed_keyPress .., composed_keyPress .., composed_typeSymbol _ _, composed_clickNumber _ _,
    composed_dragBetweenNumbers _ _, composed_refineGrid _ _, composed_fixedClick ..,
    composed_fixedClick .., composed_fixedClick .., composed_fixedClick .., composed_scroll _,
    composed_mouseMove _, composed_pageNavigation _, composed_homeEnd _, composed_arrowKey _,
    composed_switchToWindowNumber _ _, composed_moveWindow _, composed_minimize _ _,
    composed_maximize _, composed_closeWindow _, composed_switchWindow _, composed_showOverlay ..,
    composed_showOverlay .., composed_showOverlay .., composed_showOverlay ..,
    composed_hideOverlay _, composed_referenceScreenshot _ _, composed_screenshot _ _ _,
    composed_moveToNumber _ _, by simp⟩

section Customs

theorem composed_performCustom (name : String) {a : CustomAction}
    (typed : ∀ t, a = .typeText t → types t) : (performCustom name a).Composed types := by
  cases a with
  | typeText t =>
      rw [performCustom]
      split
      · exact (composed_note _).bind fun _ => composed_pure false
      · refine (composed_act rfl fun s h => ?_).bind fun _ => composed_pure true
        obtain rfl := Action.typeText.inj h
        exact typed _ rfl
  | copyText t =>
      rw [performCustom]
      split
      · exact (composed_note _).bind fun _ => composed_pure false
      · refine composed_hasSystem.bind fun reached => ?_
        split
        · exact (composed_act rfl fun _ h => by cases h).bind fun _ => composed_pure true
        · exact composed_pure true
  | launchFile p =>
      -- what is launched does not depend on how the file was looked for
      have launched (path : String) (there : Bool) :
          Act.Composed types (if there then do act (.launch path); return true
            else throw (.execution name ("File not found: " ++ path) none) : Act Bool) := by
        split
        · exact (composed_act rfl fun _ h => by cases h).bind fun _ => composed_pure true
        · exact composed_throw _
      rw [performCustom]
      refine Act.Composed.reading (fun _ _ => rfl) fun w =>
        composed_hasSystem.bind fun reached => ?_
      dsimp only
      split
      · exact (composed_fileExists _).bind (launched _)
      · exact (composed_pure _).bind (launched _)
  | pressKeys ks =>
      rw [performCustom]
      split
      · exact (composed_note _).bind fun _ => composed_pure false
      · exact (Act.Composed.hold ks (composed_pure ())).bind fun _ => composed_pure true

/-- A custom command types nothing but the text that it was defined with. -/
theorem composed_custom (id : Nat) {d : CustomDefinition} (fuzzy : Option Lexicon)
    (typed : ∀ t, d.action = .typeText t → types t) : (custom id d fuzzy).Composed types where
  validate _ := by
    unfold custom
    dsimp only
    split
    · exact composed_hasSystem
    · exact composed_pure true
  execute _ := by
    refine (composed_performCustom _ typed).bind fun done => ?_
    split
    · exact composed_reportThen _ _ _ none
    · exact composed_pure none

theorem composed_customs (first : Nat) {s : CustomSettings} (lx : Option Lexicon)
    (typed : ∀ d ∈ (definitions s).1, ∀ t, d.action = .typeText t → types t) :
    ∀ c ∈ (customs first s lx).1, c.Composed types := by
  intro c hc
  obtain ⟨⟨d, i⟩, numbered, rfl⟩ := List.mem_map.1 hc
  have defined : d ∈ (definitions s).1 :=
    List.mem_of_getElem? (List.mk_mem_zipIdx_iff_getElem?.1 numbered)
  exact composed_custom _ _ (typed d defined)

end Customs

end Command

/-! ## Dispatch -/

namespace Registry

open Act

variable {c : Command} {text : String}

theorem composed_carryOut (sink : Option Channel) (h : c.Composed types) :
    (carryOut sink c text).Composed types := by
  refine (Act.Composed.attempt (h.execute text)).bind fun outcome => ?_
  split
  · exact (composed_publish sink rfl).bind fun _ => composed_pure _
  · exact (composed_publish sink rfl).bind fun _ => composed_throw _
  · exact (composed_conclude _).bind fun _ => (composed_note _).bind fun _ =>
      (composed_publish sink rfl).bind fun _ => composed_throw _

theorem composed_dispatch (sink : Option Channel) (h : c.Composed types) :
    (dispatch sink c text).Composed types := by
  refine (composed_publish sink rfl).bind fun _ =>
    (Act.Composed.attempt (h.validate text)).bind fun outcome => ?_
  split
  · exact composed_carryOut sink h
  · exact (composed_publish sink rfl).bind fun _ => composed_pure _
  · refine (composed_note _).bind fun _ => ?_
    split
    · exact (composed_conclude _).bind fun _ => (composed_publish sink rfl).bind fun _ =>
        composed_pure _
    · exact composed_pure _

theorem composed_notes (ns : List Notice) : (ns.forM note : Act PUnit).Composed types := by
  refine .aside (fun w => ?_) (blind_notes ns)
  rw [on_notes]
  exact w.aside_noted ns

/-- Whatever a text is dispatched to, it is done by what commands do. -/
theorem composed_process {r : Registry} (h : ∀ c ∈ r.commands, c.Composed types) (text : String)
    (enabledOnly : Bool) : (r.process text enabledOnly).Composed types := by
  have found : ∀ c, (r.findMatching text enabledOnly).1 = some c → c.Composed types := by
    intro c hc
    rw [findMatching_fst] at hc
    exact h c (List.mem_of_find?_eq_some hc)
  unfold process
  generalize r.findMatching text enabledOnly = m at found ⊢
  obtain ⟨_ | c, notices⟩ := m
  · exact (composed_notes notices).bind fun _ => composed_pure _
  · exact (composed_notes notices).bind fun _ => Act.Composed.reading (fun _ _ => rfl) fun w =>
      composed_dispatch _ (found c rfl)

end Registry

end VoiceControl
