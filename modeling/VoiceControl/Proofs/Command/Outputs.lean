import VoiceControl.Command.Builtin
import VoiceControl.Command.Custom
import VoiceControl.Proofs.Command.Gestures

/-!
# What commands give back

What a command gives back is text for its caller to type. A command that does something by itself
gives nothing back; the three that give a text do nothing but look at the workspace and write down.

* `Act.Silent`: an act that gives nothing to type.
* `Command.Conveys`: a command that does nothing else when it gives a text; all commands are so.
-/

namespace VoiceControl

/-! ## Nothing but the journal -/

namespace Workspace

/-- Nothing has changed but the journal. -/
def Unmoved (w w' : Workspace) : Prop := ∃ journal, w' = { w with journal }

theorem lasting_unmoved : Lasting Unmoved where
  refl w := ⟨w.journal, rfl⟩
  trans h h' := by
    obtain ⟨j, rfl⟩ := h
    obtain ⟨j', rfl⟩ := h'
    exact ⟨j', rfl⟩

theorem unmoved_noted (w : Workspace) (ns : List Notice) : w.Unmoved (w.noted ns) := ⟨_, rfl⟩

theorem unmoved_published (w : Workspace) (sink : Option Channel) (e : Event) :
    w.Unmoved (w.published sink e) := by
  cases sink with
  | none => exact lasting_unmoved.refl w
  | some ch => exact ⟨_, rfl⟩

end Workspace

/-! ## Acts that give a text -/

namespace Act

variable {α : Type}

/-- An act that gives nothing to type. -/
def Silent (x : Act (Option String)) : Prop := ∀ w output, (x.on w).1 = .ok output → output = none

theorem silent_none : (pure none : Act (Option String)).Silent :=
  fun _ _ gave => (Except.ok.inj gave).symm

theorem silent_throw (f : Failure) : (throw f : Act (Option String)).Silent :=
  fun _ _ gave => by cases gave

/-- What goes before does not count. -/
theorem Silent.bind {x : Act α} {f : α → Act (Option String)} (next : ∀ a, (f a).Silent) :
    (x >>= f).Silent := by
  intro w output gave
  rw [on_bind] at gave
  rcases ran : x.on w with ⟨failure | a, w'⟩ <;> rw [ran] at gave
  · cases gave
  · exact next a w' output gave

/-- An act whose last step gives nothing. -/
theorem silent_lastly (x : Act α) : (do let _ ← x; return none : Act (Option String)).Silent :=
  .bind fun _ => silent_none

theorem unmoved_report (name text : String) (detail : Entries Tree) :
    (Command.report name text detail).Within Workspace.Unmoved := by
  intro w
  rw [on_report]
  exact w.unmoved_published _ _

end Act

/-! ## Commands -/

/-- When a command gives a text, it has done nothing but write down. -/
def Command.Conveys (c : Command) : Prop :=
  ∀ text w output w', (c.execute text).on w = (.ok (some output), w') → w.Unmoved w'

namespace Command

open Act

theorem conveys_of_silent {c : Command} (silent : ∀ text, (c.execute text).Silent) :
    c.Conveys := by
  intro text w output w' ran
  cases silent text w (some output) (congrArg Prod.fst ran)

theorem conveys_of_within {c : Command}
    (within : ∀ text, (c.execute text).Within Workspace.Unmoved) : c.Conveys := by
  intro text w output w' ran
  have kept := within text w
  rwa [ran] at kept

/-! ### Commands that give a text -/

theorem conveys_typeSymbol (id : Nat) (symbols : Symbols) : (typeSymbol id symbols).Conveys :=
  conveys_of_within fun _ => within_pure Workspace.lasting_unmoved _

theorem conveys_typeText (id : Nat) (symbols : Symbols) : (typeText id symbols).Conveys :=
  conveys_of_within fun _ => within_pure Workspace.lasting_unmoved _

theorem conveys_referenceScreenshot (id : Nat) (store : ScreenshotStore) :
    (referenceScreenshot id store).Conveys := by
  refine conveys_of_within fun text => ?_
  have lasting := Workspace.lasting_unmoved
  have told (detail : Entries Tree) (output : Option String) :
      (do report "ReferenceScreenshotCommand" text detail; return output :
        Act (Option String)).Within Workspace.Unmoved :=
    (unmoved_report _ _ _).bind lasting fun _ => within_pure lasting output
  have noted (n : Notice) : (note n).Within Workspace.Unmoved := fun w => w.unmoved_noted [n]
  unfold referenceScreenshot
  dsimp only
  split
  · exact within_pure lasting none
  · refine (within_get lasting).bind lasting fun w => ?_
    refine (within_conclude lasting _).bind lasting fun found => ?_
    split
    · exact (noted _).bind lasting fun _ => told _ _
    · split
      · split
        · exact (noted _).bind lasting fun _ => told _ _
        · exact told _ _
      · split
        · exact (noted _).bind lasting fun _ => told _ _
        · exact told _ _

/-! ### Commands that act -/

section Keyboard

theorem silent_keyPress (id : Nat) (name : String) (triggers : List String)
    (key description : String) (priority : Number) (text : String) :
    ((keyPress id name triggers key description priority).execute text).Silent :=
  silent_lastly _

theorem silent_keyboardShortcut (id : Nat) (name : String) (triggers : List String)
    (key description : String) (priority : Number) (modifier text : String) :
    ((keyboardShortcut id name triggers key description priority modifier).execute text).Silent :=
  silent_lastly _

theorem silent_deleteLine (id : Nat) (text : String) : ((deleteLine id).execute text).Silent :=
  .bind fun _ => .bind fun _ => silent_lastly _

theorem silent_clipboard (id : Nat) (text : String) : ((clipboard id).execute text).Silent := by
  unfold clipboard
  dsimp only
  split
  · exact silent_none
  · exact .bind fun _ => silent_lastly _

end Keyboard

section Mouse

theorem silent_fixedClick (id : Nat) (name : String) (triggers : List String)
    (button : MouseButton) (count : Nat) (description : String) (priority : Number)
    (text : String) :
    ((fixedClick id name triggers button count description priority).execute text).Silent :=
  .bind fun _ => silent_lastly _

theorem silent_scroll (id : Nat) (text : String) : ((scroll id).execute text).Silent := by
  unfold scroll
  dsimp only
  split
  · exact silent_none
  · exact .bind fun _ => .bind fun _ => silent_lastly _

theorem silent_mouseMove (id : Nat) (text : String) : ((mouseMove id).execute text).Silent := by
  unfold mouseMove
  dsimp only
  split
  · exact silent_none
  · exact .bind fun _ => .bind fun _ => .bind fun _ => .bind fun _ => silent_lastly _

end Mouse

section Navigation

theorem silent_arrowKey (id : Nat) (text : String) : ((arrowKey id).execute text).Silent := by
  unfold arrowKey
  dsimp only
  split
  · exact .bind fun _ => silent_lastly _
  · exact silent_none

theorem silent_homeEnd (id : Nat) (text : String) : ((homeEnd id).execute text).Silent := by
  unfold homeEnd
  dsimp only
  split
  · exact silent_none
  · exact .bind fun _ => silent_lastly _

end Navigation

section Windows

theorem silent_moveWindow (id : Nat) (text : String) : ((moveWindow id).execute text).Silent :=
  .bind fun _ => .bind fun _ => silent_lastly _

theorem silent_switchToWindowNumber (id : Nat) (lx : Lexicon) (text : String) :
    ((switchToWindowNumber id lx).execute text).Silent := by
  unfold switchToWindowNumber
  dsimp only
  split
  · exact silent_none
  · refine .bind fun reached => ?_
    split
    · refine .bind fun focused => ?_
      split
      · exact .bind fun _ => silent_lastly _
      · exact silent_lastly _
    · exact silent_none

end Windows

section Overlays

theorem silent_showOverlay (id : Nat) (name : String) (k : OverlayKind) (phrases : List String)
    (description : String) (options : Option Tree) (text : String) :
    ((showOverlay id name k phrases description options).execute text).Silent :=
  .bind fun _ => silent_lastly _

theorem silent_hideOverlay (id : Nat) (text : String) : ((hideOverlay id).execute text).Silent := by
  unfold hideOverlay
  dsimp only
  refine .bind fun reached => ?_
  split
  · refine .bind fun current => .bind fun taken => ?_
    split
    · exact .bind fun _ => silent_lastly _
    · exact .bind fun _ => silent_lastly _
  · exact silent_none

end Overlays

section Targets

theorem silent_goToNumber (lx : Lexicon) (name text : String) (andThen : Act Unit) :
    (goToNumber lx name text andThen).Silent := by
  unfold goToNumber
  split
  · exact silent_none
  · refine .bind fun position => ?_
    split
    · exact silent_lastly _
    · exact .bind fun _ => .bind fun _ => silent_lastly _

theorem silent_clickNumber (id : Nat) (lx : Lexicon) (text : String) :
    ((clickNumber id lx).execute text).Silent :=
  silent_goToNumber _ _ _ _

theorem silent_moveToNumber (id : Nat) (lx : Lexicon) (text : String) :
    ((moveToNumber id lx).execute text).Silent :=
  silent_goToNumber _ _ _ _

theorem silent_dragBetweenNumbers (id : Nat) (lx : Lexicon) (text : String) :
    ((dragBetweenNumbers id lx).execute text).Silent := by
  unfold dragBetweenNumbers
  dsimp only
  split
  · exact silent_none
  · refine .bind fun start => .bind fun finish => ?_
    split
    · exact .bind fun _ => silent_lastly _
    · exact silent_lastly _

theorem silent_refineGrid (id : Nat) (lx : Lexicon) (text : String) :
    ((refineGrid id lx).execute text).Silent := by
  unfold refineGrid
  dsimp only
  split
  · exact silent_none
  · exact .bind fun _ => silent_lastly _

end Targets

theorem silent_screenshot (id : Nat) (store : ScreenshotStore) (moment : Option Moment)
    (text : String) : ((screenshot id store moment).execute text).Silent := by
  unfold screenshot
  dsimp only
  refine .bind fun w => .bind fun outcome => ?_
  split
  · exact .bind fun _ => silent_throw _
  · exact silent_lastly _

/-- Custom commands give nothing back, not even the text that they type. -/
theorem silent_custom (id : Nat) (d : CustomDefinition) (fuzzy : Option Lexicon) (text : String) :
    ((custom id d fuzzy).execute text).Silent := by
  unfold custom
  dsimp only
  refine .bind fun done => ?_
  split
  · exact silent_lastly _
  · exact silent_none

/-! ### All commands -/

theorem conveys_builtins (o : BuiltinOptions) : ∀ c ∈ builtins o, c.Conveys := by
  simp only [builtins, numbered, List.zipIdx_cons, List.zipIdx_nil, List.map_cons, List.map_nil,
    List.forall_mem_cons]
  -- all but three do something by themselves
  have acts {c : Command} (silent : ∀ text, (c.execute text).Silent) : c.Conveys :=
    conveys_of_silent silent
  exact ⟨conveys_typeText _ _, acts fun _ => silent_lastly _, acts (silent_deleteLine _),
    acts (silent_clipboard _), acts (silent_keyboardShortcut _ _ _ _ _ _ _),
    acts (silent_keyboardShortcut _ _ _ _ _ _ _), acts (silent_keyboardShortcut _ _ _ _ _ _ _),
    acts (silent_keyboardShortcut _ _ _ _ _ _ _), acts (silent_keyPress _ _ _ _ _ _),
    acts (silent_keyPress _ _ _ _ _ _), acts (silent_keyPress _ _ _ _ _ _),
    acts (silent_keyPress _ _ _ _ _ _), acts (silent_keyPress _ _ _ _ _ _),
    conveys_typeSymbol _ _, acts (silent_clickNumber _ _), acts (silent_dragBetweenNumbers _ _),
    acts (silent_refineGrid _ _), acts (silent_fixedClick _ _ _ _ _ _ _),
    acts (silent_fixedClick _ _ _ _ _ _ _), acts (silent_fixedClick _ _ _ _ _ _ _),
    acts (silent_fixedClick _ _ _ _ _ _ _), acts (silent_scroll _), acts (silent_mouseMove _),
    acts fun _ => .bind fun _ => silent_lastly _, acts (silent_homeEnd _),
    acts (silent_arrowKey _), acts (silent_switchToWindowNumber _ _), acts (silent_moveWindow _),
    acts fun _ => .bind fun _ => silent_lastly _, acts fun _ => .bind fun _ => silent_lastly _,
    acts fun _ => .bind fun _ => silent_lastly _, acts fun _ => .bind fun _ => silent_lastly _,
    acts (silent_showOverlay _ _ _ _ _ _), acts (silent_showOverlay _ _ _ _ _ _),
    acts (silent_showOverlay _ _ _ _ _ _), acts (silent_showOverlay _ _ _ _ _ _),
    acts (silent_hideOverlay _), conveys_referenceScreenshot _ _, acts (silent_screenshot _ _ _),
    acts (silent_moveToNumber _ _), by simp⟩

theorem conveys_customs (first : Nat) (s : CustomSettings) (lx : Option Lexicon) :
    ∀ c ∈ (customs first s lx).1, c.Conveys := by
  intro c hc
  obtain ⟨⟨d, i⟩, -, rfl⟩ := List.mem_map.1 hc
  exact conveys_of_silent (silent_custom _ _ _)

end Command

end VoiceControl
