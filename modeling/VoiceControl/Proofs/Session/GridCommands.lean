import VoiceControl.Proofs.Command.Effects
import VoiceControl.Proofs.Overlay.Addressing
import VoiceControl.Proofs.Session.GridWords

/-!
# The commands about the grid on a workspace

What an utterance about the grid means for a grid state, and that its command does just that: the
actions on the desktop are those of the meaning, and the overlays stand for the next state.
-/

namespace VoiceControl

open VoiceControl.Command

/-! ## Meanings -/

/-- The pixel of the cell that a numeral names. -/
def Grid.State.pixel? (s : Grid.State Number) (k : Numeral) : Option (Point Number) :=
  (s.cellCenter? (k.value : Number)).map Point.round

namespace GridWord

/-- The grid state after an utterance. A refinement into a cell that is not one of the grid's
changes nothing. -/
def next (screen : Screen Number) (size : Nat) (s : Grid.State Number) :
    GridWord → Grid.State Number
  | .grid => ((Grid.show? screen (size : Number)).toOption).getD s
  | .hide => .unshown
  | .refine k => (s.refine? (k.value : Number)).getD s
  | .point _ | .click _ | .drag _ _ => s

/-- The actions that an utterance means in a grid state: nothing where a cell is not one of the
grid's. -/
def actions (s : Grid.State Number) : GridWord → List Action
  | .grid | .hide | .refine _ => []
  | .point k =>
      match s.pixel? k with
      | some p => [.movePointer p]
      | none => []
  | .click k =>
      match s.pixel? k with
      | some p => [.movePointer p, .click .left 1]
      | none => []
  | .drag a b =>
      match s.pixel? a, s.pixel? b with
      | some p, some q =>
          [.movePointer p, .pressButton .left, .movePointer q, .releaseButton .left]
      | _, _ => []

end GridWord

@[simp] theorem Grid.State.pixel?_unshown (k : Numeral) :
    (Grid.State.unshown : Grid.State Number).pixel? k = none := by
  rw [pixel?, cellCenter?, locate?_unshown]
  rfl

/-- Without a grid nothing is done. -/
theorem GridWord.actions_unshown (w : GridWord) : w.actions .unshown = [] := by
  cases w <;> simp [actions]

/-- A grid of a permitted size can be shown. -/
theorem GridWord.next_grid (screen : Screen Number) {size : Nat} (least : 2 ≤ size)
    (most : size ≤ 30) (s : Grid.State Number) :
    GridWord.grid.next screen size s = Grid.whole screen size := by
  have small : size ≤ Number.exactLimit := Nat.le_trans most (by decide)
  rw [next, Grid.show?, Number.toNat?_natCast small]
  obtain ⟨m, rfl⟩ := Nat.exists_eq_add_of_le' (Nat.le_trans (by decide : 1 ≤ 2) least)
  rfl

/-! ## Effects -/

section Effects

variable {w : Workspace} {screen : Screen Number} {s : Grid.State Number}

theorem gives_hasOverlays (willing : w.Willing) :
    Act.hasOverlays.Gives w true [] w.overlays :=
  (Act.gives_get w).before fun w' became =>
    (Act.gives_pure w.reach.overlays w').cast willing.reached rfl became.overlays

theorem gives_anyOverlayUp (willing : w.Willing) (h : w.overlays.Addresses screen s) :
    anyOverlayUp.Gives w (decide (s ≠ .unshown)) [] w.overlays := by
  refine (Act.gives_look willing).cast ?_ rfl rfl
  rw [Bool.eq_iff_iff, h.isSome_current, decide_eq_true_eq]

theorem gives_isUp_grid (willing : w.Willing) (h : w.overlays.Addresses screen s) :
    (isUp .grid).Gives w (decide (s ≠ .unshown)) [] w.overlays := by
  refine (Act.gives_look willing).cast ?_ rfl rfl
  rw [Bool.eq_iff_iff, beq_iff_eq, h.current_eq_grid, decide_eq_true_eq]

theorem gives_positionOf (willing : w.Willing) (h : w.overlays.Addresses screen s) (k : Numeral) :
    (positionOf (k.value : Number)).Gives w (s.pixel? k) [] w.overlays :=
  (Act.gives_look willing).cast (h.position?_eq _) rfl rfl

/-- Reporting goes last and does nothing. -/
theorem gives_report_none (name text : String) (detail : Entries Tree) (w : Workspace) :
    (do report name text detail; return none : Act (Option String)).Gives w none [] w.overlays :=
  (Act.gives_report name text detail w).before fun w' became =>
    (Act.gives_pure none w').cast rfl rfl became.overlays

/-- The pointer goes to the position of the number, and then more is done; where there is none
nothing is done. -/
theorem gives_goToNumber {lx : Lexicon} {text : String} {n : Number} {andThen : Act Unit}
    {more : List Action} (name : String) (number : lx.numbers (Utterance.plain text.toList) = [n])
    (willing : w.Willing) (goOn : ∀ w', w'.Willing → andThen.Gives w' () more w'.overlays) :
    (goToNumber lx name text andThen).Gives w none
      (match w.overlays.position? n with
        | some p => .movePointer p :: more
        | none => [])
      w.overlays := by
  unfold goToNumber
  rw [number, List.head?_cons]
  dsimp only
  have position : (positionOf n).Gives w (w.overlays.position? n) [] w.overlays :=
    Act.gives_look willing
  refine position.before fun w₁ h₁ => ?_
  have willing₁ := h₁.willing willing
  cases w.overlays.position? n with
  | none => exact (gives_report_none _ _ _ w₁).cast rfl rfl h₁.overlays
  | some p =>
      refine Act.Gives.act_bind willing₁ fun w₂ h₂ => ?_
      have willing₂ := h₂.willing willing₁
      refine ((goOn w₂ willing₂).after fun w₃ _ => gives_report_none _ _ _ w₃).cast rfl rfl ?_
      rw [h₂.overlays, h₁.overlays]

/-- The drag goes from the one pixel to the other; where one of them is missing nothing is done. -/
theorem gives_drag_command {o : BuiltinOptions} (a b : Numeral) (willing : w.Willing)
    (h : w.overlays.Addresses screen s) :
    (((GridWord.drag a b).command o).execute (GridWord.drag a b).text).Gives w none
      ((GridWord.drag a b).actions s) w.overlays := by
  unfold GridWord.command dragBetweenNumbers
  dsimp only
  rw [GridWord.dragTargets?_text]
  dsimp only
  refine (gives_positionOf willing h a).before fun w₁ h₁ => ?_
  have willing₁ := h₁.willing willing
  have same₁ : w₁.overlays.Addresses screen s := h₁.overlays ▸ h
  refine ((gives_positionOf willing₁ same₁ b).before fun w₂ h₂ => ?_).cast rfl rfl h₁.overlays
  have willing₂ := h₂.willing willing₁
  dsimp only [GridWord.actions]
  cases s.pixel? a with
  | none => exact (gives_report_none _ _ _ w₂).cast rfl rfl h₂.overlays
  | some p =>
      cases s.pixel? b with
      | none => exact (gives_report_none _ _ _ w₂).cast rfl rfl h₂.overlays
      | some q =>
          exact ((Act.gives_drag p q willing₂).after fun w₃ _ =>
            gives_report_none _ _ _ w₃).cast rfl rfl h₂.overlays

end Effects

/-! ## Commands -/

namespace GridWord

/-- What an utterance asks of the overlays. -/
def request (size : Nat) (c : Coordinator) : GridWord → Coordinator
  | .grid => (c.reveal .grid (some (GridPanel.sizeOptions size))).coordinator
  | .hide => c.hideCurrent.coordinator
  | .refine k => (c.refine (k.value : Number)).coordinator
  | .point _ | .click _ | .drag _ _ => c

/-- Whether an utterance is for a command that is not valid without a grid. -/
def needsGrid : GridWord → Bool
  | .refine _ | .point _ | .drag _ _ => true
  | .grid | .hide | .click _ => false

end GridWord

section Commands

variable {o : BuiltinOptions} {w : Workspace} {screen : Screen Number} {s : Grid.State Number}

/-- The overlays go on to stand for the next state. -/
theorem Coordinator.Addresses.request {c : Coordinator} (h : c.Addresses screen s)
    (area : screen.hasArea = true) {size : Nat} (least : 2 ≤ size) (most : size ≤ 30)
    (v : GridWord) : (v.request size c).Addresses screen (v.next screen size s) := by
  cases v with
  | grid =>
      rw [GridWord.next_grid screen least most]
      exact h.reveal area least most
  | hide => exact h.hideCurrent
  | refine k => exact h.refine _
  | point k => exact h
  | click k => exact h
  | drag a b => exact h

/-- Without a grid nothing is asked by an utterance that needs one. -/
theorem GridWord.request_of_unshown {c : Coordinator} (h : c.Addresses screen .unshown)
    {v : GridWord} (needs : v.needsGrid = true) (size : Nat) : v.request size c = c := by
  cases v with
  | grid => cases needs
  | hide => cases needs
  | refine k =>
      have down : c.current ≠ some .grid := fun up => h.current_eq_grid.1 up rfl
      rw [request, Coordinator.refine_of_not_grid down]
  | point k => rfl
  | click k => rfl
  | drag a b => rfl

theorem gives_validate (willing : w.Willing) (h : w.overlays.Addresses screen s) (v : GridWord) :
    ((v.command o).validate v.text).Gives w (!v.needsGrid || decide (s ≠ .unshown)) []
      w.overlays := by
  cases v with
  | grid => exact gives_hasOverlays willing
  | hide => exact gives_hasOverlays willing
  | refine k => exact gives_isUp_grid willing h
  | point k => exact gives_anyOverlayUp willing h
  | click k => exact gives_hasOverlays willing
  | drag a b => exact gives_anyOverlayUp willing h

/-- The help is not up, so what is up is hidden. -/
theorem gives_hide (id : Nat) (text : String) (willing : w.Willing)
    (h : w.overlays.Addresses screen s) :
    ((hideOverlay id).execute text).Gives w none [] w.overlays.hideCurrent.coordinator := by
  unfold hideOverlay
  dsimp only
  refine (gives_hasOverlays willing).before fun w₁ h₁ => ?_
  have willing₁ := h₁.willing willing
  rw [if_pos rfl]
  refine (Act.gives_look willing₁).before fun w₂ h₂ => ?_
  have willing₂ := h₂.willing willing₁
  have same₂ : w₂.overlays.Addresses screen s := (h₁.still h₂).overlays ▸ h
  have heard : (Act.ask (·.handleInput (Utterance.plainText text))).Gives w₂ _ _ _ :=
    Act.gives_ask willing₂
  rw [same₂.handleInput_eq] at heard
  refine heard.before fun w₃ h₃ => ?_
  rw [if_neg Bool.false_ne_true]
  refine ((Act.gives_ask (h₃.willing willing₂)).after fun w₄ _ =>
    gives_report_none _ _ _ w₄).cast rfl rfl ?_
  rw [h₃.overlays, h₂.overlays, h₁.overlays]

/-- The command of an utterance does what the utterance means. -/
theorem gives_execute (size : Nat) (hsize : o.gridSize = (size : Number)) (willing : w.Willing)
    (h : w.overlays.Addresses screen s) (v : GridWord) :
    ((v.command o).execute v.text).Gives w none (v.actions s) (v.request size w.overlays) := by
  cases v with
  | grid =>
      unfold GridWord.command showGrid showOverlay
      dsimp only
      rw [hsize]
      exact (Act.gives_ask willing).after fun w₁ _ => gives_report_none _ _ _ w₁
  | hide => exact gives_hide 36 _ willing h
  | refine k =>
      unfold GridWord.command refineGrid
      dsimp only
      rw [GridWord.text, String.toList_ofList, GridWord.plain_spoken, GridWord.numbers_refine,
        List.head?_cons]
      exact (Act.gives_ask willing).after fun w₁ _ => gives_report_none _ _ _ w₁
  | point k =>
      unfold GridWord.command moveToNumber
      dsimp only
      have number : o.lexicon.numbers (Utterance.plain (GridWord.point k).text.toList) =
          [(k.value : Number)] := by
        rw [GridWord.text, String.toList_ofList, GridWord.plain_spoken, GridWord.numbers_point]
      refine (gives_goToNumber _ number willing fun w' _ => Act.gives_pure () w').cast rfl ?_ rfl
      rw [h.position?_eq]
      rfl
  | click k =>
      unfold GridWord.command clickNumber
      dsimp only
      have number : o.lexicon.numbers (Utterance.plain (GridWord.click k).text.toList) =
          [(k.value : Number)] := by
        rw [GridWord.text, String.toList_ofList, GridWord.plain_spoken, GridWord.numbers_click]
      refine (gives_goToNumber _ number willing fun w' willing' =>
        Act.gives_act _ willing').cast rfl ?_ rfl
      rw [h.position?_eq]
      rfl
  | drag a b => exact gives_drag_command a b willing h

/-- The utterance goes to its command, with the effects of its meaning and nothing to type. -/
theorem gives_process {v : GridWord} {r : Registry}
    (found : r.findMatching v.text = (some (v.command o), [])) {size : Nat}
    (hsize : o.gridSize = (size : Number)) (willing : w.Willing)
    (h : w.overlays.Addresses screen s) :
    ∃ result, (r.process v.text).Gives w result (v.actions s) (v.request size w.overlays) ∧
      result.output = none := by
  have still (w' : Workspace) (became : w.Became [] w.overlays w') :
      w'.Willing ∧ w'.overlays.Addresses screen s :=
    ⟨became.willing willing, became.overlays ▸ h⟩
  have validate := fun w' became =>
    gives_validate (o := o) (still w' became).1 (still w' became).2 v
  by_cases valid : (!v.needsGrid || decide (s ≠ .unshown)) = true
  · rw [valid] at validate
    refine ⟨⟨none, true⟩, Registry.gives_process_of_valid found validate ?_, rfl⟩
    intro w' became
    have works := gives_execute size hsize (still w' became).1 (still w' became).2 v
    rwa [became.overlays] at works
  · rw [Bool.eq_false_iff.2 valid] at validate
    simp only [Bool.or_eq_true, Bool.not_eq_true', decide_eq_true_eq, not_or, Bool.not_eq_false,
      ne_eq, not_not] at valid
    obtain ⟨needs, rfl⟩ := valid
    -- a command is only invalid where its utterance means nothing
    refine ⟨.nothing, ?_, rfl⟩
    rw [v.actions_unshown, GridWord.request_of_unshown h needs]
    exact Registry.gives_process_of_invalid found validate

end Commands

end VoiceControl
