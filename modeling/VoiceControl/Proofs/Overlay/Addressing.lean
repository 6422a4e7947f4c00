import VoiceControl.Proofs.Number.Natural
import VoiceControl.Proofs.Overlay.Agreement

/-!
# Grid states behind a coordinator

While nothing but the grid is put up, a coordinator stands for a grid state. Each request to it is
the transition of that state of the same name, drawing leaves the state alone, and a number is
answered with the pixel of its cell whatever was drawn.
-/

namespace VoiceControl

namespace GridPanel

/-- The options that ask for a grid of some size. -/
def sizeOptions (n : Nat) : Tree := .mapping [("size", .nat n)]

theorem optionSize_sizeOptions {n : Nat} (least : 2 ≤ n) (most : n ≤ 30) :
    optionSize (some (sizeOptions n)) = .valid (some (n : Number)) := by
  have small (m : Nat) (h : m ≤ 30) : m ≤ Number.exactLimit :=
    Nat.le_trans h (by decide)
  have number : (n : Number) ≠ .nan := by
    rw [Number.natCast_eq_finite (small n most)]
    nofun
  have whole := Number.isInteger_natCast (small n most)
  have above : Number.lt (n : Number) 2 = false := by
    rw [show (2 : Number) = ((2 : Nat) : Number) from rfl,
      Number.lt_natCast (small n most) (by decide)]
    exact decide_eq_false (by omega)
  have below : Number.lt 30 (n : Number) = false := by
    rw [show (30 : Number) = ((30 : Nat) : Number) from rfl,
      Number.lt_natCast (by decide) (small n most)]
    exact decide_eq_false (by omega)
  have read : Check.number [Check.isInteger, Check.atLeast 2, Check.atMost 30]
      [.key "size"] (.nat n) = .valid (n : Number) := by
    simp [Check.number, Tree.nat, number, Check.isInteger, whole, Check.atLeast, above,
      Check.atMost, below]
  show Check.maybeField "size" _ [] [("size", .nat n)] = _
  rw [Check.maybeField, Check.field]
  show Functor.map some (Check.number _ [.key "size"] (.nat n)) = _
  rw [read]
  rfl

/-- A grid of a permitted size that is asked for is shown over the whole screen. -/
theorem present_sizeOptions (p : GridPanel) {n : Nat} (least : 2 ≤ n) (most : n ≤ 30) :
    p.present (some (sizeOptions n)) = .ok (p.transition (Grid.whole p.screen n)) := by
  have small : n ≤ Number.exactLimit := Nat.le_trans most (by decide)
  have state : p.requested (some (sizeOptions n)) = .ok (Grid.whole p.screen n) := by
    rw [requested, optionSize_sizeOptions least most]
    dsimp only
    rw [Option.getD_some, Grid.show?, Number.toNat?_natCast small]
    obtain ⟨m, rfl⟩ := Nat.exists_eq_add_of_le' (Nat.le_trans (by decide : 1 ≤ 2) least)
    rfl
  rw [present, state]
  rfl

theorem transition_keeps (p : GridPanel) (s : Grid.State Number) :
    (p.transition s).1.content.logical.state = s ∧ (p.transition s).1.screen = p.screen := by
  rw [transition_fst]
  exact ⟨rfl, rfl⟩

theorem hide_keeps (p : GridPanel) :
    p.hide.1.content.logical.state = .unshown ∧ p.hide.1.screen = p.screen := by
  rw [hide_fst]
  exact ⟨rfl, rfl⟩

end GridPanel

namespace Coordinator

/-- A coordinator stands for a grid state: it agrees with its grid overlay, which covers a screen
and is in that state, and no other overlay is up. -/
structure Addresses (c : Coordinator) (screen : Screen Number) (s : Grid.State Number) : Prop where
  agrees : c.Agrees
  alone : c.current = none ∨ c.current = some .grid
  state : c.gridState = s
  covers : ∀ {g : GridPanel}, c.panel? .grid = some g → g.screen = screen

variable {c : Coordinator} {screen : Screen Number} {s : Grid.State Number}

theorem Agrees.addresses (h : c.Agrees) (alone : c.current = none ∨ c.current = some .grid)
    {g : GridPanel} (there : c.panel? .grid = some g)
    (known : g.content.logical.state = s ∧ g.screen = screen) : c.Addresses screen s where
  agrees := h
  alone := alone
  state := (gridState_of_panel there).trans known.1
  covers h' := (congrArg Panel.screen (Option.some.inj (h'.symm.trans there))).trans known.2

/-! ## Looking up -/

theorem Addresses.current_eq_grid (h : c.Addresses screen s) :
    c.current = some .grid ↔ s ≠ .unshown := by
  rw [← h.agrees.shown, h.state]

/-- The grid is up in every state but one, in which nothing is. -/
theorem Addresses.up_or_down (h : c.Addresses screen s) :
    c.current = some .grid ∧ s ≠ .unshown ∨ c.current = none ∧ s = .unshown := by
  rcases h.alone with down | up
  · refine .inr ⟨down, Classical.byContradiction fun shown => ?_⟩
    rw [h.current_eq_grid.2 shown] at down
    cases down
  · exact .inl ⟨up, h.current_eq_grid.1 up⟩

theorem Addresses.isSome_current (h : c.Addresses screen s) :
    c.current.isSome = true ↔ s ≠ .unshown := by
  rw [← h.current_eq_grid]
  rcases h.alone with up | up <;> simp [up]

/-- The answer for a number is the pixel of its cell, from whichever table. -/
theorem Addresses.position?_eq (h : c.Addresses screen s) (n : Number) :
    c.position? n = (s.cellCenter? n).map Point.round := by
  rcases h.up_or_down with ⟨up, -⟩ | ⟨down, rfl⟩
  · rw [h.agrees.position?_eq up, gridTarget?, h.state]
  · rw [h.agrees.position?_of_none down, Grid.State.cellCenter?, Grid.State.locate?_unshown]
    rfl

/-! ## Requests -/

/-- Showing the grid brings about the grid over the whole screen. -/
theorem Addresses.reveal (h : c.Addresses screen s) (area : screen.hasArea = true) {n : Nat}
    (least : 2 ≤ n) (most : n ≤ 30) :
    (c.reveal .grid (some (GridPanel.sizeOptions n))).coordinator.Addresses screen
      (Grid.whole screen n) := by
  obtain ⟨g, hg⟩ := h.agrees.full .grid
  have covers := h.covers hg
  have accepted : OverlayKind.grid.present g (some (GridPanel.sizeOptions n)) =
      .ok (GridPanel.transition g (Grid.whole screen n)) := by
    rw [← covers]
    exact GridPanel.present_sizeOptions g least most
  rw [reveal_of_accepted hg (covers ▸ area) accepted, makeRoom_of_free h.alone]
  show (c.raised .grid (GridPanel.transition g (Grid.whole screen n)).1).Addresses screen _
  refine (h.agrees.raise hg h.alone accepted).addresses (.inr rfl)
    ((panel?_raised ..).trans (panel?_setPanel_self ..)) ?_
  rw [← covers]
  exact GridPanel.transition_keeps g _

/-- Hiding what is up leaves no grid. -/
theorem Addresses.hideCurrent (h : c.Addresses screen s) :
    c.hideCurrent.coordinator.Addresses screen .unshown := by
  rcases h.up_or_down with ⟨up, -⟩ | ⟨down, rfl⟩
  · obtain ⟨g, hg⟩ := h.agrees.full .grid
    rw [Coordinator.hideCurrent, up]
    dsimp only
    rw [hide_of_eq hg up]
    show (c.lowered .grid (GridPanel.hide g).1).Addresses screen _
    refine (h.agrees.lower hg up).addresses (.inl rfl)
      ((panel?_lowered ..).trans (panel?_setPanel_self ..)) ?_
    rw [← h.covers hg]
    exact GridPanel.hide_keeps g
  · rw [Coordinator.hideCurrent, down]
    exact h

/-- No utterance is taken, since the help is not up. -/
theorem Addresses.handleInput_eq (h : c.Addresses screen s) (text : String) :
    c.handleInput text = ⟨false, c, []⟩ := by
  rcases h.alone with up | up <;> simp [Coordinator.handleInput, up]

/-- Refining narrows the state to the cell, if it is one of the grid's. -/
theorem Addresses.refine (h : c.Addresses screen s) (cell : Number) :
    (c.refine cell).coordinator.Addresses screen ((s.refine? cell).getD s) := by
  obtain ⟨g, hg⟩ := h.agrees.full .grid
  have logical : g.content.logical.state = s := by rw [← h.state, gridState_of_panel hg]
  rcases h.up_or_down with ⟨up, -⟩ | ⟨down, rfl⟩
  · cases refined : s.refine? cell with
    | none =>
        have refused : GridPanel.refine? g cell = none := by
          rw [GridPanel.refine?, logical, refined]
          rfl
        rw [refine_of_refused hg up refused]
        exact h
    | some t =>
        have accepted : GridPanel.refine? g cell = some (GridPanel.transition g t) := by
          rw [GridPanel.refine?, logical, refined]
          rfl
        rw [refine_of_accepted hg up accepted]
        show (c.narrowed (GridPanel.transition g t).1).Addresses screen t
        refine (h.agrees.narrow hg up accepted).addresses (.inr ((current_narrowed ..).trans up))
          ((panel?_narrowed ..).trans (panel?_setPanel_self ..)) ?_
        rw [← h.covers hg]
        exact GridPanel.transition_keeps g t
  · have other : c.current ≠ some .grid := by
      rw [down]
      exact (Option.some_ne_none _).symm
    rw [refine_of_not_grid other, Grid.State.refine?, Grid.State.locate?_unshown]
    exact h

/-! ## Drawing -/

section Drawing

variable (sources : Sources)

/-- A step of a queue has no part in which overlay is up. -/
theorem current_step (full : c.Full) (k : OverlayKind) :
    (c.step sources k).1.current = c.current := by
  obtain ⟨p, hp⟩ := full k
  rw [step_eq hp, current_accept, current_setPanel]

/-- A step of a queue changes nothing of the grid that requests see. -/
theorem grid_step (full : c.Full) (k : OverlayKind) {g : GridPanel}
    (hg : c.panel? .grid = some g) :
    ∃ g' : GridPanel, (c.step sources k).1.panel? .grid = some g' ∧ g'.screen = g.screen ∧
      g'.content.logical = g.content.logical := by
  by_cases grid : k = .grid
  · -- the logical state is only changed by requests
    subst grid
    obtain ⟨screen, content⟩ := GridPanel.advance_keeps sources g
    refine ⟨_, ?_, screen, by rw [content]⟩
    rw [step_eq hg, panel?_accept, panel?_setPanel_self]
    rfl
  · obtain ⟨p, hp⟩ := full k
    refine ⟨g, ?_, rfl, rfl⟩
    rw [step_eq hp, panel?_accept, panel?_setPanel_of_ne c (Ne.symm grid), hg]

theorem Addresses.step (h : c.Addresses screen s) (k : OverlayKind) :
    (c.step sources k).1.Addresses screen s := by
  obtain ⟨g, hg⟩ := h.agrees.full .grid
  obtain ⟨g', there, same, logical⟩ := grid_step sources h.agrees.full k hg
  refine (h.agrees.step sources k).addresses ?_ there ⟨?_, same.trans (h.covers hg)⟩
  · rw [current_step sources h.agrees.full]
    exact h.alone
  · rw [logical, ← gridState_of_panel hg, h.state]

theorem Addresses.steps (h : c.Addresses screen s) (k : OverlayKind) (n : Nat) :
    (c.steps sources k n).1.Addresses screen s := by
  induction n generalizing c with
  | zero => exact h
  | succ n ih => exact ih (h.step sources k)

/-- Which overlays have work is bookkeeping for the order of drawing and nothing else. -/
theorem Agrees.waking (h : c.Agrees) (waking : List OverlayKind) : { c with waking }.Agrees where
  full k := by
    obtain ⟨p, hp⟩ := h.full k
    cases k <;> exact ⟨p, hp⟩
  ordered hg := h.ordered hg
  shown := h.shown
  table := h.table
  refined := h.refined
  empty := h.empty

theorem Addresses.settle (h : c.Addresses screen s) (k : OverlayKind) :
    (c.settle sources k).1.Addresses screen s := by
  have drawn := h.steps sources k (c.stepsLeft k)
  exact ⟨drawn.agrees.waking _, drawn.alone, drawn.state, drawn.covers⟩

theorem Addresses.settleAll (h : c.Addresses screen s) (ks : List OverlayKind) :
    (c.settleAll sources ks).1.Addresses screen s := by
  induction ks generalizing c with
  | nil => exact h
  | cons k ks ih => exact ih (h.settle sources k)

theorem Addresses.flush (h : c.Addresses screen s) : (c.flush sources).1.Addresses screen s :=
  h.settleAll sources c.waking

end Drawing

end Coordinator

end VoiceControl
