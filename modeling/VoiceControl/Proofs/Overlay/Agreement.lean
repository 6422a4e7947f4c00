import VoiceControl.Proofs.Overlay.GridTickets

/-!
# The coordinator agrees with its grid

Whatever requests were made and however far drawing has come, the coordinator and its grid overlay
say the same. The grid is shown exactly while it is the current overlay, every published position
and every position looked up is that of the grid's logical state, and nothing is left over of an
overlay that went down.
-/

namespace VoiceControl

namespace Coordinator

/-- The logical state of the grid overlay. -/
def gridState (c : Coordinator) : Grid.State Number :=
  match c.grid with
  | some g => g.content.logical.state
  | none => .unshown

theorem gridState_of_panel {c : Coordinator} {g : GridPanel} (h : c.panel? .grid = some g) :
    c.gridState = g.content.logical.state := by
  have hg : c.grid = some g := h
  simp [gridState, hg]

/-- The coordinator and its grid overlay agree. -/
structure Agrees (c : Coordinator) : Prop where
  full : c.Full
  ordered : ∀ {g : GridPanel}, c.panel? .grid = some g → g.Ordered
  shown : c.gridState ≠ .unshown ↔ c.current = some .grid
  table : c.current = some .grid → c.table = [] ∨ c.table = GridPanel.targets c.gridState
  refined : ∀ cell, c.refinedCell = some cell →
    c.current = some .grid ∧ cell = c.gridState.parent?
  empty : c.current = none → c.table = []

variable {c : Coordinator} {k : OverlayKind}

/-- The grid's logical state depends on the grid alone. -/
theorem gridState_congr {c d : Coordinator} (h : d.panel? .grid = c.panel? .grid) :
    d.gridState = c.gridState := by
  have hg : d.grid = c.grid := h
  simp [gridState, hg]

theorem agrees_coordinator (o : Outfit) : o.coordinator.Agrees where
  full k := by
    obtain ⟨p, hp, -⟩ := o.exists_panel?_coordinator k
    exact ⟨p, hp⟩
  ordered h := by
    obtain rfl := Option.some.inj h
    exact GridPanel.ordered_of_fresh rfl rfl
  shown := by simp [Outfit.coordinator, Outfit.overlay, register, gridState, OverlayKind.all]
  table _ := .inl rfl
  refined _ h := by cases h
  empty _ := rfl

/-! ## Requests -/

/-- Taking an overlay down leaves a grid behind that is not shown. -/
theorem Agrees.lower {p : Panel k.Content k.Drawn} (there : c.panel? k = some p)
    (up : c.current = some k) (h : c.Agrees) : (c.lowered k (k.conceal p).1).Agrees := by
  have hidden : (c.lowered k (k.conceal p).1).gridState = .unshown := by
    by_cases hk : k = .grid
    · subst hk
      rw [gridState_of_panel (by rw [panel?_lowered, panel?_setPanel_self])]
      show (GridPanel.hide p).1.content.logical.state = _
      rw [GridPanel.hide_fst]
    · have other : c.gridState = .unshown := by
        refine Classical.byContradiction fun shown => ?_
        have grid := h.shown.1 shown
        rw [up] at grid
        exact hk (Option.some.inj grid)
      rw [← other]
      exact gridState_congr (by rw [panel?_lowered, panel?_setPanel_of_ne c (Ne.symm hk)])
  refine ⟨?_, ?_, ?_, ?_, ?_, ?_⟩
  · intro j
    rw [panel?_lowered]
    exact h.full.setPanel k _ j
  · intro g hg
    rw [panel?_lowered] at hg
    by_cases hk : k = .grid
    · subst hk
      rw [panel?_setPanel_self] at hg
      obtain rfl := Option.some.inj hg
      exact (h.ordered there).hide
    · rw [panel?_setPanel_of_ne c (Ne.symm hk)] at hg
      exact h.ordered hg
  · simp [hidden]
  · intro grid
    simp at grid
  · intro cell published
    simp at published
  · intro _
    rfl

/-- While there is room for an overlay other than the grid, the grid is not shown. -/
theorem Agrees.hidden_of_room (h : c.Agrees) (room : c.current = none ∨ c.current = some k)
    (other : k ≠ .grid) : c.gridState = .unshown := by
  refine Classical.byContradiction fun shown => ?_
  have grid := h.shown.1 shown
  rcases room with room | room <;> rw [room] at grid
  · simp at grid
  · exact other (Option.some.inj grid)

/-- Putting an overlay up where there is room leaves a grid behind that is shown if it is the one
that was put up. -/
theorem Agrees.raise {p q : Panel k.Content k.Drawn} {options : Option Tree} {s : List Signal}
    (there : c.panel? k = some p) (room : c.current = none ∨ c.current = some k)
    (accepted : k.present p options = .ok (q, s)) (h : c.Agrees) : (c.raised k q).Agrees := by
  have full : (c.raised k q).Full := by
    intro j
    rw [panel?_raised]
    exact h.full.setPanel k _ j
  by_cases hk : k = .grid
  · subst hk
    obtain ⟨size, -, rfl⟩ := GridPanel.transition_of_present accepted
    have there' := (panel?_raised c .grid .grid _).trans
      (panel?_setPanel_self c .grid (GridPanel.transition p (Grid.whole p.screen size)).1)
    refine ⟨full, ?_, ?_, fun _ => .inl rfl, nofun, nofun⟩
    · intro g hg
      obtain rfl := Option.some.inj (there'.symm.trans hg)
      exact (h.ordered there).transition _
    · rw [gridState_of_panel there', GridPanel.transition_fst]
      simp [Grid.whole]
  · have grid : (c.raised k q).panel? .grid = c.panel? .grid := by
      rw [panel?_raised, panel?_setPanel_of_ne c (Ne.symm hk)]
    refine ⟨full, ?_, ?_, ?_, nofun, nofun⟩
    · intro g hg
      exact h.ordered (grid ▸ hg)
    · simp [gridState_congr grid, h.hidden_of_room room hk, hk]
    · intro up
      exact absurd (Option.some.inj up) hk

/-- Refining the grid makes the cell it was refined into the published one. -/
theorem Agrees.narrow {g q : GridPanel} {cell : Number} {s : List Signal}
    (there : c.panel? .grid = some g) (up : c.current = some .grid)
    (accepted : g.refine? cell = some (q, s)) (h : c.Agrees) : (c.narrowed q).Agrees := by
  obtain ⟨state, refined, rfl⟩ := GridPanel.transition_of_refine? accepted
  have there' := (panel?_narrowed c .grid _).trans
    (panel?_setPanel_self c .grid (g.transition state).1)
  have now : (c.narrowed (g.transition state).1).gridState = state := by
    rw [gridState_of_panel there', GridPanel.transition_fst]
  have shown : state ≠ .unshown := by
    obtain ⟨-, -, rfl⟩ := Option.map_eq_some_iff.1 refined
    simp
  refine ⟨?_, ?_, ?_, fun _ => .inl rfl, ?_, ?_⟩
  · intro j
    rw [panel?_narrowed]
    exact h.full.setPanel .grid _ j
  · intro g' hg
    obtain rfl := Option.some.inj (there'.symm.trans hg)
    exact (h.ordered there).transition _
  · simp [now, shown, up]
  · intro cell published
    refine ⟨by simpa using up, ?_⟩
    rw [now, ← Option.some.inj published, GridPanel.transition_fst]
  · intro empty
    rfl

/-! ## Drawing -/

/-- A step of the grid's queue leaves the logical state alone, and a table that it publishes is
that state's. -/
theorem Agrees.step_grid (sources : Sources) (h : c.Agrees) : (c.step sources .grid).1.Agrees := by
  obtain ⟨g, hg⟩ := h.full .grid
  obtain ⟨-, content⟩ := GridPanel.advance_keeps sources g
  have published := (h.ordered hg).publications sources
  have ordered := (h.ordered hg).advance sources
  rw [← gridState_of_panel hg] at published
  rw [step_eq hg]
  dsimp only [OverlayKind.drawing]
  generalize Panel.advance GridPanel.drawing sources g = step at content published ordered ⊢
  obtain ⟨g', ps, signals⟩ := step
  dsimp only at content published ordered ⊢
  have there : (ps.foldl (·.accept .grid ·) (c.setPanel .grid g')).panel? .grid = some g' := by
    rw [panel?_accept, panel?_setPanel_self]
  have now : (ps.foldl (·.accept .grid ·) (c.setPanel .grid g')).gridState = c.gridState := by
    rw [gridState_of_panel there, gridState_of_panel hg, content]
  have current : (ps.foldl (·.accept .grid ·) (c.setPanel .grid g')).current = c.current := by
    rw [current_accept, current_setPanel]
  refine ⟨?_, ?_, by rw [now, current]; exact h.shown, ?_, ?_, ?_⟩
  · intro j
    rw [panel?_accept]
    exact h.full.setPanel .grid _ j
  · intro q hq
    obtain rfl := Option.some.inj (there.symm.trans hq)
    exact ordered
  · intro up
    rw [current] at up
    rw [now]
    rcases published with rfl | rfl
    · simpa using h.table up
    · exact .inr (by simp [accept, up])
  · intro cell said
    rw [current, now]
    by_cases up : c.current = some .grid
    · rcases published with rfl | rfl
      · exact h.refined cell (by simpa using said)
      · refine ⟨up, ?_⟩
        simp only [List.foldl_cons, List.foldl_nil, accept, current_setPanel, up,
          if_true] at said
        exact (Option.some.inj said).symm
    · rw [accept_of_ne (by simpa using up)] at said
      exact h.refined cell (by simpa using said)
  · intro none
    rw [current] at none
    rw [accept_of_ne (by simp [none])]
    simpa using h.empty none

/-- A step of another queue has no part in the grid, and what it publishes is lost unless its
overlay is current. -/
theorem Agrees.step_other (sources : Sources) (other : k ≠ .grid) (h : c.Agrees) :
    (c.step sources k).1.Agrees := by
  obtain ⟨p, hp⟩ := h.full k
  have outcome := Panel.advance_outcome (OverlayKind.perform_outcome other sources p)
  rw [step_eq hp]
  dsimp only
  generalize p.advance k.drawing sources = step at outcome ⊢
  obtain ⟨q, ps, signals⟩ := step
  have published : ps = [] ∨ ∃ table, ps = [.positions table] := by
    cases outcome with
    | took | next | wiped | failed => exact .inl rfl
    | drawn busy draws all => exact .inr ⟨_, all⟩
  have grid : (ps.foldl (·.accept k ·) (c.setPanel k q)).panel? .grid = c.panel? .grid := by
    rw [panel?_accept, panel?_setPanel_of_ne c (Ne.symm other)]
  have now := gridState_congr grid
  have current : (ps.foldl (·.accept k ·) (c.setPanel k q)).current = c.current := by
    rw [current_accept, current_setPanel]
  have refined : (ps.foldl (·.accept k ·) (c.setPanel k q)).refinedCell = c.refinedCell := by
    rcases published with rfl | ⟨table, rfl⟩
    · simp
    · simp only [List.foldl_cons, List.foldl_nil, accept]
      split <;> simp
  have table (down : c.current ≠ some k) :
      (ps.foldl (·.accept k ·) (c.setPanel k q)).table = c.table := by
    rw [accept_of_ne (by simpa using down), table_setPanel]
  refine ⟨?_, ?_, ?_, ?_, ?_, ?_⟩
  · intro j
    rw [panel?_accept]
    exact h.full.setPanel k _ j
  · intro g hg
    exact h.ordered (grid ▸ hg)
  · rw [now, current]
    exact h.shown
  · intro up
    rw [current] at up
    rw [now, table (by rw [up]; simpa using Ne.symm other)]
    exact h.table up
  · intro cell said
    rw [refined] at said
    rw [now, current]
    exact h.refined cell said
  · intro none
    rw [current] at none
    rw [table (by simp [none])]
    exact h.empty none

theorem Agrees.step (sources : Sources) (k : OverlayKind) (h : c.Agrees) :
    (c.step sources k).1.Agrees := by
  by_cases grid : k = .grid
  · subst grid
    exact h.step_grid sources
  · exact h.step_other sources grid

/-! ## Runs -/

theorem Agrees.after (h : c.Agrees) (m : Move) : (c.after m).Agrees :=
  after_keeps (fun h => h.full) Agrees.lower (fun there room _ => Agrees.raise there room)
    Agrees.narrow (fun sources k h => h.step sources k) h m

/-- The coordinator and its grid agree whatever was asked for and however far drawing has come. -/
theorem agrees_run (o : Outfit) (ms : List Move) : (o.coordinator.run ms).Agrees :=
  run_keeps (fun m h => h.after m) (agrees_coordinator o) ms

/-- The pixel of a number by the logical state of the grid. -/
def gridTarget? (c : Coordinator) (n : Number) : Option (Point Number) :=
  (c.gridState.cellCenter? n).map Point.round

theorem Agrees.ownPosition?_grid (h : c.Agrees) (n : Number) :
    c.ownPosition? .grid n = c.gridTarget? n := by
  obtain ⟨g, hg⟩ := h.full .grid
  rw [ownPosition?_eq, hg, gridTarget?, gridState_of_panel hg]
  rfl

theorem Agrees.published?_eq (h : c.Agrees) (up : c.current = some .grid) (some_ : c.table ≠ [])
    (n : Number) : c.published? n = c.gridTarget? n := by
  rcases h.table up with empty | full
  · exact absurd empty some_
  · rw [Coordinator.published?_eq, full, GridPanel.targetAt_targets, gridTarget?]

/-- Where the grid is current, a number is answered by the grid's logical state, from the published
table as from the overlay. -/
theorem Agrees.position?_eq (h : c.Agrees) (up : c.current = some .grid) (n : Number) :
    c.position? n = c.gridTarget? n := by
  rw [position?, up, Option.bind_some, h.ownPosition?_grid]
  by_cases empty : c.table = []
  · rw [Coordinator.published?_eq, empty, targetAt_nil, Option.none_or]
  · rw [h.published?_eq up empty, Option.or_self]

theorem Agrees.position?_of_none (h : c.Agrees) (down : c.current = none) (n : Number) :
    c.position? n = none := by
  rw [position?, down, Coordinator.published?_eq, h.empty down, targetAt_nil]
  rfl

theorem Agrees.metadata?_of_none (h : c.Agrees) (down : c.current = none) (key : String) :
    c.metadata? key = none := by
  unfold metadata?
  split
  · cases said : c.refinedCell with
    | none => rfl
    | some cell =>
        have up := (h.refined cell said).1
        rw [down] at up
        simp at up
  · rfl

/-- In every state that can be reached, the grid is shown exactly while it is current, its numbers
stand for the pixels of its logical state by either way of looking them up, a published refined
cell is the one of its logical state, and nothing is known of any target while no overlay is
current. -/
theorem run_agrees_with_grid (o : Outfit) (ms : List Move) :
    let c := o.coordinator.run ms
    (c.gridState ≠ .unshown ↔ c.current = some .grid) ∧
    (c.current = some .grid → ∀ n,
      c.position? n = c.gridTarget? n ∧ c.ownPosition? .grid n = c.gridTarget? n ∧
        (c.table ≠ [] → c.published? n = c.gridTarget? n)) ∧
    (∀ cell, c.metadata? "refinedCell" = some cell →
      c.gridState ≠ .unshown ∧ cell = c.gridState.parent?) ∧
    (c.current = none →
      c.table = [] ∧ (∀ key, c.metadata? key = none) ∧ ∀ n, c.position? n = none) := by
  intro c
  have h : c.Agrees := agrees_run o ms
  refine ⟨h.shown, ?_, ?_, ?_⟩
  · intro up n
    exact ⟨h.position?_eq up n, h.ownPosition?_grid n, fun some_ => h.published?_eq up some_ n⟩
  · intro cell said
    have known := h.refined cell (by simpa [metadata?] using said)
    exact ⟨h.shown.2 known.1, known.2⟩
  · intro down
    exact ⟨h.empty down, h.metadata?_of_none down, h.position?_of_none down⟩

end Coordinator

end VoiceControl
