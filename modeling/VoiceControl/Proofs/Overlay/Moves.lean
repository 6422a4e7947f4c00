import VoiceControl.Proofs.Overlay.Stages

/-!
# Runs of the coordinator

A run starts from a coordinator to which one overlay of each kind was added, and makes moves:
requests, and single steps of the render queues, in any order. Which draws and clears fail is part
of the surfaces that the overlays were made with, and a step may be given any sources, so a list of
moves is any interleaving whatever goes wrong while drawing.

The lemmas say what each operation leaves alone and what it does to the overlays, once for all
four kinds.
-/

namespace VoiceControl

/-! ## The overlays by kind -/

namespace Coordinator

/-- The overlay of a kind. -/
def panel? (c : Coordinator) : (k : OverlayKind) → Option (Panel k.Content k.Drawn)
  | .grid => c.grid
  | .elements => c.elements
  | .windows => c.windows
  | .help => c.help

/-- Puts another state in the place of the overlay of a kind. -/
def setPanel (c : Coordinator) : (k : OverlayKind) → Panel k.Content k.Drawn → Coordinator
  | .grid, p => { c with grid := some p }
  | .elements, p => { c with elements := some p }
  | .windows, p => { c with windows := some p }
  | .help, p => { c with help := some p }

@[simp] theorem panel?_setPanel_self (c : Coordinator) (k : OverlayKind)
    (p : Panel k.Content k.Drawn) : (c.setPanel k p).panel? k = some p := by
  cases k <;> rfl

theorem panel?_setPanel_of_ne (c : Coordinator) {k j : OverlayKind} (h : j ≠ k)
    (p : Panel k.Content k.Drawn) : (c.setPanel k p).panel? j = c.panel? j := by
  cases k <;> cases j <;> first | rfl | exact absurd rfl h

@[simp] theorem current_setPanel (c : Coordinator) (k : OverlayKind)
    (p : Panel k.Content k.Drawn) : (c.setPanel k p).current = c.current := by
  cases k <;> rfl

@[simp] theorem table_setPanel (c : Coordinator) (k : OverlayKind)
    (p : Panel k.Content k.Drawn) : (c.setPanel k p).table = c.table := by
  cases k <;> rfl

@[simp] theorem refinedCell_setPanel (c : Coordinator) (k : OverlayKind)
    (p : Panel k.Content k.Drawn) : (c.setPanel k p).refinedCell = c.refinedCell := by
  cases k <;> rfl

/-- Which overlays have work is bookkeeping for the order of drawing and nothing else. -/
theorem noteAwake_eq (c : Coordinator) (k : OverlayKind) :
    ∃ waking, c.noteAwake k = { c with waking } := by
  unfold noteAwake
  split
  · split
    · exact ⟨_, rfl⟩
    · exact ⟨c.waking, rfl⟩
  · exact ⟨c.waking, rfl⟩

@[simp] theorem panel?_noteAwake (c : Coordinator) (k j : OverlayKind) :
    (c.noteAwake k).panel? j = c.panel? j := by
  obtain ⟨waking, h⟩ := c.noteAwake_eq k
  rw [h]
  cases j <;> rfl

@[simp] theorem current_noteAwake (c : Coordinator) (k : OverlayKind) :
    (c.noteAwake k).current = c.current := by
  obtain ⟨waking, h⟩ := c.noteAwake_eq k
  rw [h]

@[simp] theorem table_noteAwake (c : Coordinator) (k : OverlayKind) :
    (c.noteAwake k).table = c.table := by
  obtain ⟨waking, h⟩ := c.noteAwake_eq k
  rw [h]

@[simp] theorem refinedCell_noteAwake (c : Coordinator) (k : OverlayKind) :
    (c.noteAwake k).refinedCell = c.refinedCell := by
  obtain ⟨waking, h⟩ := c.noteAwake_eq k
  rw [h]

theorem has_eq_isSome (c : Coordinator) (k : OverlayKind) : c.has k = (c.panel? k).isSome := by
  cases k <;> simp [has, overlay?, panel?]

theorem published?_eq (c : Coordinator) (n : Number) : c.published? n = targetAt c.table n := rfl

theorem ownPosition?_eq (c : Coordinator) (k : OverlayKind) (n : Number) :
    c.ownPosition? k n = (c.panel? k).bind fun p => k.position? p n := by
  cases k <;> simp [ownPosition?, panel?, OverlayKind.position?]

theorem conceal_eq {c : Coordinator} {k : OverlayKind} {p : Panel k.Content k.Drawn}
    (h : c.panel? k = some p) :
    c.conceal k = ((c.setPanel k (k.conceal p).1).noteAwake k, (k.conceal p).2) := by
  cases k <;> simp only [panel?] at h <;> simp [conceal, h, setPanel, OverlayKind.conceal]

theorem present?_eq {c : Coordinator} {k : OverlayKind} {p : Panel k.Content k.Drawn}
    (h : c.panel? k = some p) (options : Option Tree) :
    c.present? k options =
      some ((k.present p options).map fun (p, s) => ((c.setPanel k p).noteAwake k, s)) := by
  cases k <;> simp only [panel?] at h <;>
    simp [present?, h, setPanel, OverlayKind.present, Except.map]

theorem step_eq {c : Coordinator} {k : OverlayKind} {p : Panel k.Content k.Drawn}
    (h : c.panel? k = some p) (sources : Sources) :
    c.step sources k =
      ((p.advance k.drawing sources).publications.foldl (·.accept k ·)
          (c.setPanel k (p.advance k.drawing sources).panel),
        (p.advance k.drawing sources).signals) := by
  cases k <;> simp only [panel?] at h <;> simp [step, h, setPanel, OverlayKind.drawing]

/-! ## Publishing -/

/-- What an overlay publishes while it is not current is dropped. -/
theorem accept_of_ne {c : Coordinator} {k : OverlayKind} (h : c.current ≠ some k)
    (ps : List Publication) :
    ps.foldl (·.accept k ·) c = c := by
  induction ps with
  | nil => rfl
  | cons p ps ih => simpa [accept, h] using ih

@[simp] theorem panel?_accept (c : Coordinator) (k : OverlayKind) (ps : List Publication)
    (j : OverlayKind) : (ps.foldl (·.accept k ·) c).panel? j = c.panel? j := by
  induction ps generalizing c with
  | nil => rfl
  | cons p ps ih =>
      rw [List.foldl_cons, ih]
      unfold accept
      split
      · cases p <;> cases j <;> rfl
      · rfl

@[simp] theorem current_accept (c : Coordinator) (k : OverlayKind) (ps : List Publication) :
    (ps.foldl (·.accept k ·) c).current = c.current := by
  induction ps generalizing c with
  | nil => rfl
  | cons p ps ih =>
      rw [List.foldl_cons, ih]
      unfold accept
      split
      · cases p <;> rfl
      · rfl

end Coordinator

/-! ## What requests do -/

namespace Coordinator

/-- The coordinator once the overlay of a kind, in a new state, is down. -/
def lowered (c : Coordinator) (k : OverlayKind) (p : Panel k.Content k.Drawn) : Coordinator :=
  { (c.setPanel k p).noteAwake k with current := none }.reset

/-- The coordinator once the overlay of a kind, in a new state, is up. -/
def raised (c : Coordinator) (k : OverlayKind) (p : Panel k.Content k.Drawn) : Coordinator :=
  { (c.setPanel k p).noteAwake k with current := some k }.reset

/-- The coordinator once its grid, in a new state, was refined. -/
def narrowed (c : Coordinator) (p : GridPanel) : Coordinator :=
  { (c.setPanel .grid p).noteAwake .grid with
    refinedCell := some p.content.logical.state.parent?, table := [] }

section Fields

variable (c : Coordinator) (k j : OverlayKind) (p : Panel k.Content k.Drawn) (g : GridPanel)

@[simp] theorem panel?_lowered : (c.lowered k p).panel? j = (c.setPanel k p).panel? j := by
  rw [← panel?_noteAwake (c.setPanel k p) k j]
  cases j <;> rfl

@[simp] theorem current_lowered : (c.lowered k p).current = none := rfl

@[simp] theorem table_lowered : (c.lowered k p).table = [] := rfl

@[simp] theorem refinedCell_lowered : (c.lowered k p).refinedCell = none := rfl

@[simp] theorem panel?_raised : (c.raised k p).panel? j = (c.setPanel k p).panel? j := by
  rw [← panel?_noteAwake (c.setPanel k p) k j]
  cases j <;> rfl

@[simp] theorem current_raised : (c.raised k p).current = some k := rfl

@[simp] theorem table_raised : (c.raised k p).table = [] := rfl

@[simp] theorem refinedCell_raised : (c.raised k p).refinedCell = none := rfl

@[simp] theorem panel?_narrowed : (c.narrowed g).panel? j = (c.setPanel .grid g).panel? j := by
  rw [← panel?_noteAwake (c.setPanel .grid g) .grid j]
  cases j <;> rfl

@[simp] theorem current_narrowed : (c.narrowed g).current = c.current := by
  simp only [narrowed, current_noteAwake, current_setPanel]

@[simp] theorem table_narrowed : (c.narrowed g).table = [] := rfl

@[simp] theorem refinedCell_narrowed :
    (c.narrowed g).refinedCell = some g.content.logical.state.parent? := rfl

end Fields

variable {c : Coordinator} {k : OverlayKind} {p : Panel k.Content k.Drawn}

theorem hide_of_ne (h : c.current ≠ some k) : c.hide k = ⟨false, c, []⟩ := by
  simp [hide, h]

theorem hide_of_eq (h : c.panel? k = some p) (up : c.current = some k) :
    c.hide k =
      ⟨true, c.lowered k (k.conceal p).1, (k.conceal p).2 ++ [.event (.overlayHidden k)]⟩ := by
  have there : c.has k = true := by simp [has_eq_isSome, h]
  simp [hide, there, up, conceal_eq h, lowered]

theorem makeRoom_of_free (h : c.current = none ∨ c.current = some k) :
    c.makeRoom k = ⟨false, c, []⟩ := by
  rcases h with h | h <;> simp [makeRoom, hideCurrent, h]

theorem makeRoom_of_other {j : OverlayKind} (h : c.current = some j) (other : j ≠ k) :
    c.makeRoom k = c.hide j := by
  simp [makeRoom, hideCurrent, h, other]

/-- Making room for an overlay leaves that overlay alone. -/
theorem panel?_makeRoom (c : Coordinator) (k : OverlayKind) :
    (c.makeRoom k).coordinator.panel? k = c.panel? k := by
  rcases hc : c.current with _ | j
  · rw [makeRoom_of_free (.inl hc)]
  · by_cases hj : j = k
    · rw [makeRoom_of_free (.inr (hj ▸ hc))]
    · rw [makeRoom_of_other hc hj]
      cases hp : c.panel? j with
      | none => simp [hide, has_eq_isSome, hp]
      | some q =>
          rw [hide_of_eq hp hc, panel?_lowered, panel?_setPanel_of_ne c (Ne.symm hj)]

theorem overlay?_eq_none (h : c.panel? k = none) : c.overlay? k = none := by
  cases k <;> simp_all [overlay?, panel?]

theorem overlay?_eq_some (h : c.panel? k = some p) :
    ∃ g, c.overlay? k = some g ∧ g.screen = p.screen := by
  cases k <;> simp only [panel?] at h <;> exact ⟨_, by simp only [overlay?, h]; rfl, rfl⟩

theorem reveal_of_unknown (h : c.panel? k = none) (options : Option Tree) :
    c.reveal k options = ⟨false, c, [.notice .overlayUnknown]⟩ := by
  simp [reveal, overlay?_eq_none h]

theorem reveal_of_no_area (h : c.panel? k = some p) (flat : p.screen.hasArea = false)
    (options : Option Tree) : c.reveal k options = ⟨false, c, [.notice .overlayDeclined]⟩ := by
  obtain ⟨g, hg, hs⟩ := overlay?_eq_some h
  simp [reveal, hg, hs, flat]

theorem reveal_of_refused (h : c.panel? k = some p) (area : p.screen.hasArea = true)
    {options : Option Tree} {f : Failure} (refused : k.present p options = .error f) :
    c.reveal k options =
      ⟨false, (c.makeRoom k).coordinator,
        (c.makeRoom k).signals ++ [.notice .overlayShowFailed]⟩ := by
  obtain ⟨g, hg, hs⟩ := overlay?_eq_some h
  have room : (c.makeRoom k).coordinator.panel? k = some p := by rw [panel?_makeRoom, h]
  simp [reveal, hg, hs, area, present?_eq room, refused, Except.map]

theorem reveal_of_accepted (h : c.panel? k = some p) (area : p.screen.hasArea = true)
    {options : Option Tree} {q : Panel k.Content k.Drawn} {s : List Signal}
    (accepted : k.present p options = .ok (q, s)) :
    c.reveal k options =
      ⟨true, (c.makeRoom k).coordinator.raised k q,
        (c.makeRoom k).signals ++ s ++ [.event (.overlayShown k (reported options))]⟩ := by
  obtain ⟨g, hg, hs⟩ := overlay?_eq_some h
  have room : (c.makeRoom k).coordinator.panel? k = some p := by rw [panel?_makeRoom, h]
  simp [reveal, hg, hs, area, present?_eq room, accepted, Except.map, raised]

theorem refine_of_accepted {g q : GridPanel} {cell : Number} {s : List Signal}
    (h : c.panel? .grid = some g) (up : c.current = some .grid)
    (accepted : g.refine? cell = some (q, s)) :
    c.refine cell = ⟨true, c.narrowed q, s⟩ := by
  have hg : c.grid = some g := h
  simp [refine, refineGrid, up, hg, accepted, narrowed, setPanel]

theorem refine_of_refused {g : GridPanel} {cell : Number} (h : c.panel? .grid = some g)
    (up : c.current = some .grid) (refused : g.refine? cell = none) :
    c.refine cell = ⟨false, c, [.notice .refineOutside]⟩ := by
  have hg : c.grid = some g := h
  simp [refine, refineGrid, up, hg, refused]

theorem refine_of_not_grid {cell : Number} (h : c.current ≠ some .grid) :
    c.refine cell = ⟨false, c, []⟩ := by
  simp [refine, h]

end Coordinator

/-! ## Moves -/

/-- What the four overlays of a coordinator are made with: the screens that they cover, the
surfaces that they draw on, and what they show when nothing else is asked for. -/
structure Outfit where
  screen : OverlayKind → Screen Number
  surface : OverlayKind → Surface := fun _ => {}
  gridSize : Number := 9
  mostElements : Number := 50
  mostWindows : Number := 20

namespace Outfit

/-- A new overlay of a kind. -/
def overlay (o : Outfit) : OverlayKind → Coordinator.NewOverlay
  | .grid => .grid {
      screen := o.screen .grid, content := { standard := o.gridSize }
      surface := o.surface .grid }
  | .elements => .elements {
      screen := o.screen .elements, content := { most := o.mostElements }
      surface := o.surface .elements }
  | .windows => .windows {
      screen := o.screen .windows, content := { most := o.mostWindows }
      surface := o.surface .windows }
  | .help => .help { screen := o.screen .help, content := (), surface := o.surface .help }

/-- A coordinator to which one overlay of each kind was added. -/
def coordinator (o : Outfit) : Coordinator :=
  OverlayKind.all.foldl (fun c k => (c.register (o.overlay k)).1) {}

/-- Every overlay is there, with nothing to draw. -/
theorem exists_panel?_coordinator (o : Outfit) (k : OverlayKind) :
    ∃ p, o.coordinator.panel? k = some p ∧ p.queue = {} := by
  cases k <;> exact ⟨_, rfl, rfl⟩

end Outfit

/-- A request to a coordinator, or a step of one of its queues. -/
inductive Move where
  | reveal (k : OverlayKind) (options : Option Tree)
  | hide (k : OverlayKind)
  | hideCurrent
  | toggle (k : OverlayKind) (options : Option Tree)
  | refine (cell : Number)
  | activate (sources : Sources) (n : Number)
  | handleInput (text : String)
  | advance (sources : Sources) (k : OverlayKind)

namespace Coordinator

variable {c : Coordinator}

/-- The coordinator after a move. Activating an entry asks a window source and changes nothing
here. -/
def after (c : Coordinator) : Move → Coordinator
  | .reveal k options => (c.reveal k options).coordinator
  | .hide k => (c.hide k).coordinator
  | .hideCurrent => c.hideCurrent.coordinator
  | .toggle k options => (c.toggle k options).coordinator
  | .refine cell => (c.refine cell).coordinator
  | .activate _ _ => c
  | .handleInput text => (c.handleInput text).coordinator
  | .advance sources k => (c.step sources k).1

/-- The coordinator after moves. -/
def run (c : Coordinator) (ms : List Move) : Coordinator := ms.foldl after c

/-! ## Moves by their effect -/

/-- Every overlay is there. -/
def Full (c : Coordinator) : Prop := ∀ k, ∃ p, c.panel? k = some p

theorem Full.setPanel (full : c.Full) (k : OverlayKind) (p : Panel k.Content k.Drawn) :
    (c.setPanel k p).Full := by
  intro j
  by_cases h : j = k
  · subst h
    exact ⟨p, panel?_setPanel_self c j p⟩
  · rw [panel?_setPanel_of_ne c h]
    exact full j

/-- What holds of the new state of one overlay and of the others as they were holds of all. -/
theorem forall_setPanel {P : (j : OverlayKind) → Panel j.Content j.Drawn → Prop} {k : OverlayKind}
    {q : Panel k.Content k.Drawn} (self : P k q)
    (others : ∀ j r, j ≠ k → c.panel? j = some r → P j r) (j : OverlayKind)
    (r : Panel j.Content j.Drawn) (there : (c.setPanel k q).panel? j = some r) : P j r := by
  by_cases same : j = k
  · subst same
    rw [panel?_setPanel_self] at there
    exact Option.some.inj there ▸ self
  · rw [panel?_setPanel_of_ne c same] at there
    exact others j r same there

/-- Whether a move is a show or a refinement and is accepted. -/
def accepts (c : Coordinator) : Move → Bool
  | .reveal k options => (c.reveal k options).value
  | .toggle k options => if c.current = some k then false else (c.toggle k options).value
  | .refine cell => (c.refine cell).value
  | _ => false

/-- All that a request can do to a coordinator; the truth value says whether a show or a
refinement was accepted. -/
inductive Effect (c : Coordinator) : Bool → Coordinator → Prop
  | none : Effect c false c
  | lower {k p} (there : c.panel? k = some p) (up : c.current = some k) :
      Effect c false (c.lowered k (k.conceal p).1)
  | raise {k p options q s} (there : c.panel? k = some p)
      (room : c.current = none ∨ c.current = some k) (area : p.screen.hasArea = true)
      (accepted : k.present p options = .ok (q, s)) : Effect c true (c.raised k q)
  | exchange {j k r p options q s} (there : c.panel? j = some r) (up : c.current = some j)
      (other : j ≠ k) (next : c.panel? k = some p) (area : p.screen.hasArea = true)
      (accepted : k.present p options = .ok (q, s)) :
      Effect c true ((c.lowered j (j.conceal r).1).raised k q)
  | narrow {g q : GridPanel} {cell s} (there : c.panel? .grid = some g)
      (up : c.current = some .grid) (accepted : g.refine? cell = some (q, s)) :
      Effect c true (c.narrowed q)

theorem effect_hide (full : c.Full) (k : OverlayKind) :
    Effect c false (c.hide k).coordinator := by
  by_cases up : c.current = some k
  · obtain ⟨p, hp⟩ := full k
    rw [hide_of_eq hp up]
    exact .lower hp up
  · rw [hide_of_ne up]
    exact .none

theorem effect_reveal (full : c.Full) (k : OverlayKind) (options : Option Tree) :
    Effect c (c.reveal k options).value (c.reveal k options).coordinator := by
  obtain ⟨p, hp⟩ := full k
  cases area : p.screen.hasArea with
  | false =>
      rw [reveal_of_no_area hp area]
      exact .none
  | true =>
      rcases hc : c.current with _ | j
      · have room : c.makeRoom k = ⟨false, c, []⟩ := makeRoom_of_free (.inl hc)
        cases hq : k.present p options with
        | error f =>
            rw [reveal_of_refused hp area hq, room]
            exact .none
        | ok qs =>
            rw [reveal_of_accepted hp area hq, room]
            exact .raise hp (.inl hc) area hq
      · by_cases hj : j = k
        · subst hj
          have room : c.makeRoom j = ⟨false, c, []⟩ := makeRoom_of_free (.inr hc)
          cases hq : j.present p options with
          | error f =>
              rw [reveal_of_refused hp area hq, room]
              exact .none
          | ok qs =>
              rw [reveal_of_accepted hp area hq, room]
              exact .raise hp (.inr hc) area hq
        · obtain ⟨r, hr⟩ := full j
          have room := (makeRoom_of_other hc hj).trans (hide_of_eq hr hc)
          cases hq : k.present p options with
          | error f =>
              rw [reveal_of_refused hp area hq, room]
              exact .lower hr hc
          | ok qs =>
              rw [reveal_of_accepted hp area hq, room]
              exact .exchange hr hc hj hp area hq

theorem effect_refine (full : c.Full) (cell : Number) :
    Effect c (c.refine cell).value (c.refine cell).coordinator := by
  by_cases up : c.current = some .grid
  · obtain ⟨g, hg⟩ := full .grid
    cases hr : GridPanel.refine? g cell with
    | none =>
        rw [refine_of_refused hg up hr]
        exact .none
    | some qs =>
        rw [refine_of_accepted hg up hr]
        exact .narrow hg up hr
  · rw [refine_of_not_grid up]
    exact .none

/-- A move is a request with one of the known effects, or a step of a queue. -/
theorem effect_or_step (full : c.Full) (m : Move) :
    Effect c (c.accepts m) (c.after m) ∨
      ∃ sources k, m = .advance sources k ∧ c.after m = (c.step sources k).1 := by
  cases m with
  | reveal k options => exact .inl (effect_reveal full k options)
  | hide k => exact .inl (effect_hide full k)
  | hideCurrent =>
      refine .inl ?_
      simp only [accepts, after, hideCurrent]
      split
      · exact effect_hide full _
      · exact .none
  | toggle k options =>
      refine .inl ?_
      by_cases up : c.current = some k
      · simpa [accepts, after, toggle, up] using effect_hide full k
      · simpa [accepts, after, toggle, up] using effect_reveal full k options
  | refine cell => exact .inl (effect_refine full cell)
  | activate sources n => exact .inl .none
  | handleInput text =>
      refine .inl ?_
      simp only [accepts, after, handleInput]
      split
      · exact effect_hide full .help
      · exact .none
  | advance sources k => exact .inr ⟨sources, k, rfl, rfl⟩

/-! ## Induction over runs -/

/-- What every elementary change keeps, every request keeps: taking the current overlay down,
putting one up where there is room, and refining the grid that is up. -/
theorem Effect.keeps {P : Coordinator → Prop}
    (lower : ∀ {c k p}, c.panel? k = some p → c.current = some k → P c →
      P (c.lowered k (k.conceal p).1))
    (raise : ∀ {c k p options q s}, c.panel? k = some p →
      c.current = Option.none ∨ c.current = some k → p.screen.hasArea = true →
      k.present p options = .ok (q, s) → P c → P (c.raised k q))
    (narrow : ∀ {c} {g q : GridPanel} {cell s}, c.panel? .grid = some g →
      c.current = some .grid → g.refine? cell = some (q, s) → P c → P (c.narrowed q))
    {c d : Coordinator} {accepted : Bool} (effect : Effect c accepted d) (h : P c) : P d := by
  cases effect with
  | none => exact h
  | lower there up => exact lower there up h
  | raise there room area accepted => exact raise there room area accepted h
  | @exchange j k r p _ _ _ there up other next area accepted =>
      have next' : (c.lowered j (j.conceal r).1).panel? k = some p := by
        rw [panel?_lowered, panel?_setPanel_of_ne c (Ne.symm other), next]
      exact raise next' (.inl rfl) area accepted (lower there up h)
  | narrow there up accepted => exact narrow there up accepted h

/-- What every elementary change keeps, every move keeps; a step of a queue is one too. -/
theorem after_keeps {P : Coordinator → Prop} (full : ∀ {c}, P c → c.Full)
    (lower : ∀ {c k p}, c.panel? k = some p → c.current = some k → P c →
      P (c.lowered k (k.conceal p).1))
    (raise : ∀ {c k p options q s}, c.panel? k = some p → c.current = none ∨ c.current = some k →
      p.screen.hasArea = true → k.present p options = .ok (q, s) → P c → P (c.raised k q))
    (narrow : ∀ {c} {g q : GridPanel} {cell s}, c.panel? .grid = some g →
      c.current = some .grid → g.refine? cell = some (q, s) → P c → P (c.narrowed q))
    (step : ∀ {c} sources k, P c → P (c.step sources k).1)
    {c : Coordinator} (h : P c) (m : Move) : P (c.after m) := by
  rcases effect_or_step (full h) m with effect | ⟨sources, k, rfl, -⟩
  · exact effect.keeps lower raise narrow h
  · exact step sources k h

/-! ## What can come of a coordinator -/

/-- What a coordinator can come to by moves of some sort; which overlays are remembered as awake may
be written anew. -/
inductive WentBy (sort : Move → Prop) (c : Coordinator) : Coordinator → Prop
  | still : c.WentBy sort c
  | after {d m} (may : sort m) (before : c.WentBy sort d) : c.WentBy sort (d.after m)
  | remembered {d} (waking : List OverlayKind) (before : c.WentBy sort d) :
      c.WentBy sort { d with waking }

/-- What a coordinator can come to by any moves. -/
abbrev Went (c d : Coordinator) : Prop := c.WentBy (fun _ => True) d

/-- What a coordinator can come to by drawing from some sources. -/
abbrev Drew (sources : Sources) (c d : Coordinator) : Prop :=
  c.WentBy (fun m => ∃ k, m = .advance sources k) d

section WentBy

variable {sort : Move → Prop} {d e : Coordinator}

theorem WentBy.trans (h : c.WentBy sort d) (h' : d.WentBy sort e) : c.WentBy sort e := by
  induction h' with
  | still => exact h
  | after may _ ih => exact .after may ih
  | remembered waking _ ih => exact .remembered waking ih

theorem WentBy.went (h : c.WentBy sort d) : c.Went d := by
  induction h with
  | still => exact .still
  | after _ _ ih => exact .after trivial ih
  | remembered waking _ ih => exact .remembered waking ih

/-- What the moves keep, and what overlays being awake has no part in, holds of all that a
coordinator comes to. -/
theorem WentBy.keeps {P : Coordinator → Prop} (move : ∀ {c m}, sort m → P c → P (c.after m))
    (waking : ∀ {c} waking, P c → P { c with waking }) (went : c.WentBy sort d) (h : P c) :
    P d := by
  induction went with
  | still => exact h
  | after may _ ih => exact move may ih
  | remembered w _ ih => exact waking w ih

end WentBy

theorem drew_step (sources : Sources) (k : OverlayKind) (c : Coordinator) :
    Drew sources c (c.step sources k).1 :=
  .after (m := .advance sources k) ⟨k, rfl⟩ .still

theorem drew_steps (sources : Sources) (k : OverlayKind) (n : Nat) (c : Coordinator) :
    Drew sources c (c.steps sources k n).1 := by
  induction n generalizing c with
  | zero => exact .still
  | succ n ih => exact (drew_step sources k c).trans (ih (c.step sources k).1)

theorem drew_settleAll (sources : Sources) (ks : List OverlayKind) (c : Coordinator) :
    Drew sources c (c.settleAll sources ks).1 := by
  induction ks generalizing c with
  | nil => exact .still
  | cons k ks ih =>
      have settled : Drew sources c (c.settle sources k).1 :=
        .remembered _ (drew_steps sources k (c.stepsLeft k) c)
      exact settled.trans (ih (c.settle sources k).1)

/-- Drawing all that waits is a matter of single steps. -/
theorem drew_flush (sources : Sources) (c : Coordinator) : Drew sources c (c.flush sources).1 :=
  drew_settleAll sources c.waking c

/-- What every move keeps holds after every run. -/
theorem run_keeps {P : Coordinator → Prop} (step : ∀ {c} m, P c → P (c.after m)) {c : Coordinator}
    (h : P c) (ms : List Move) : P (c.run ms) := by
  induction ms generalizing c with
  | nil => exact h
  | cons m ms ih => exact ih (step m h)

end Coordinator

end VoiceControl
