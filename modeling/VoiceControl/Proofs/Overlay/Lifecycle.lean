import VoiceControl.Proofs.Overlay.Announcements

/-!
# Following the overlays by ear

Whoever listens to the overlays hears that one came up or that one went down and nothing else, and
keeps track of what is up by these events alone. What they hear always makes sense to them: no
overlay comes up while another one is, and none goes down that is not up. After every request they
are right about which overlay is current, whichever overlays there are.

* `Event.follow?`: what a listener makes of one event, if it makes sense.
* `Coordinator.Follows`: what a request announces leads from what was current to what is.
* `Coordinator.run_follows`: the same of a whole run, with what showing and hiding answer.
-/

namespace VoiceControl

/-- What is up once an event was heard while `up` was; nothing if the event makes no sense then. -/
def Event.follow? (up : Option OverlayKind) : Event → Option (Option OverlayKind)
  | .overlayShown k _ => if up = none ∨ up = some k then some (some k) else none
  | .overlayHidden k => if up = some k then some none else none
  | _ => some up

/-- What is up once events were heard while `up` was, one after the other. -/
def Event.replay? (up : Option OverlayKind) (es : List Event) : Option (Option OverlayKind) :=
  es.foldlM follow? up

theorem Event.replay?_append (up : Option OverlayKind) (es fs : List Event) :
    replay? up (es ++ fs) = (replay? up es).bind (replay? · fs) :=
  List.foldlM_append

theorem Event.replay?_hidden (k : OverlayKind) :
    replay? (some k) [.overlayHidden k] = some none := by
  simp [replay?, follow?]

theorem Event.replay?_shown {up : Option OverlayKind} {k : OverlayKind}
    (room : up = none ∨ up = some k) (options : Entries Tree) :
    replay? up [.overlayShown k options] = some (some k) := by
  simp [replay?, follow?, room]

namespace Coordinator

open Signal

variable {c : Coordinator}

/-- The overlay that is current is there. -/
def Grounded (c : Coordinator) : Prop := ∀ k, c.current = some k → c.has k = true

/-- What was said leads a listener from what was current to what is current now. -/
def Follows (c : Coordinator) (said : List Signal) (d : Coordinator) : Prop :=
  Event.replay? c.current (events said) = some d.current

theorem grounded_of_none (down : c.current = none) : c.Grounded := by
  intro k up
  rw [down] at up
  cases up

theorem grounded_of_panel {k : OverlayKind} {p : Panel k.Content k.Drawn}
    (up : c.current = some k) (there : c.panel? k = some p) : c.Grounded := by
  intro j current
  obtain rfl := Option.some.inj (up.symm.trans current)
  rw [has_eq_isSome, there]
  rfl

/-- No operation takes the current overlay away. -/
theorem Grounded.keeps (h : c.Grounded) {d : Coordinator} (current : d.current = c.current)
    (there : ∀ k, c.has k = true → d.has k = true) : d.Grounded :=
  fun k up => there k (h k (current.symm.trans up))

/-- Nothing is announced and the current overlay stays. -/
theorem follows_of_silent {d : Coordinator} {said : List Signal} (silent : events said = [])
    (current : d.current = c.current) : c.Follows said d := by
  rw [Follows, silent, current]
  rfl

theorem has_setPanel {k j : OverlayKind} {p : Panel k.Content k.Drawn} (there : c.has j = true) :
    (c.setPanel k p).has j = true := by
  rw [has_eq_isSome] at there ⊢
  by_cases same : j = k
  · subst same
    rw [panel?_setPanel_self]
    rfl
  · rwa [panel?_setPanel_of_ne c same]

/-! ## Showing and hiding -/

/-- Hiding takes the current overlay down and announces that, or does nothing and says nothing. -/
theorem hide_cases (c : Coordinator) (k : OverlayKind) :
    (c.current = some k ∧ c.has k = true ∧ (c.hide k).value = true ∧
      (c.hide k).coordinator.current = none ∧
      events (c.hide k).signals = [.overlayHidden k]) ∨
    (¬ (c.current = some k ∧ c.has k = true) ∧ c.hide k = ⟨false, c, []⟩) := by
  by_cases up : c.current = some k
  · rcases hp : c.panel? k with _ | p
    · have absent : c.has k = false := by rw [has_eq_isSome, hp]; rfl
      refine .inr ⟨fun both => ?_, by simp [hide, absent]⟩
      rw [absent] at both
      cases both.2
    · refine .inl ⟨up, by rw [has_eq_isSome, hp]; rfl, ?_⟩
      rw [hide_of_eq hp up]
      refine ⟨rfl, rfl, ?_⟩
      rw [events_append, OverlayKind.events_conceal]
      rfl
  · exact .inr ⟨fun both => up both.1, hide_of_ne up⟩

theorem follows_hide (c : Coordinator) (k : OverlayKind) :
    c.Follows (c.hide k).signals (c.hide k).coordinator := by
  rcases c.hide_cases k with ⟨up, -, -, down, said⟩ | ⟨-, same⟩
  · rw [Follows, up, down, said]
    exact Event.replay?_hidden k
  · rw [same]
    exact follows_of_silent rfl rfl

theorem Grounded.hide (h : c.Grounded) (k : OverlayKind) : (c.hide k).coordinator.Grounded := by
  rcases c.hide_cases k with ⟨-, -, -, down, -⟩ | ⟨-, same⟩
  · exact grounded_of_none down
  · rw [same]
    exact h

/-- Hiding answers that it did just if its last announcement is that the overlay went down. -/
theorem hide_value_iff (c : Coordinator) (k : OverlayKind) :
    (c.hide k).value = true ↔
      (events (c.hide k).signals).getLast? = some (.overlayHidden k) := by
  rcases c.hide_cases k with ⟨-, -, value, -, said⟩ | ⟨-, same⟩
  · simp [value, said]
  · simp [same]

/-- Making room leaves the overlay for which it is made or none, and a listener knows which. -/
theorem Grounded.makeRoom (h : c.Grounded) (k : OverlayKind) :
    c.Follows (c.makeRoom k).signals (c.makeRoom k).coordinator ∧
    ((c.makeRoom k).coordinator.current = none ∨
      (c.makeRoom k).coordinator.current = some k) ∧
    (c.makeRoom k).coordinator.Grounded := by
  rcases up : c.current with _ | j
  · rw [makeRoom_of_free (.inl up)]
    exact ⟨follows_of_silent rfl rfl, .inl up, h⟩
  · by_cases same : j = k
    · subst same
      rw [makeRoom_of_free (.inr up)]
      exact ⟨follows_of_silent rfl rfl, .inr up, h⟩
    · rw [makeRoom_of_other up same]
      refine ⟨c.follows_hide j, ?_, h.hide j⟩
      -- an overlay that is current but not there could not be hidden, and would stay up
      rcases c.hide_cases j with ⟨-, -, -, down, -⟩ | ⟨absent, -⟩
      · exact .inl down
      · exact absurd ⟨up, h j up⟩ absent

theorem events_makeRoom_getLast? (c : Coordinator) (k j : OverlayKind) (options : Entries Tree) :
    (events (c.makeRoom k).signals).getLast? ≠ some (.overlayShown j options) := by
  unfold makeRoom hideCurrent
  split
  · simp
  · split
    · rename_i up _
      rcases c.hide_cases up with ⟨-, -, -, -, said⟩ | ⟨-, same⟩
      · simp [said]
      · simp [same]
    · simp

/-- A show is refused and at most makes room, or it puts the overlay up and announces that last. -/
theorem reveal_cases (c : Coordinator) (k : OverlayKind) (options : Option Tree) :
    ((c.reveal k options).value = true ∧ (c.reveal k options).coordinator.current = some k ∧
      (c.reveal k options).coordinator.has k = true ∧
      events (c.reveal k options).signals =
        events (c.makeRoom k).signals ++ [.overlayShown k (reported options)]) ∨
    ((c.reveal k options).value = false ∧
      (((c.reveal k options).coordinator = c ∧ events (c.reveal k options).signals = []) ∨
        ((c.reveal k options).coordinator = (c.makeRoom k).coordinator ∧
          events (c.reveal k options).signals = events (c.makeRoom k).signals))) := by
  rcases hp : c.panel? k with _ | p
  · rw [reveal_of_unknown hp]
    exact .inr ⟨rfl, .inl ⟨rfl, rfl⟩⟩
  · cases area : p.screen.hasArea with
    | false =>
        rw [reveal_of_no_area hp area]
        exact .inr ⟨rfl, .inl ⟨rfl, rfl⟩⟩
    | true =>
        cases hq : k.present p options with
        | error f =>
            rw [reveal_of_refused hp area hq]
            refine .inr ⟨rfl, .inr ⟨rfl, ?_⟩⟩
            rw [events_append]
            exact List.append_nil _
        | ok qs =>
            rw [reveal_of_accepted hp area hq]
            refine .inl ⟨rfl, rfl, ?_, ?_⟩
            · rw [has_eq_isSome, panel?_raised, panel?_setPanel_self]
              rfl
            · rw [events_append, events_append, OverlayKind.events_present hq, List.append_nil]
              rfl

theorem Grounded.reveal (h : c.Grounded) (k : OverlayKind) (options : Option Tree) :
    c.Follows (c.reveal k options).signals (c.reveal k options).coordinator ∧
      (c.reveal k options).coordinator.Grounded := by
  obtain ⟨follows, free, grounded⟩ := h.makeRoom k
  rcases c.reveal_cases k options with ⟨-, up, there, said⟩ | ⟨-, ⟨same, said⟩ | ⟨room, said⟩⟩
  · constructor
    · rw [Follows, said, Event.replay?_append, follows, up]
      exact Event.replay?_shown free _
    · intro j current
      obtain rfl := Option.some.inj (up.symm.trans current)
      exact there
  · rw [same]
    exact ⟨follows_of_silent said rfl, h⟩
  · rw [room]
    refine ⟨?_, grounded⟩
    rw [Follows, said]
    exact follows

/-- Showing answers that it did just if its last announcement is that the overlay came up. -/
theorem reveal_value_iff (c : Coordinator) (k : OverlayKind) (options : Option Tree) :
    (c.reveal k options).value = true ↔
      ∃ o, (events (c.reveal k options).signals).getLast? = some (.overlayShown k o) := by
  rcases c.reveal_cases k options with ⟨value, -, -, said⟩ | ⟨value, ⟨-, said⟩ | ⟨-, said⟩⟩
  · simp [value, said]
  · simp [value, said]
  · simp [value, said, c.events_makeRoom_getLast?]

/-! ## Runs -/

theorem Grounded.refine (h : c.Grounded) (cell : Number) :
    c.Follows (c.refine cell).signals (c.refine cell).coordinator ∧
      (c.refine cell).coordinator.Grounded := by
  have silent := c.events_refine cell
  by_cases up : c.current = some .grid
  · rcases hg : c.panel? .grid with _ | g
    · have absent : c.has .grid = false := by rw [has_eq_isSome, hg]; rfl
      exact absurd (h .grid up) (by simp [absent])
    · cases hr : GridPanel.refine? g cell with
      | none =>
          rw [refine_of_refused hg up hr]
          exact ⟨follows_of_silent rfl rfl, h⟩
      | some qs =>
          rw [refine_of_accepted hg up hr] at silent ⊢
          refine ⟨follows_of_silent silent (c.current_narrowed qs.1), ?_⟩
          refine grounded_of_panel (k := .grid) (p := qs.1) ?_ ?_
          · rw [current_narrowed, up]
          · rw [panel?_narrowed, panel?_setPanel_self]
  · rw [refine_of_not_grid up]
    exact ⟨follows_of_silent rfl rfl, h⟩

theorem Grounded.step (h : c.Grounded) (sources : Sources) (k : OverlayKind) :
    c.Follows (c.step sources k).2 (c.step sources k).1 ∧ (c.step sources k).1.Grounded := by
  have silent := c.events_step sources k
  rcases hp : c.panel? k with _ | p
  · have same : c.step sources k = (c, []) := by
      cases k <;> simp only [panel?] at hp <;> simp [Coordinator.step, hp]
    rw [same]
    exact ⟨follows_of_silent rfl rfl, h⟩
  · rw [step_eq hp] at silent ⊢
    have current : (List.foldl (·.accept k ·) (c.setPanel k (p.advance k.drawing sources).panel)
        (p.advance k.drawing sources).publications).current = c.current := by
      rw [current_accept, current_setPanel]
    refine ⟨follows_of_silent silent current, h.keeps current fun j there => ?_⟩
    rw [has_eq_isSome, panel?_accept, ← has_eq_isSome]
    exact has_setPanel there

/-- Whatever is asked of the overlays and whatever they draw, a listener can follow it. -/
theorem Grounded.after (h : c.Grounded) (m : Move) :
    c.Follows (c.told m) (c.after m) ∧ (c.after m).Grounded := by
  cases m with
  | reveal k options => exact h.reveal k options
  | hide k => exact ⟨c.follows_hide k, h.hide k⟩
  | hideCurrent =>
      simp only [told, Coordinator.after, hideCurrent]
      split
      · exact ⟨c.follows_hide _, h.hide _⟩
      · exact ⟨follows_of_silent rfl rfl, h⟩
  | toggle k options =>
      simp only [told, Coordinator.after, toggle]
      split
      · exact ⟨c.follows_hide k, h.hide k⟩
      · exact h.reveal k options
  | refine cell => exact h.refine cell
  | activate sources n => exact ⟨follows_of_silent (c.events_activate sources n) rfl, h⟩
  | handleInput text =>
      simp only [told, Coordinator.after, handleInput]
      split
      · exact ⟨c.follows_hide .help, h.hide .help⟩
      · exact ⟨follows_of_silent rfl rfl, h⟩
  | advance sources k => exact h.step sources k

/-- All events that overlays publish in a run. -/
def announced (c : Coordinator) : List Move → List Event
  | [] => []
  | m :: ms => events (c.told m) ++ (c.after m).announced ms

theorem Grounded.run (h : c.Grounded) (ms : List Move) :
    Event.replay? c.current (c.announced ms) = some (c.run ms).current := by
  induction ms generalizing c with
  | nil => rfl
  | cons m ms ih =>
      obtain ⟨follows, grounded⟩ := h.after m
      rw [announced, Event.replay?_append, follows]
      exact ih grounded

/-- A coordinator to which overlays were added, the last one of each kind being in service. -/
def ofOverlays (os : List NewOverlay) : Coordinator := os.foldl (fun c o => (c.register o).1) {}

theorem current_ofOverlays (os : List NewOverlay) : (ofOverlays os).current = none := by
  have register (c : Coordinator) (o : NewOverlay) : (c.register o).1.current = c.current := by
    cases o <;> rfl
  have all (c : Coordinator) :
      (os.foldl (fun c o => (c.register o).1) c).current = c.current := by
    induction os generalizing c with
    | nil => rfl
    | cons o os ih => exact (ih _).trans (register c o)
  exact all {}

/-- Whichever overlays there are, whoever hears what they publish in a run can follow all of it and
is right at the end about which overlay is current. Showing answers that it did just if the last it
published is that the overlay came up, and hiding just if it is that the overlay went down. -/
theorem run_follows (os : List NewOverlay) (ms : List Move) :
    let c := (ofOverlays os).run ms
    Event.replay? none ((ofOverlays os).announced ms) = some c.current ∧
    (∀ k options, (c.reveal k options).value = true ↔
      ∃ o, (events (c.reveal k options).signals).getLast? = some (.overlayShown k o)) ∧
    ∀ k, (c.hide k).value = true ↔
      (events (c.hide k).signals).getLast? = some (.overlayHidden k) := by
  intro c
  have down := current_ofOverlays os
  have follows := (grounded_of_none down).run ms
  rw [down] at follows
  exact ⟨follows, c.reveal_value_iff, c.hide_value_iff⟩

end Coordinator

end VoiceControl
