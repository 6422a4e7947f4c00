import VoiceControl.Proofs.Overlay.Moves

/-!
# What overlays announce

Of all that overlays say, events are only published by the coordinator, and only when an overlay
comes up or goes down. Requests for drawing, drawing itself and the activation of an entry are
silent: they give notices and make inquiries, but no event.
-/

namespace VoiceControl

/-- Whether an event tells that an overlay came up or went down. -/
def Event.isLifecycle : Event → Bool
  | .overlayShown .. | .overlayHidden .. => true
  | _ => false

namespace Signal

/-- The event that a signal carries. -/
def event? : Signal → Option Event
  | .event e => some e
  | .notice _ | .inquiry _ => none

/-- The events that signals carry. -/
def events (signals : List Signal) : List Event := signals.filterMap event?

@[simp] theorem events_nil : events [] = [] := rfl

@[simp] theorem events_append (s t : List Signal) : events (s ++ t) = events s ++ events t :=
  List.filterMap_append

@[simp] theorem events_notice (n : Notice) (s : List Signal) : events (.notice n :: s) = events s :=
  rfl

@[simp] theorem events_event (e : Event) (s : List Signal) :
    events (.event e :: s) = e :: events s := rfl

end Signal

open Signal

/-! ## Panels -/

namespace Panel

variable {C R : Type}

theorem events_request (p : Panel C R) (s : Stage R) : events (p.request s).2 = [] := by
  unfold request
  split <;> rfl

theorem events_drawFrame (p : Panel C R) (f : Frame) (next : Stage R) :
    events (p.drawFrame f next).2.signals = [] := by
  unfold drawFrame
  split <;> rfl

/-- A step of an overlay whose drawing is silent is silent. -/
theorem events_advance {d : Drawing C R} {sources : Sources} {p : Panel C R}
    (render : ∀ r, events (d.render sources p r).2.signals = []) :
    events (p.advance d sources).signals = [] := by
  have perform (stage : Stage R) : events (p.perform d sources stage).2.signals = [] := by
    cases stage with
    | render r => exact render r
    | wipe =>
        unfold Panel.perform
        dsimp only
        split <;> rfl
    | wiped => rfl
  rcases p.advance_cases d sources with ⟨-, h⟩ | ⟨stage, s, g, -, hg, h⟩ | ⟨stage, g, -, hg, h⟩ |
    ⟨stage, g, -, hg, h⟩
  · rw [h]
    rfl
  all_goals
    have silent := perform stage
    rw [hg] at silent
    rw [h]
  · exact silent
  · exact silent
  · show events (g.signals ++ _) = []
    rw [events_append, silent]
    rfl

end Panel

namespace OverlayKind

theorem events_conceal (k : OverlayKind) (p : Panel k.Content k.Drawn) :
    events (k.conceal p).2 = [] := by
  cases k <;> exact Panel.events_request _ _

theorem events_present {k : OverlayKind} {p q : Panel k.Content k.Drawn} {options : Option Tree}
    {s : List Signal} (accepted : k.present p options = .ok (q, s)) : events s = [] := by
  cases k with
  | grid =>
      obtain ⟨state, -, h⟩ : ∃ state, GridPanel.requested p options = .ok state ∧
          GridPanel.transition p state = (q, s) := by
        simp only [present, GridPanel.present] at accepted
        cases hr : GridPanel.requested p options with
        | error f => rw [hr] at accepted; cases accepted
        | ok state =>
            rw [hr] at accepted
            exact ⟨state, rfl, Except.ok.inj accepted⟩
      have requested : s = (GridPanel.transition p state).2 := (congrArg Prod.snd h).symm
      rw [requested]
      exact Panel.events_request _ _
  | _ =>
      obtain ⟨-, rfl⟩ := Prod.mk.inj (Except.ok.inj accepted)
      exact Panel.events_request _ _

/-- Drawing is silent, whatever the kind. -/
theorem events_advance (k : OverlayKind) (sources : Sources) (p : Panel k.Content k.Drawn) :
    events (p.advance k.drawing sources).signals = [] := by
  refine Panel.events_advance fun r => ?_
  cases k with
  | grid =>
      cases r with
      | draw target => exact Panel.events_drawFrame _ _ _
      | publish target => rfl
  | elements =>
      cases r with
      | detect most =>
          show events (ElementPanel.detect sources.elements most).2 = []
          unfold ElementPanel.detect
          split
          · rfl
          · split <;> rfl
      | draw items fallback => exact Panel.events_drawFrame _ _ _
      | publish => rfl
  | windows =>
      cases r with
      | list most =>
          simp only [drawing, WindowPanel.drawing]
          split
          · rfl
          · split <;> rfl
      | draw items => exact Panel.events_drawFrame _ _ _
      | publish => rfl
  | help =>
      cases r with
      | draw =>
          simp only [drawing, HelpPanel.drawing]
          split
          · exact Panel.events_drawFrame _ _ _
          · rfl
      | publish => rfl

end OverlayKind

/-! ## The coordinator -/

namespace Coordinator

variable {c : Coordinator}

/-- What a move makes the overlays say. -/
def told (c : Coordinator) : Move → List Signal
  | .reveal k options => (c.reveal k options).signals
  | .hide k => (c.hide k).signals
  | .hideCurrent => c.hideCurrent.signals
  | .toggle k options => (c.toggle k options).signals
  | .refine cell => (c.refine cell).signals
  | .activate sources n => (c.activate sources n).2
  | .handleInput text => (c.handleInput text).signals
  | .advance sources k => (c.step sources k).2

theorem events_hide (c : Coordinator) (k : OverlayKind) :
    ∀ e ∈ events (c.hide k).signals, e.isLifecycle = true := by
  rcases hp : c.panel? k with _ | p
  · have absent : c.has k = false := by rw [has_eq_isSome, hp]; rfl
    simp [hide, absent]
  · by_cases up : c.current = some k
    · rw [hide_of_eq hp up]
      simp [OverlayKind.events_conceal, Event.isLifecycle]
    · rw [hide_of_ne up]
      simp

theorem events_hideCurrent (c : Coordinator) :
    ∀ e ∈ events c.hideCurrent.signals, e.isLifecycle = true := by
  unfold hideCurrent
  split
  · exact c.events_hide _
  · simp

theorem events_makeRoom (c : Coordinator) (k : OverlayKind) :
    ∀ e ∈ events (c.makeRoom k).signals, e.isLifecycle = true := by
  unfold makeRoom
  split
  · simp
  · exact c.events_hideCurrent

theorem events_reveal (c : Coordinator) (k : OverlayKind) (options : Option Tree) :
    ∀ e ∈ events (c.reveal k options).signals, e.isLifecycle = true := by
  have room := c.events_makeRoom k
  rcases hp : c.panel? k with _ | p
  · simp [reveal_of_unknown hp]
  · cases area : p.screen.hasArea with
    | false => simp [reveal_of_no_area hp area]
    | true =>
        cases hq : k.present p options with
        | error f => simpa [reveal_of_refused hp area hq] using room
        | ok qs =>
            rw [reveal_of_accepted hp area hq]
            simp only [events_append, OverlayKind.events_present hq, List.append_nil]
            intro e he
            rcases List.mem_append.1 he with he | he
            · exact room e he
            · rw [List.mem_singleton.1 he]
              rfl

theorem events_refine (c : Coordinator) (cell : Number) : events (c.refine cell).signals = [] := by
  by_cases up : c.current = some .grid
  · cases hg : c.grid with
    | none => simp [refine, refineGrid, up, hg]
    | some p =>
        cases hr : p.refine? cell with
        | none => rw [refine_of_refused hg up hr]; rfl
        | some qs =>
            rw [refine_of_accepted hg up hr]
            obtain ⟨state, -, h⟩ := Option.map_eq_some_iff.1 hr
            have requested : qs.2 = (p.transition state).2 := congrArg Prod.snd h.symm
            show events qs.2 = []
            rw [requested]
            exact Panel.events_request _ _
  · rw [refine_of_not_grid up]
    rfl

theorem events_handleInput (c : Coordinator) (text : String) :
    ∀ e ∈ events (c.handleInput text).signals, e.isLifecycle = true := by
  unfold handleInput
  split
  · exact c.events_hide .help
  · simp

theorem events_activate (c : Coordinator) (sources : Sources) (n : Number) :
    events (c.activate sources n).2 = [] := by
  unfold activate
  split
  · unfold WindowPanel.activate
    split <;> rfl
  · rfl

theorem events_step (sources : Sources) (k : OverlayKind) (c : Coordinator) :
    events (c.step sources k).2 = [] := by
  rcases hp : c.panel? k with _ | p
  · cases k <;> simp only [panel?] at hp <;> simp [step, hp]
  · rw [step_eq hp]
    exact k.events_advance sources p

/-- Whatever is asked of the overlays and whatever they draw, they publish that one of them came up
or went down and nothing else. -/
theorem events_told (c : Coordinator) (m : Move) :
    ∀ e ∈ events (c.told m), e.isLifecycle = true := by
  cases m with
  | reveal k options => exact c.events_reveal k options
  | hide k => exact c.events_hide k
  | hideCurrent => exact c.events_hideCurrent
  | toggle k options =>
      simp only [told, toggle]
      split
      · exact c.events_hide k
      · exact c.events_reveal k options
  | refine cell => simp [told, events_refine]
  | activate sources n => simp [told, events_activate]
  | handleInput text => exact c.events_handleInput text
  | advance sources k => simp [told, events_step]

/-- Drawing all that is waiting is silent. -/
theorem events_flush (sources : Sources) (c : Coordinator) : events (c.flush sources).2 = [] := by
  have steps (k : OverlayKind) (n : Nat) (c : Coordinator) :
      events (c.steps sources k n).2 = [] := by
    induction n generalizing c with
    | zero => rfl
    | succ n ih => simp [Coordinator.steps, events_step, ih]
  have settleAll (ks : List OverlayKind) (c : Coordinator) :
      events (c.settleAll sources ks).2 = [] := by
    induction ks generalizing c with
    | nil => rfl
    | cons k ks ih => simp [Coordinator.settleAll, settle, steps, ih]
  exact settleAll c.waking c

end Coordinator

end VoiceControl
