import VoiceControl.Proofs.Overlay.Addressing
import VoiceControl.Proofs.Overlay.Draining

/-!
# What an overlay was made with

Requests and drawing change what an overlay shows. The screen that it covers, how much it shows
when nothing else is asked for and which of its draws fail stay as they were when it was made, and
nothing stops its queue.

* `Coordinator.Kept`: what is left of all overlays, whatever moves are made.
* `Coordinator.furnished_of_went`: a coordinator that made any moves still has the overlays that it
  was made with.
-/

namespace VoiceControl

/-- A surface after further attempts to draw: which of them fail was settled beforehand. -/
structure Surface.Later (s t : Surface) : Prop where
  plan : t.failsDraw = s.failsDraw
  attempts : s.drawAttempts ≤ t.drawAttempts

namespace Surface

variable {s t r : Surface}

theorem Later.refl (s : Surface) : s.Later s := ⟨rfl, Nat.le_refl _⟩

theorem Later.trans (h : s.Later t) (h' : t.Later r) : s.Later r :=
  ⟨h'.plan.trans h.plan, Nat.le_trans h.attempts h'.attempts⟩

/-- Drawing is an attempt, whether it works or not. -/
theorem later_draw (s : Surface) (f : Frame) :
    s.Later (s.draw f).2 ∧ (s.draw f).2.drawAttempts = s.drawAttempts + 1 := by
  unfold draw
  split <;> exact ⟨⟨rfl, Nat.le_succ _⟩, rfl⟩

theorem later_clear (s : Surface) : s.Later s.clear.2 := by
  unfold clear
  split <;> exact ⟨rfl, Nat.le_refl _⟩

end Surface

theorem Panel.surface_drawFrame {C R : Type} (p : Panel C R) (f : Frame) (next : Stage R) :
    (p.drawFrame f next).2.panel = { p with surface := (p.surface.draw f).2 } := by
  unfold drawFrame
  split <;> simp_all

namespace OverlayKind

/-- What an overlay shows at most when nothing else is asked for: a size of the grid or a number of
targets. The help always shows all there is. -/
def most : (k : OverlayKind) → k.Content → Option Number
  | .grid, c => some c.standard
  | .elements, c => some c.most
  | .windows, c => some c.most
  | .help, _ => none

/-- What an overlay was made with is left of it in a later state. -/
structure Keeps (k : OverlayKind) (p q : Panel k.Content k.Drawn) : Prop where
  screen : q.screen = p.screen
  most : k.most q.content = k.most p.content
  surface : p.surface.Later q.surface

variable {k : OverlayKind} {p q r : Panel k.Content k.Drawn}

theorem Keeps.refl (p : Panel k.Content k.Drawn) : k.Keeps p p := ⟨rfl, rfl, .refl _⟩

theorem Keeps.trans (h : k.Keeps p q) (h' : k.Keeps q r) : k.Keeps p r :=
  ⟨h'.screen.trans h.screen, h'.most.trans h.most, h.surface.trans h'.surface⟩

/-- Tasks are no part of what an overlay was made with. -/
theorem Keeps.queue (h : k.Keeps p q) (queue : RenderQueue (Stage k.Drawn)) :
    k.Keeps p { q with queue } :=
  ⟨h.screen, h.most, h.surface⟩

theorem keeps_request (p : Panel k.Content k.Drawn) (s : Stage k.Drawn) :
    k.Keeps p (p.request s).1 := by
  rw [Panel.request_fst]
  exact (Keeps.refl p).queue _

theorem keeps_transition (p : GridPanel) (s : Grid.State Number) :
    Keeps .grid p (p.transition s).1 := by
  rw [GridPanel.transition_fst]
  exact ⟨rfl, rfl, .refl _⟩

theorem keeps_conceal (k : OverlayKind) (p : Panel k.Content k.Drawn) :
    k.Keeps p (k.conceal p).1 := by
  cases k with
  | grid =>
      simp only [conceal, GridPanel.hide_fst]
      exact ⟨rfl, rfl, .refl _⟩
  | elements | windows | help => exact keeps_request p _

theorem keeps_present {options : Option Tree} {signals : List Signal}
    (accepted : k.present p options = .ok (q, signals)) : k.Keeps p q := by
  cases k with
  | grid =>
      obtain ⟨size, -, rfl⟩ := GridPanel.transition_of_present accepted
      exact keeps_transition p _
  | elements | windows | help =>
      obtain rfl := congrArg Prod.fst (Except.ok.inj accepted)
      exact keeps_request p _

/-- Drawing a frame is an attempt on the surface; the content it is drawn from may be new. -/
theorem keeps_drawFrame (p : Panel k.Content k.Drawn) {content : k.Content}
    (same : k.most content = k.most p.content) (f : Frame) (next : Stage k.Drawn) :
    k.Keeps p (Panel.drawFrame { p with content } f next).2.panel := by
  rw [Panel.surface_drawFrame]
  exact ⟨rfl, same, (p.surface.later_draw f).1⟩

theorem keeps_perform (k : OverlayKind) (sources : Sources) (p : Panel k.Content k.Drawn)
    (stage : Stage k.Drawn) : k.Keeps p (p.perform k.drawing sources stage).2.panel := by
  cases stage with
  | wipe =>
      have cleared : p.surface.Later p.surface.clear.2 := p.surface.later_clear
      unfold Panel.perform
      dsimp only
      split <;> rename_i h <;> rw [h] at cleared <;> exact ⟨rfl, rfl, cleared⟩
  | wiped => cases k <;> exact ⟨rfl, rfl, .refl _⟩
  | render r =>
      cases k with
      | grid =>
          rcases r with t | t
          · exact keeps_drawFrame p (by rfl) _ _
          · exact ⟨rfl, rfl, .refl _⟩
      | elements =>
          rcases r with most | ⟨items, fallback⟩ | _
          · exact Keeps.refl p
          · exact keeps_drawFrame p (by rfl) _ _
          · exact ⟨rfl, rfl, .refl _⟩
      | windows =>
          rcases r with most | items | _
          · simp only [Panel.perform, drawing, WindowPanel.drawing]
            split
            · exact Keeps.refl p
            · split <;> exact Keeps.refl p
          · exact keeps_drawFrame p (by rfl) _ _
          · exact ⟨rfl, rfl, .refl _⟩
      | help =>
          rcases r with _ | _
          · simp only [Panel.perform, drawing, HelpPanel.drawing]
            split
            · exact keeps_drawFrame p (by rfl) _ _
            · exact Keeps.refl p
          · exact ⟨rfl, rfl, .refl _⟩

theorem keeps_advance (k : OverlayKind) (sources : Sources) (p : Panel k.Content k.Drawn) :
    k.Keeps p (p.advance k.drawing sources).panel := by
  rcases p.advance_cases k.drawing sources with ⟨-, h⟩ | ⟨stage, s, g, -, hg, h⟩ |
    ⟨stage, g, -, hg, h⟩ | ⟨stage, g, -, hg, h⟩ <;> rw [h]
  · exact (Keeps.refl p).queue _
  all_goals
    have kept := k.keeps_perform sources p stage
    rw [hg] at kept
    exact kept.queue _

end OverlayKind

namespace Coordinator

variable {c d e : Coordinator} {k : OverlayKind}

/-- What the overlays were made with is left of all of them. -/
def Kept (c d : Coordinator) : Prop :=
  ∀ k p, c.panel? k = some p → ∃ q, d.panel? k = some q ∧ k.Keeps p q

theorem Kept.refl (c : Coordinator) : c.Kept c := fun _ p hp => ⟨p, hp, .refl p⟩

theorem Kept.trans (h : c.Kept d) (h' : d.Kept e) : c.Kept e := by
  intro j p hp
  obtain ⟨q, hq, kept⟩ := h j p hp
  obtain ⟨r, hr, kept'⟩ := h' j q hq
  exact ⟨r, hr, kept.trans kept'⟩

/-- Where one overlay has a new state and the others stay, all keep what that one keeps. -/
theorem kept_of_setPanel {p q : Panel k.Content k.Drawn} (there : c.panel? k = some p)
    (keeps : k.Keeps p q) (next : ∀ j, d.panel? j = (c.setPanel k q).panel? j) : c.Kept d := by
  intro j r hr
  rw [next]
  by_cases same : j = k
  · subst same
    obtain rfl := Option.some.inj (there.symm.trans hr)
    exact ⟨q, panel?_setPanel_self c j q, keeps⟩
  · exact ⟨r, (panel?_setPanel_of_ne c same q).trans hr, .refl r⟩

theorem kept_step (full : c.Full) (sources : Sources) (k : OverlayKind) :
    c.Kept (c.step sources k).1 := by
  obtain ⟨p, hp⟩ := full k
  refine kept_of_setPanel hp (k.keeps_advance sources p) fun j => ?_
  rw [step_eq hp, panel?_accept]

/-- No move takes an overlay away, nor from an overlay what it was made with. -/
theorem kept_after (full : c.Full) (m : Move) : (c.after m).Full ∧ c.Kept (c.after m) := by
  -- the overlays stay there, so each of the elementary changes finds the one that it is about
  refine after_keeps (P := fun d => d.Full ∧ c.Kept d) (fun h => h.1) ?_ ?_ ?_ ?_ ⟨full, .refl c⟩ m
  · intro d k p there up h
    have kept := kept_of_setPanel there (k.keeps_conceal p) fun j => panel?_lowered ..
    refine ⟨fun j => ?_, h.2.trans kept⟩
    rw [panel?_lowered]
    exact h.1.setPanel k _ j
  · intro d k p options q s there room area accepted h
    have kept := kept_of_setPanel there (OverlayKind.keeps_present accepted) fun j =>
      panel?_raised ..
    refine ⟨fun j => ?_, h.2.trans kept⟩
    rw [panel?_raised]
    exact h.1.setPanel k _ j
  · intro d g q cell s there up accepted h
    obtain ⟨state, -, rfl⟩ := GridPanel.transition_of_refine? accepted
    have kept := kept_of_setPanel there (OverlayKind.keeps_transition g state) fun j =>
      panel?_narrowed ..
    refine ⟨fun j => ?_, h.2.trans kept⟩
    rw [panel?_narrowed]
    exact h.1.setPanel .grid _ j
  · intro d sources k h
    refine ⟨fun j => ?_, h.2.trans (kept_step h.1 sources k)⟩
    obtain ⟨p, hp⟩ := h.1 k
    rw [step_eq hp, panel?_accept]
    exact h.1.setPanel k _ j

theorem WentBy.kept {sort : Move → Prop} (went : c.WentBy sort d) (full : c.Full) :
    d.Full ∧ c.Kept d := by
  refine went.keeps (P := fun d => d.Full ∧ c.Kept d) ?_ ?_ ⟨full, .refl c⟩
  · intro d m _ h
    obtain ⟨full', kept⟩ := kept_after h.1 m
    exact ⟨full', h.2.trans kept⟩
  · intro d waking h
    refine ⟨fun k => ?_, fun k p hp => ?_⟩
    · rw [panel?_waking]
      exact h.1 k
    · rw [panel?_waking]
      exact h.2 k p hp

/-- A coordinator has all overlays that it was made with, none of them out of service. -/
structure Furnished (o : Outfit) (c : Coordinator) : Prop where
  agrees : c.Agrees
  open_ : c.Open
  kept : o.coordinator.Kept c

/-- Whatever moves a coordinator makes, it stays furnished. -/
theorem furnished_of_went {o : Outfit} (went : o.coordinator.Went c) : c.Furnished o := by
  have both : c.Agrees ∧ c.Open := by
    refine went.keeps (P := fun c => c.Agrees ∧ c.Open) ?_ ?_ ⟨agrees_coordinator o, ?_⟩
    · intro c m _ h
      exact ⟨h.1.after m, h.2.after h.1 m⟩
    · intro c waking h
      refine ⟨h.1.waking waking, fun k p hp => ?_⟩
      rw [panel?_waking] at hp
      exact h.2 k p hp
    · intro k p hp
      obtain ⟨q, hq, queue⟩ := o.exists_panel?_coordinator k
      obtain rfl := Option.some.inj (hp.symm.trans hq)
      rw [queue]
  exact ⟨both.1, both.2, (went.kept (agrees_coordinator o).full).2⟩

/-- The overlay of a kind covers the screen and shows as much as it was made for. -/
theorem Furnished.exists_panel {o : Outfit} (h : c.Furnished o) {p : Panel k.Content k.Drawn}
    (made : o.coordinator.panel? k = some p) :
    ∃ q, c.panel? k = some q ∧ q.queue.stopped = false ∧ q.screen = p.screen ∧
      k.most q.content = k.most p.content := by
  obtain ⟨q, hq, keeps⟩ := h.kept k p made
  exact ⟨q, hq, h.open_ k q hq, keeps.screen, keeps.most⟩

end Coordinator

end VoiceControl
