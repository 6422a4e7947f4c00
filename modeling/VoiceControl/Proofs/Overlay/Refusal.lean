import VoiceControl.Proofs.Overlay.Moves

/-!
# Refused shows

A show is refused when there is no such overlay, when the overlay covers no area, or when the grid
does not take the options. The options are looked at last, after the overlay that was current had
to make room, so that a refusal for its options takes the current overlay down if it is another
one. In all other cases a refused show changes nothing at all.
-/

namespace VoiceControl

namespace Coordinator

variable {c : Coordinator} {k : OverlayKind} {options : Option Tree}

/-- Another overlay is up, so that there is no room for one of a kind. -/
def Crowded (c : Coordinator) (k : OverlayKind) : Prop :=
  ∃ j, c.current = some j ∧ j ≠ k ∧ c.has j = true

/-- An operation left a coordinator as it was and published no event. -/
def Reply.Inert {α : Type} (r : Reply α) (c : Coordinator) : Prop :=
  r.coordinator = c ∧ ∀ e, Signal.event e ∉ r.signals

theorem wouldShow_eq (c : Coordinator) (k : OverlayKind) :
    c.wouldShow k = (c.panel? k).any (·.screen.hasArea) := by
  cases hp : c.panel? k with
  | none => rw [wouldShow, overlay?_eq_none hp, Option.any_none, Option.any_none]
  | some p =>
      obtain ⟨g, hg, screen⟩ := overlay?_eq_some hp
      rw [wouldShow, hg, Option.any_some, Option.any_some, screen]

/-- Hiding an overlay that is there and current leaves none current, and says so. -/
theorem hide_of_current {j : OverlayKind} (up : c.current = some j) (there : c.has j = true) :
    (c.hide j).coordinator.current = none ∧
      Signal.event (.overlayHidden j) ∈ (c.hide j).signals := by
  rw [has_eq_isSome] at there
  obtain ⟨p, hp⟩ := Option.isSome_iff_exists.1 there
  rw [hide_of_eq hp up]
  exact ⟨rfl, List.mem_append_right _ (List.mem_singleton_self _)⟩

theorem makeRoom_of_crowded (h : c.Crowded k) :
    ∃ j, c.current = some j ∧ c.has j = true ∧ c.makeRoom k = c.hide j := by
  obtain ⟨j, up, other, there⟩ := h
  exact ⟨j, up, there, makeRoom_of_other up other⟩

theorem makeRoom_of_not_crowded (h : ¬ c.Crowded k) : c.makeRoom k = ⟨false, c, []⟩ := by
  rcases up : c.current with _ | j
  · exact makeRoom_of_free (.inl up)
  · by_cases other : j = k
    · subst other
      exact makeRoom_of_free (.inr up)
    · rw [makeRoom_of_other up other]
      have missing : c.has j = false := by
        cases there : c.has j with
        | false => rfl
        | true => exact absurd ⟨j, up, other, there⟩ h
      simp [hide, missing]

/-- A refused show comes to making room if the overlay is there and covers an area, and otherwise
to nothing. -/
theorem reveal_of_value_eq_false (refused : (c.reveal k options).value = false) :
    (c.wouldShow k = true ∧ c.reveal k options =
      ⟨false, (c.makeRoom k).coordinator, (c.makeRoom k).signals ++ [.notice .overlayShowFailed]⟩) ∨
    (c.wouldShow k = false ∧ ∃ n, c.reveal k options = ⟨false, c, [.notice n]⟩) := by
  rw [wouldShow_eq]
  cases hp : c.panel? k with
  | none => exact .inr ⟨rfl, _, reveal_of_unknown hp options⟩
  | some p =>
      rw [Option.any_some]
      cases area : p.screen.hasArea with
      | false => exact .inr ⟨rfl, _, reveal_of_no_area hp area options⟩
      | true =>
          cases hq : k.present p options with
          | error f => exact .inl ⟨rfl, reveal_of_refused hp area hq⟩
          | ok q =>
              rw [reveal_of_accepted hp area hq] at refused
              cases refused

/-- A refused show changes nothing and publishes no event, unless another overlay is up and the one
asked for is there and covers an area. In that case it does what hiding the other one does. -/
theorem reveal_refused_inert_iff (c : Coordinator) (k : OverlayKind) (options : Option Tree)
    (refused : (c.reveal k options).value = false) :
    ((c.reveal k options).Inert c ↔ ¬ (c.wouldShow k = true ∧ c.Crowded k)) ∧
    (c.wouldShow k = true ∧ c.Crowded k → ∃ j, c.current = some j ∧
      (c.reveal k options).coordinator = (c.hide j).coordinator ∧
      (c.reveal k options).signals = (c.hide j).signals ++ [.notice .overlayShowFailed]) := by
  rcases reveal_of_value_eq_false refused with ⟨shows, h⟩ | ⟨shows, n, h⟩
  · rw [h]
    by_cases crowded : c.Crowded k
    · obtain ⟨j, up, there, room⟩ := makeRoom_of_crowded crowded
      rw [room]
      refine ⟨⟨fun inert => ?_, fun free => absurd ⟨shows, crowded⟩ free⟩,
        fun _ => ⟨j, up, rfl, rfl⟩⟩
      -- whatever else happened, no overlay is current any more
      have down := (hide_of_current up there).1
      rw [inert.1, up] at down
      cases down
    · rw [makeRoom_of_not_crowded crowded]
      refine ⟨⟨fun _ both => crowded both.2, fun _ => ⟨rfl, ?_⟩⟩, fun both => absurd both.2 crowded⟩
      intro e
      simp
  · rw [h]
    have free : ¬ (c.wouldShow k = true ∧ c.Crowded k) := by simp [shows]
    refine ⟨⟨fun _ => free, fun _ => ⟨rfl, ?_⟩⟩, fun both => absurd both free⟩
    intro e
    simp

/-- A show of the elements on a screen without an area is refused while the grid is up. -/
theorem reveal_refused_inert_flat :
    let c := Coordinator.run ({ screen := fun k => if k = .grid then ⟨1920, 1080⟩ else ⟨0, 0⟩ } :
      Outfit).coordinator [.reveal .grid none]
    (c.reveal .elements none).value = false ∧ (c.reveal .elements none).Inert c := by
  intro c
  have refused : (c.reveal .elements none).value = false := rfl
  refine ⟨refused, (reveal_refused_inert_iff c .elements none refused).1.2 ?_⟩
  intro both
  have flat : c.wouldShow .elements = false := rfl
  rw [flat] at both
  exact absurd both.1 Bool.false_ne_true

/-- Asking for a grid without cells while the elements are up is refused and takes the elements
down. -/
theorem reveal_refused_takes_current_down :
    let c := Coordinator.run ({ screen := fun _ => ⟨1920, 1080⟩ } : Outfit).coordinator
      [.reveal .elements none]
    let r := c.reveal .grid (some (.mapping [("size", .number 0)]))
    c.current = some .elements ∧ r.value = false ∧ r.coordinator.current = none ∧
      Signal.event (.overlayHidden .elements) ∈ r.signals ∧ ¬ r.Inert c := by
  refine ⟨rfl, rfl, rfl, .head _, ?_⟩
  intro inert
  exact absurd (congrArg Coordinator.current inert.1) nofun

end Coordinator

end VoiceControl
