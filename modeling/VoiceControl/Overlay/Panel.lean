import VoiceControl.Event
import VoiceControl.Overlay.RenderQueue
import VoiceControl.Overlay.Surface

/-!
# Overlay panels

A panel is one overlay: its content, a surface and the render queue through which everything is
drawn. Requests only enqueue work and change the content that requests see. The work itself is done
in stages. A stage ends where drawing has to wait, for a window, a listing or a delay, so that
requests may come between any two stages. `advance` is one step of the consumer.
-/

namespace VoiceControl

/-- What an overlay says to the outside. -/
inductive Signal where
  | notice (n : Notice)
  | event (e : Event)
  | inquiry (i : Inquiry)

/-- What an overlay's rendering tells the coordinator. -/
inductive Publication where
  /-- The positions of the targets numbered from 1. -/
  | positions (table : List (Point Number))
  /-- The cell that the drawn grid is narrowed to. -/
  | refinedCell (cell : Option Nat)

/-- A stage of work on a panel; `R` are the stages of drawing. -/
inductive Stage (R : Type) where
  | render (r : R)
  | wipe
  | wiped

/-- How a stage ends. -/
inductive StageEnd (R : Type) where
  | next (s : Stage R)
  | done
  | failed

/-- One overlay with content `C` and stages of drawing `R`. -/
structure Panel (C R : Type) where
  screen : Screen Number
  content : C
  surface : Surface := {}
  /-- The overlay is drawn on its surface. -/
  visible : Bool := false
  queue : RenderQueue (Stage R) := {}

/-- The outcome of work on a panel. -/
structure Progress (C R : Type) where
  panel : Panel C R
  publications : List Publication := []
  signals : List Signal := []

/-- What is particular to the overlays of one kind: how a stage of drawing goes on, and what
remains of the content when the overlay is taken down. -/
structure Drawing (C R : Type) where
  render : Sources → Panel C R → R → StageEnd R × Progress C R
  reset : C → C

namespace Panel

variable {C R : Type}

/-- Requests work; a stopped queue drops it with a notice. -/
def request (p : Panel C R) (s : Stage R) : Panel C R × List Signal :=
  match p.queue.enqueue s with
  | (true, q) => ({ p with queue := q }, [])
  | (false, q) => ({ p with queue := q }, [.notice .renderDropped])

/-- Draws a frame; a failed draw ends the stage. -/
def drawFrame (p : Panel C R) (f : Frame) (next : Stage R) : StageEnd R × Progress C R :=
  match p.surface.draw f with
  | (true, s) => (.next next, ⟨{ p with surface := s }, [], []⟩)
  | (false, s) => (.failed, ⟨{ p with surface := s }, [], []⟩)

/-- Carries out one stage. -/
def perform (d : Drawing C R) (sources : Sources) (p : Panel C R) :
    Stage R → StageEnd R × Progress C R
  | .render r => d.render sources p r
  | .wipe =>
      match p.surface.clear with
      | (true, s) => (.next .wiped, ⟨{ p with surface := s }, [], []⟩)
      | (false, s) => (.failed, ⟨{ p with surface := s }, [], []⟩)
  | .wiped => (.done, ⟨{ p with visible := false, content := d.reset p.content }, [], []⟩)

/-- One step of the consumer: it takes a task, carries out a stage of the one it has, or falls
asleep. -/
def advance (d : Drawing C R) (sources : Sources) (p : Panel C R) : Progress C R :=
  match p.queue.busy with
  | none => ⟨{ p with queue := p.queue.take }, [], []⟩
  | some stage =>
      match p.perform d sources stage with
      | (.next s, g) =>
          ⟨{ g.panel with queue := p.queue.continueWith s }, g.publications, g.signals⟩
      | (.done, g) => ⟨{ g.panel with queue := p.queue.release }, g.publications, g.signals⟩
      | (.failed, g) =>
          ⟨{ g.panel with queue := p.queue.release }, g.publications,
            g.signals ++ [.notice .renderFailed]⟩

/-- Takes the overlay out of service: pending work is dropped and none is taken any more. -/
def dispose (p : Panel C R) : Panel C R := { p with queue := p.queue.stop, visible := false }

end Panel

end VoiceControl
