import VoiceControl.Overlay.Coordinator

/-!
# Stages of drawing

One step of an overlay's queue takes a task, carries out a stage of the task at hand or ends it.
This module says what a step can do, for all kinds of overlay at once: which tasks are left, what
is published, and that what an overlay publishes is what it answers when it is asked for a number.
-/

namespace VoiceControl

/-! ## Queues -/

/-- The tasks of a queue that have not ended, the one at hand first. -/
def RenderQueue.work {T : Type} (q : RenderQueue T) : List T := q.busy.toList ++ q.pending

namespace RenderQueue

variable {T : Type}

theorem work_enqueue {q : RenderQueue T} (open_ : q.stopped = false) (t : T) :
    (q.enqueue t).2.work = q.work ++ [t] := by
  simp [enqueue, open_, work]

theorem stopped_enqueue (q : RenderQueue T) (t : T) : (q.enqueue t).2.stopped = q.stopped := by
  unfold enqueue
  split <;> rfl

/-- Taking a task moves it from the pending ones to the one at hand. -/
@[simp] theorem work_take (q : RenderQueue T) : q.take.work = q.work := by
  unfold take
  split
  · rename_i hb hp
    simp [work, hb, hp]
  · rfl
  · rfl

@[simp] theorem stopped_take (q : RenderQueue T) : q.take.stopped = q.stopped := by
  unfold take
  split <;> rfl

theorem work_of_busy {q : RenderQueue T} {t : T} (h : q.busy = some t) :
    q.work = t :: q.pending := by
  simp [work, h]

@[simp] theorem work_release (q : RenderQueue T) : q.release.work = q.pending := by
  simp [work, release]

@[simp] theorem work_continueWith (q : RenderQueue T) (t : T) :
    (q.continueWith t).work = t :: q.pending := by
  simp [work, continueWith]

end RenderQueue

/-! ## Panels -/

/-- Whether a stage belongs to a task that draws, and not to one that takes the overlay down. -/
def Stage.draws {R : Type} : Stage R → Bool
  | .render _ => true
  | _ => false

/-- A notice that drawing failed. -/
def Signal.tellsFailure : Signal → Bool
  | .notice n => n = .renderFailed
  | _ => false

/-- The outcomes of a stage by what is published: a task publishes nothing before it ends, a task
that fails publishes nothing at all, and neither does one that takes the overlay down. A task that
draws ends with `published`. A stage gives no notice that drawing failed, since its queue does. -/
inductive StageOutcome {C R : Type} (stage : Stage R) (published : Panel C R → List Publication) :
    StageEnd R × Progress C R → Prop
  | next {s g} (same : s.draws = stage.draws) (silent : g.publications = [])
      (quiet : g.signals.any Signal.tellsFailure = false) :
      StageOutcome stage published (.next s, g)
  | drawn {g} (draws : stage.draws = true) (all : g.publications = published g.panel)
      (quiet : g.signals.any Signal.tellsFailure = false) :
      StageOutcome stage published (.done, g)
  | wiped {g} (wipes : stage.draws = false) (silent : g.publications = [])
      (quiet : g.signals.any Signal.tellsFailure = false) :
      StageOutcome stage published (.done, g)
  | failed {g} (silent : g.publications = []) : StageOutcome stage published (.failed, g)

/-- The outcomes of a step of the consumer: it takes a task or falls asleep, goes on with the task
at hand, or ends it. A task that draws publishes what `published` says when it ends, no other step
publishes anything, and a notice tells of every task that fails. -/
inductive StepOutcome {C R : Type} (p : Panel C R)
    (published : Stage R → Panel C R → List Publication) : Progress C R → Prop
  | took (free : p.queue.busy = none) :
      StepOutcome p published ⟨{ p with queue := p.queue.take }, [], []⟩
  | next {stage s : Stage R} {g : Panel C R} {signals} (busy : p.queue.busy = some stage)
      (same : s.draws = stage.draws) (quiet : signals.any Signal.tellsFailure = false) :
      StepOutcome p published ⟨{ g with queue := p.queue.continueWith s }, [], signals⟩
  | drawn {stage : Stage R} {g : Panel C R} {ps signals} (busy : p.queue.busy = some stage)
      (draws : stage.draws = true) (all : ps = published stage g)
      (quiet : signals.any Signal.tellsFailure = false) :
      StepOutcome p published ⟨{ g with queue := p.queue.release }, ps, signals⟩
  | wiped {stage : Stage R} {g : Panel C R} {signals} (busy : p.queue.busy = some stage)
      (wipes : stage.draws = false) (quiet : signals.any Signal.tellsFailure = false) :
      StepOutcome p published ⟨{ g with queue := p.queue.release }, [], signals⟩
  | failed {stage : Stage R} {g : Panel C R} {signals} (busy : p.queue.busy = some stage)
      (told : signals.any Signal.tellsFailure = true) :
      StepOutcome p published ⟨{ g with queue := p.queue.release }, [], signals⟩

namespace Panel

variable {C R : Type}

theorem request_fst (p : Panel C R) (s : Stage R) :
    (p.request s).1 = { p with queue := (p.queue.enqueue s).2 } := by
  unfold request
  split <;> simp_all

/-- What one step of the consumer can do: take a task or fall asleep, go on with the task at hand,
or end it. -/
theorem advance_cases (d : Drawing C R) (sources : Sources) (p : Panel C R) :
    (p.queue.busy = none ∧ p.advance d sources = ⟨{ p with queue := p.queue.take }, [], []⟩) ∨
    (∃ stage s g, p.queue.busy = some stage ∧ p.perform d sources stage = (.next s, g) ∧
      p.advance d sources =
        ⟨{ g.panel with queue := p.queue.continueWith s }, g.publications, g.signals⟩) ∨
    (∃ stage g, p.queue.busy = some stage ∧ p.perform d sources stage = (.done, g) ∧
      p.advance d sources =
        ⟨{ g.panel with queue := p.queue.release }, g.publications, g.signals⟩) ∨
    (∃ stage g, p.queue.busy = some stage ∧ p.perform d sources stage = (.failed, g) ∧
      p.advance d sources =
        ⟨{ g.panel with queue := p.queue.release }, g.publications,
          g.signals ++ [.notice .renderFailed]⟩) := by
  unfold advance
  cases hb : p.queue.busy with
  | none => exact .inl ⟨rfl, rfl⟩
  | some stage =>
      refine .inr ?_
      dsimp only
      rcases hp : p.perform d sources stage with ⟨outcome, g⟩
      cases outcome with
      | next s => exact .inl ⟨stage, s, g, rfl, hp, rfl⟩
      | done => exact .inr (.inl ⟨stage, g, rfl, hp, rfl⟩)
      | failed => exact .inr (.inr ⟨stage, g, rfl, hp, rfl⟩)

/-- What is known of the stages of an overlay is known of its steps. -/
theorem advance_outcome {d : Drawing C R} {sources : Sources} {p : Panel C R}
    {published : Stage R → Panel C R → List Publication}
    (stages : ∀ stage, StageOutcome stage (published stage) (p.perform d sources stage)) :
    StepOutcome p published (p.advance d sources) := by
  rcases p.advance_cases d sources with ⟨free, h⟩ | ⟨stage, s, g, busy, hg, h⟩ |
    ⟨stage, g, busy, hg, h⟩ | ⟨stage, g, busy, hg, h⟩
  · rw [h]
    exact .took free
  all_goals
    have outcome := stages stage
    rw [hg] at outcome
    rw [h]
  · cases outcome with
    | next same silent quiet =>
        rw [silent]
        exact .next busy same quiet
  · cases outcome with
    | drawn draws all quiet => exact .drawn busy draws all quiet
    | wiped wipes silent quiet =>
        rw [silent]
        exact .wiped busy wipes quiet
  · cases outcome with
    | failed silent =>
        rw [silent]
        exact .failed busy (by simp [Signal.tellsFailure])

theorem drawFrame_outcome {published : Panel C R → List Publication} (p : Panel C R) (f : Frame)
    (r s : R) : StageOutcome (.render r) published (p.drawFrame f (.render s)) := by
  unfold drawFrame
  split
  · exact .next rfl rfl rfl
  · exact .failed rfl

/-- Taking an overlay down is the same for all kinds. -/
theorem perform_outcome {d : Drawing C R} {sources : Sources} {p : Panel C R} {stage : Stage R}
    {published : Panel C R → List Publication}
    (render : ∀ r, stage = .render r → StageOutcome stage published (d.render sources p r)) :
    StageOutcome stage published (p.perform d sources stage) := by
  cases stage with
  | render r => exact render r rfl
  | wipe =>
      unfold perform
      dsimp only
      split
      · exact .next rfl rfl rfl
      · exact .failed rfl
  | wiped => exact .wiped rfl rfl rfl

end Panel

/-! ## The overlays by kind -/

namespace OverlayKind

/-- The content of the overlays of a kind. -/
abbrev Content : OverlayKind → Type
  | .grid => GridContent
  | .elements => ElementContent
  | .windows => WindowContent
  | .help => Unit

/-- The stages of drawing the overlays of a kind. -/
abbrev Drawn : OverlayKind → Type
  | .grid => GridStage
  | .elements => ElementStage
  | .windows => WindowStage
  | .help => HelpStage

/-- How the overlays of a kind are drawn. -/
def drawing : (k : OverlayKind) → Drawing k.Content k.Drawn
  | .grid => GridPanel.drawing
  | .elements => ElementPanel.drawing
  | .windows => WindowPanel.drawing
  | .help => HelpPanel.drawing

/-- Requests that an overlay be shown; options may be refused. -/
def present : (k : OverlayKind) → Panel k.Content k.Drawn → Option Tree →
    Except Failure (Panel k.Content k.Drawn × List Signal)
  | .grid, p, options => GridPanel.present p options
  | .elements, p, options => .ok (ElementPanel.present p options)
  | .windows, p, options => .ok (WindowPanel.present p options)
  | .help, p, _ => .ok (HelpPanel.present p)

/-- Requests that an overlay be hidden. -/
def conceal : (k : OverlayKind) → Panel k.Content k.Drawn → Panel k.Content k.Drawn × List Signal
  | .grid, p => GridPanel.hide p
  | .elements, p => ElementPanel.hide p
  | .windows, p => WindowPanel.hide p
  | .help, p => HelpPanel.hide p

/-- The position of a number on an overlay, from the overlay itself. -/
def position? : (k : OverlayKind) → Panel k.Content k.Drawn → Number → Option (Point Number)
  | .grid, p, n => GridPanel.position? p n
  | .elements, p, n => ElementPanel.position? p n
  | .windows, p, n => WindowPanel.position? p n
  | .help, _, _ => none

/-- The positions of the targets that an overlay has at present. -/
def targets : (k : OverlayKind) → Panel k.Content k.Drawn → List (Point Number)
  | .grid, p => GridPanel.targets p.content.logical.state
  | .elements, p => p.content.items.map fun e => e.center.round
  | .windows, p => p.content.items.map (·.entry)
  | .help, _ => []

end OverlayKind

/-! ## Targets -/

/-- The position that a table of targets numbered from 1 has for a number. -/
def targetAt (table : List (Point Number)) (n : Number) : Option (Point Number) :=
  match n.toNat? with
  | some (i + 1) => table[i]?
  | _ => none

@[simp] theorem targetAt_nil (n : Number) : targetAt [] n = none := by
  unfold targetAt
  split <;> simp

theorem targetAt_map {α : Type} (f : α → Point Number) (items : List α) (n : Number) :
    targetAt (items.map f) n =
      (match n.toNat? with
        | some (i + 1) => items[i]?
        | _ => none).map f := by
  unfold targetAt
  split <;> simp_all

/-- The pixel of a number among the cells of a grid is the pixel of the cell with that number. -/
theorem GridPanel.targetAt_targets (s : Grid.State Number) (n : Number) :
    targetAt (targets s) n = (s.cellCenter? n).map Point.round := by
  rcases hs : s.shape? with _ | ⟨bounds, size⟩
  · simp [targets, Grid.State.cells, Grid.State.cellCenter?, Grid.State.locate?, hs]
  · rcases hn : n.toNat? with _ | _ | i
    · simp [targetAt, Grid.State.cellCenter?, Grid.State.locate?, hs, hn]
    · simp [targetAt, Grid.State.cellCenter?, Grid.State.locate?, hs, hn]
    · by_cases inside : i < size * size <;>
        simp [targetAt, targets, Grid.State.cells, Grid.State.cellCenter?, Grid.State.locate?, hs,
          hn, inside]

namespace OverlayKind

/-- An overlay looks a number up among its targets. -/
theorem targetAt_targets (k : OverlayKind) (p : Panel k.Content k.Drawn) (n : Number) :
    targetAt (k.targets p) n = k.position? p n := by
  cases k with
  | grid => exact GridPanel.targetAt_targets _ n
  | elements => exact targetAt_map _ _ n
  | windows => exact targetAt_map _ _ n
  | help => exact targetAt_nil n

/-- The tasks of an overlay have no part in its targets. -/
@[simp] theorem targets_queue (k : OverlayKind) (p : Panel k.Content k.Drawn)
    (queue : RenderQueue (Stage k.Drawn)) : k.targets { p with queue } = k.targets p := by
  cases k <;> rfl

/-- An overlay other than the grid publishes its targets when it was drawn. -/
theorem perform_outcome {k : OverlayKind} (other : k ≠ .grid) (sources : Sources)
    (p : Panel k.Content k.Drawn) (stage : Stage k.Drawn) :
    StageOutcome stage (fun q => [.positions (k.targets q)])
      (p.perform k.drawing sources stage) := by
  refine Panel.perform_outcome ?_
  rintro r rfl
  cases k with
  | grid => exact absurd rfl other
  | elements =>
      rcases r with most | ⟨items, fallback⟩ | _
      · refine .next rfl rfl ?_
        show (ElementPanel.detect sources.elements most).2.any Signal.tellsFailure = false
        unfold ElementPanel.detect
        split
        · rfl
        · split <;> rfl
      · exact Panel.drawFrame_outcome _ _ _ _
      · exact .drawn rfl rfl rfl
  | windows =>
      rcases r with most | items | _
      · simp only [drawing, WindowPanel.drawing]
        split
        · exact .next rfl rfl rfl
        · split
          · exact .next rfl rfl rfl
          · exact .failed rfl
      · exact Panel.drawFrame_outcome _ _ _ _
      · exact .drawn rfl rfl rfl
  | help =>
      rcases r with _ | _
      · simp only [drawing, HelpPanel.drawing]
        split
        · exact Panel.drawFrame_outcome _ _ _ _
        · exact .failed rfl
      · exact .drawn rfl rfl rfl

end OverlayKind

end VoiceControl
