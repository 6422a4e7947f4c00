import VoiceControl.Proofs.Overlay.Addressing
import VoiceControl.Proofs.Overlay.Provenance

/-!
# What is drawn comes to be what requests were told

Requests take effect at once, and the surfaces follow. A task leaves a scene behind: it takes its
overlay off the screen, or puts a frame there. The invariant of an overlay is that its last task
leaves the scene that requests believe in, and that an overlay without tasks already shows it.
Requests change the belief and add the task that goes with it. A step of a queue may not lose a
task, so this needs that no call to a surface or to a source fails; only the source of elements may
do as it likes, since the overlay of elements has something else to draw.
-/

namespace VoiceControl

/-- Whether the next attempt to draw fails. -/
def Surface.drawFails (s : Surface) : Bool := s.failsDraw s.drawAttempts

/-- Whether the next attempt to clear fails. -/
def Surface.clearFails (s : Surface) : Bool := s.failsClear s.clearAttempts

namespace Panel

variable {C R : Type}

theorem drawFrame_cases (p : Panel C R) (f : Frame) (next : Stage R) :
    (∃ s, s.shown = some f ∧ p.drawFrame f next = (.next next, ⟨{ p with surface := s }, [], []⟩)) ∨
      (p.surface.drawFails = true ∧ ∃ g, p.drawFrame f next = (.failed, g)) := by
  unfold drawFrame Surface.draw Surface.drawFails
  cases p.surface.failsDraw p.surface.drawAttempts with
  | true => exact .inr ⟨rfl, _, rfl⟩
  | false => exact .inl ⟨_, rfl, rfl⟩

theorem perform_wipe_cases (d : Drawing C R) (sources : Sources) (p : Panel C R) :
    (∃ s : Surface, s.shown = none ∧
        p.perform d sources .wipe = (.next .wiped, ⟨{ p with surface := s }, [], []⟩)) ∨
      (p.surface.clearFails = true ∧ ∃ g, p.perform d sources .wipe = (.failed, g)) := by
  unfold perform Surface.clear Surface.clearFails
  cases p.surface.failsClear p.surface.clearAttempts with
  | true => exact .inr ⟨rfl, _, rfl⟩
  | false => exact .inl ⟨_, rfl, rfl⟩

end Panel

theorem GridPanel.kind_frame (s : Grid.State Number) : (frame s).kind = .grid := by
  unfold frame
  split <;> rfl

namespace OverlayKind

/-! ## Scenes -/

/-- What a task leaves on the screen: nothing, or a frame. A frame of the grid is one of a grid
state; the grid is not shown while another overlay is. -/
abbrev Scene := Option (Grid.State Number)

/-- The grid state that an overlay has drawn; only the grid has one. -/
def drawnState : (k : OverlayKind) → Panel k.Content k.Drawn → Grid.State Number
  | .grid, p => p.content.drawn
  | _, _ => .unshown

/-- The scene that the task of a stage leaves behind. -/
def scene : (k : OverlayKind) → Stage k.Drawn → Scene
  | .grid, .render r => some r.target.state
  | _, .render _ => some .unshown
  | _, .wipe => none
  | _, .wiped => none

/-- Whether a stage ends its task; the surface has been drawn on or cleared before. -/
def isLast : (k : OverlayKind) → Stage k.Drawn → Bool
  | .grid, .render (.publish _) => true
  | .elements, .render .publish => true
  | .windows, .render .publish => true
  | .help, .render .publish => true
  | _, .wiped => true
  | _, _ => false

/-- Whether a call that a stage makes fails: drawing, clearing, listing the windows or asking for
the help. -/
def callFails : (k : OverlayKind) → Sources → Panel k.Content k.Drawn → Stage k.Drawn → Bool
  | .grid, _, p, .render (.draw _) => p.surface.drawFails
  | .elements, _, p, .render (.draw ..) => p.surface.drawFails
  | .windows, sources, _, .render (.list most) =>
      sources.windows.any fun s => (s.list most).toOption.isNone
  | .windows, _, p, .render (.draw _) => p.surface.drawFails
  | .help, sources, p, .render .draw => sources.help.toOption.isNone || p.surface.drawFails
  | _, _, p, .wipe => p.surface.clearFails
  | _, _, _, _ => false

/-- The surface of an overlay shows a scene. -/
def Shows (k : OverlayKind) (p : Panel k.Content k.Drawn) : Scene → Prop
  | none => p.surface.shown = none
  | some s => k.drawnState p = s ∧
      ∃ f, p.surface.shown = some f ∧ f.kind = k ∧ (k = .grid → f = GridPanel.frame s)

/-- An overlay has come to rest in a scene. -/
structure Rests (k : OverlayKind) (p : Panel k.Content k.Drawn) (scene : Scene) : Prop where
  shows : k.Shows p scene
  visible : p.visible = scene.isSome
  drawn : k.drawnState p = scene.getD .unshown

/-- The outcomes of a stage by what is on the surface: a stage leads to another one of the same
task, which is the last one only once the surface shows the task's scene. The last one brings the
overlay to rest, and a stage fails only if a call does. -/
inductive Scened (k : OverlayKind) (sources : Sources) (p : Panel k.Content k.Drawn)
    (stage : Stage k.Drawn) : StageEnd k.Drawn × Progress k.Content k.Drawn → Prop
  | next {s g} (same : k.scene s = k.scene stage)
      (shows : k.isLast s = true → k.Shows g.panel (k.scene s)) :
      Scened k sources p stage (.next s, g)
  | done {g} (last : k.isLast stage = true)
      (rests : k.Shows p (k.scene stage) → k.Rests g.panel (k.scene stage)) :
      Scened k sources p stage (.done, g)
  | failed {g} (fails : k.callFails sources p stage = true) : Scened k sources p stage (.failed, g)

variable {k : OverlayKind}

/-- Drawing the frame of a scene leads to the last stage of its task. -/
theorem scened_drawFrame {sources : Sources} {p q : Panel k.Content k.Drawn} {r s : k.Drawn}
    {f : Frame} (same : k.scene (.render s) = k.scene (.render r))
    (drawn : k.scene (.render s) = some (k.drawnState q)) (kind : f.kind = k)
    (frame : k = .grid → f = GridPanel.frame (k.drawnState q))
    (drawnState : ∀ surface, k.drawnState { q with surface } = k.drawnState q)
    (fails : q.surface.drawFails = true → k.callFails sources p (.render r) = true) :
    k.Scened sources p (.render r) (q.drawFrame f (.render s)) := by
  rcases q.drawFrame_cases f (.render s) with ⟨surface, shown, h⟩ | ⟨failed, g, h⟩
  · rw [h]
    refine .next same fun _ => ?_
    rw [drawn]
    exact ⟨drawnState surface, f, shown, kind, frame⟩
  · rw [h]
    exact .failed (fails failed)

/-- The last stage of a task that draws makes the overlay visible. -/
theorem scened_published {sources : Sources} {p : Panel k.Content k.Drawn} {stage : Stage k.Drawn}
    {g : Progress k.Content k.Drawn} {s : Grid.State Number} (last : k.isLast stage = true)
    (draws : k.scene stage = some s) (visible : g.panel.visible = true)
    (surface : g.panel.surface = p.surface) (drawn : k.drawnState g.panel = k.drawnState p) :
    k.Scened sources p stage (.done, g) := by
  refine .done last fun shows => ?_
  rw [draws] at shows ⊢
  obtain ⟨state, shown⟩ := shows
  exact ⟨⟨drawn.trans state, surface ▸ shown⟩, visible, drawn.trans state⟩

theorem scened_perform (k : OverlayKind) (sources : Sources) (p : Panel k.Content k.Drawn)
    (stage : Stage k.Drawn) : k.Scened sources p stage (p.perform k.drawing sources stage) := by
  cases stage with
  | wipe =>
      rcases p.perform_wipe_cases k.drawing sources with ⟨surface, blank, h⟩ | ⟨failed, g, h⟩
      · rw [h]
        refine .next (by cases k <;> rfl) fun _ => ?_
        cases k <;> exact blank
      · rw [h]
        refine .failed ?_
        cases k <;> exact failed
  | wiped =>
      refine .done (by cases k <;> rfl) fun blank => ?_
      cases k <;> exact ⟨blank, rfl, rfl⟩
  | render r =>
      cases k with
      | grid =>
          rcases r with t | t
          · exact scened_drawFrame rfl rfl (GridPanel.kind_frame _) (fun _ => rfl) (fun _ => rfl) id
          · exact scened_published rfl rfl rfl rfl rfl
      | elements =>
          rcases r with most | ⟨items, fallback⟩ | _
          · exact .next rfl fun last => by cases last
          · exact scened_drawFrame rfl rfl rfl (fun grid => by cases grid) (fun _ => rfl) id
          · exact scened_published rfl rfl rfl rfl rfl
      | windows =>
          rcases r with most | items | _
          · -- without a source there are no windows, and a source may fail to list them
            simp only [Panel.perform, drawing, WindowPanel.drawing]
            cases source : sources.windows with
            | none => exact .next rfl fun last => by cases last
            | some w =>
                cases listed : w.list most with
                | ok ws =>
                    simp only [listed]
                    exact .next rfl fun last => by cases last
                | error f =>
                    simp only [listed]
                    exact .failed (by simp [callFails, source, listed, Except.toOption])
          · exact scened_drawFrame rfl rfl rfl (fun grid => by cases grid) (fun _ => rfl) id
          · exact scened_published rfl rfl rfl rfl rfl
      | help =>
          rcases r with _ | _
          · simp only [Panel.perform, drawing, HelpPanel.drawing]
            cases sections : sources.help with
            | ok ss =>
                refine scened_drawFrame rfl rfl rfl (fun grid => by cases grid) (fun _ => rfl)
                  fun failed => ?_
                simp [callFails, failed]
            | error f => exact .failed (by simp [callFails, sections, Except.toOption])
          · exact scened_published rfl rfl rfl rfl rfl

/-! ## The last task -/

/-- An overlay heads for a scene: its last task leaves that scene, and without tasks it has come to
rest there. -/
structure Heads (k : OverlayKind) (p : Panel k.Content k.Drawn) (scene : Scene) : Prop where
  /-- A task that is in its last stage has put its scene on the surface. -/
  ready : ∀ stage, p.queue.busy = some stage → k.isLast stage = true →
    k.Shows p (k.scene stage)
  /-- The pending tasks are in their first stage. -/
  fresh : ∀ stage ∈ p.queue.pending, k.isLast stage = false
  last : ∀ stage, p.queue.work.getLast? = some stage → k.scene stage = scene
  rest : p.queue.work = [] → k.Rests p scene

/-- A request of a scene puts a task on the queue and leaves alone what was drawn. -/
structure Requests (k : OverlayKind) (p q : Panel k.Content k.Drawn) (scene : Scene) : Prop where
  queue : ∃ stage, q.queue = (p.queue.enqueue stage).2 ∧ k.isLast stage = false ∧
    k.scene stage = scene
  surface : q.surface = p.surface
  drawn : k.drawnState q = k.drawnState p

variable {p q : Panel k.Content k.Drawn} {scene : Scene}

theorem Shows.congr (h : k.Shows p scene) (surface : q.surface = p.surface)
    (drawn : k.drawnState q = k.drawnState p) : k.Shows q scene := by
  cases scene with
  | none => exact (congrArg Surface.shown surface).trans h
  | some s =>
      obtain ⟨state, shown⟩ := h
      exact ⟨drawn.trans state, surface ▸ shown⟩

/-- An overlay heads for what was requested last. -/
theorem Heads.request {asked : Scene} (h : k.Heads p scene) (open_ : p.queue.stopped = false)
    (request : k.Requests p q asked) : k.Heads q asked := by
  obtain ⟨stage, queue, first, leaves⟩ := request.queue
  have work : q.queue.work = p.queue.work ++ [stage] := by
    rw [queue, RenderQueue.work_enqueue open_]
  have added : q.queue.busy = p.queue.busy ∧ q.queue.pending = p.queue.pending ++ [stage] := by
    simp [queue, RenderQueue.enqueue, open_]
  refine ⟨?_, ?_, ?_, ?_⟩
  · intro s busy last
    rw [added.1] at busy
    exact (h.ready s busy last).congr request.surface request.drawn
  · intro s pending
    rw [added.2] at pending
    rcases List.mem_append.1 pending with old | new
    · exact h.fresh s old
    · rw [List.mem_singleton.1 new]
      exact first
  · intro s last
    rw [work, List.getLast?_concat] at last
    rw [← Option.some.inj last]
    exact leaves
  · intro idle
    rw [work] at idle
    simp at idle

@[simp] theorem drawnState_queue (k : OverlayKind) (p : Panel k.Content k.Drawn)
    (queue : RenderQueue (Stage k.Drawn)) : k.drawnState { p with queue } = k.drawnState p := by
  cases k <;> rfl

theorem Shows.queue (h : k.Shows p scene) (queue : RenderQueue (Stage k.Drawn)) :
    k.Shows { p with queue } scene :=
  h.congr rfl (drawnState_queue k p queue)

theorem Rests.queue (h : k.Rests p scene) (queue : RenderQueue (Stage k.Drawn)) :
    k.Rests { p with queue } scene :=
  ⟨h.shows.queue queue, h.visible, (drawnState_queue k p queue).trans h.drawn⟩

/-- An overlay goes on heading for its scene as long as no call fails. -/
theorem Heads.advance (h : k.Heads p scene) (sources : Sources)
    (smooth : p.queue.busy.any (k.callFails sources p) = false) :
    k.Heads (p.advance k.drawing sources).panel scene := by
  rcases p.advance_cases k.drawing sources with ⟨free, ha⟩ | ⟨stage, s, g, busy, hg, ha⟩ |
    ⟨stage, g, busy, hg, ha⟩ | ⟨stage, g, busy, hg, ha⟩
  · -- a task is taken: the first of the pending ones, which is in its first stage
    rw [ha]
    have same := RenderQueue.work_take p.queue
    refine ⟨?_, ?_, ?_, ?_⟩
    · intro s busy last
      -- so it is not in its last stage, and nothing is asked of the surface
      have member : s ∈ p.queue.pending := by
        have first : s ∈ p.queue.take.work := by simp [RenderQueue.work_of_busy busy]
        rw [same] at first
        simpa [RenderQueue.work, free] using first
      rw [h.fresh s member] at last
      cases last
    · intro s pending
      refine h.fresh s ?_
      have member : s ∈ p.queue.take.work := List.mem_append_right _ pending
      rw [same] at member
      simpa [RenderQueue.work, free] using member
    · intro s last
      exact h.last s (same ▸ last)
    · intro idle
      exact (h.rest (same.symm.trans idle)).queue _
  all_goals
    have outcome := k.scened_perform sources p stage
    rw [hg] at outcome
    rw [ha]
    have work := RenderQueue.work_of_busy busy
  · cases outcome with
    | next same shows =>
        refine ⟨?_, h.fresh, ?_, ?_⟩
        · intro s' now last
          obtain rfl := Option.some.inj now
          exact (shows last).queue _
        · intro s' last
          -- the next stage is the last task only where nothing is pending behind it
          cases pending : p.queue.pending with
          | nil =>
              have only : s' = s := by simpa [pending] using last.symm
              rw [only, same]
              exact h.last stage (by rw [work, pending]; rfl)
          | cons t ts =>
              refine h.last s' ?_
              rw [← last, work]
              simp [pending, RenderQueue.work_continueWith]
        · intro idle
          simp at idle
  · cases outcome with
    | done last rests =>
        refine ⟨fun _ taken => absurd taken (by simp [RenderQueue.release]), h.fresh, ?_, ?_⟩
        · intro s' later
          refine h.last s' ?_
          rw [← later, work, RenderQueue.work_release]
          cases pending : p.queue.pending with
          | nil => simp [pending] at later
          | cons t ts => simp
        · -- the task that ends was the only one, so its scene is the one headed for
          intro idle
          have only : p.queue.pending = [] := by simpa using idle
          have leaves := h.last stage (by rw [work, only]; rfl)
          rw [← leaves]
          exact (rests (h.ready stage busy last)).queue _
  · -- a failed task would leave the screen behind
    cases outcome with
    | failed fails => simp [busy, fails] at smooth

/-! ## Requests of scenes -/

/-- The grid state that requests see on an overlay; only the grid has one. -/
def state : (k : OverlayKind) → Panel k.Content k.Drawn → Grid.State Number
  | .grid, p => p.content.logical.state
  | _, _ => .unshown

theorem requests_request (p : Panel k.Content k.Drawn) {stage : Stage k.Drawn}
    (first : k.isLast stage = false) : k.Requests p (p.request stage).1 (k.scene stage) := by
  rw [Panel.request_fst]
  exact ⟨⟨stage, rfl, first, rfl⟩, rfl, drawnState_queue k p _⟩

theorem requests_conceal (k : OverlayKind) (p : Panel k.Content k.Drawn) :
    k.Requests p (k.conceal p).1 none := by
  cases k with
  | grid =>
      simp only [conceal, GridPanel.hide_fst]
      exact ⟨⟨.wipe, rfl, rfl, rfl⟩, rfl, rfl⟩
  | elements | windows | help => exact requests_request p rfl

theorem requests_transition (p : GridPanel) (s : Grid.State Number) :
    Requests .grid p (p.transition s).1 (some s) := by
  rw [GridPanel.transition_fst]
  exact ⟨⟨.render (.draw ⟨s, _⟩), rfl, rfl, rfl⟩, rfl, rfl⟩

theorem state_transition (p : GridPanel) (s : Grid.State Number) :
    state .grid (p.transition s).1 = s := by
  rw [GridPanel.transition_fst]
  rfl

/-- Showing an overlay requests a frame, of the grid a frame of its state. -/
theorem requests_present {options : Option Tree} {signals : List Signal}
    (accepted : k.present p options = .ok (q, signals)) :
    k.Requests p q (some (k.state q)) := by
  cases k with
  | grid =>
      obtain ⟨size, -, rfl⟩ := GridPanel.transition_of_present accepted
      rw [state_transition]
      exact requests_transition p _
  | elements | windows | help =>
      obtain rfl := congrArg Prod.fst (Except.ok.inj accepted)
      exact requests_request p rfl

end OverlayKind

/-! ## The coordinator -/

namespace Coordinator

variable {c : Coordinator} {k : OverlayKind}

/-- What requests believe to be on the screen of an overlay. -/
def scene (c : Coordinator) (k : OverlayKind) : OverlayKind.Scene :=
  if c.current = some k then some c.gridState else none

/-- Every overlay heads for what requests believe. -/
structure Heads (c : Coordinator) : Prop where
  agrees : c.Agrees
  open_ : c.Open
  heads : ∀ {k p}, c.panel? k = some p → k.Heads p (c.scene k)

theorem scene_of_current (h : c.Agrees) {p : Panel k.Content k.Drawn} (up : c.current = some k)
    (there : c.panel? k = some p) : c.scene k = some (k.state p) := by
  have same : c.gridState = k.state p := by
    by_cases grid : k = .grid
    · subst grid
      exact gridState_of_panel there
    · have hidden := h.hidden_of_room (.inr up) grid
      cases k with
      | grid => exact absurd rfl grid
      | elements | windows | help => exact hidden
  rw [scene, if_pos up, same]

theorem scene_of_not_current (down : c.current ≠ some k) : c.scene k = none := if_neg down

/-- A new state of one overlay that heads for its scene, where nothing is believed of the others,
before or after. -/
theorem Heads.replace {d : Coordinator} {q : Panel k.Content k.Drawn} (h : c.Heads)
    (agrees : d.Agrees) (open_ : d.Open) (there : ∀ j, d.panel? j = (c.setPanel k q).panel? j)
    (others : ∀ j, j ≠ k → c.current ≠ some j ∧ d.current ≠ some j)
    (heads : k.Heads q (d.scene k)) : d.Heads := by
  refine ⟨agrees, open_, fun {j r} hr => ?_⟩
  rw [there] at hr
  refine forall_setPanel (P := fun j r => j.Heads r (d.scene j)) heads ?_ j r hr
  intro j r other hr
  obtain ⟨before, now⟩ := others j other
  rw [scene_of_not_current now, ← scene_of_not_current before]
  exact h.heads hr

theorem Heads.lower {p : Panel k.Content k.Drawn} (there : c.panel? k = some p)
    (up : c.current = some k) (h : c.Heads) : (c.lowered k (k.conceal p).1).Heads := by
  have down (j : OverlayKind) : (c.lowered k (k.conceal p).1).current ≠ some j := by simp
  have agrees := h.agrees.lower there up
  refine h.replace agrees (h.open_.lower there) (fun j => panel?_lowered ..) ?_ ?_
  · intro j other
    rw [up]
    exact ⟨fun same => other (Option.some.inj same).symm, down j⟩
  · rw [scene_of_not_current (down k)]
    exact (h.heads there).request (h.open_ k p there) (k.requests_conceal p)

theorem Heads.raise {p q : Panel k.Content k.Drawn} {options : Option Tree} {s : List Signal}
    (there : c.panel? k = some p) (room : c.current = none ∨ c.current = some k)
    (accepted : k.present p options = .ok (q, s)) (h : c.Heads) : (c.raised k q).Heads := by
  have agrees := h.agrees.raise there room accepted
  have there' : (c.raised k q).panel? k = some q := by rw [panel?_raised, panel?_setPanel_self]
  refine h.replace agrees (h.open_.raise there accepted) (fun j => panel?_raised ..) ?_ ?_
  · intro j other
    refine ⟨?_, fun same => other (Option.some.inj same).symm⟩
    rcases room with room | room <;> rw [room]
    · exact nofun
    · exact fun same => other (Option.some.inj same).symm
  · rw [scene_of_current agrees rfl there']
    exact (h.heads there).request (h.open_ k p there) (OverlayKind.requests_present accepted)

theorem Heads.narrow {g q : GridPanel} {cell : Number} {s : List Signal}
    (there : c.panel? .grid = some g) (up : c.current = some .grid)
    (accepted : g.refine? cell = some (q, s)) (h : c.Heads) : (c.narrowed q).Heads := by
  have agrees := h.agrees.narrow there up accepted
  have open_ := h.open_.narrow there accepted
  obtain ⟨state, -, rfl⟩ := GridPanel.transition_of_refine? accepted
  have up' : (c.narrowed (g.transition state).1).current = some .grid := by simpa using up
  have there' := (panel?_narrowed c .grid _).trans
    (panel?_setPanel_self c .grid (g.transition state).1)
  refine h.replace agrees open_ (fun j => panel?_narrowed ..) ?_ ?_
  · intro j other
    rw [up, up']
    exact ⟨fun same => other (Option.some.inj same).symm,
      fun same => other (Option.some.inj same).symm⟩
  · rw [scene_of_current agrees up' there', OverlayKind.state_transition]
    exact (h.heads there).request (h.open_ .grid g there) (OverlayKind.requests_transition g state)

/-! ## Runs without failing calls -/

/-- Whether a call that a step of a queue makes fails. -/
def callFails (c : Coordinator) (sources : Sources) (k : OverlayKind) : Bool :=
  (c.panel? k).any fun p => p.queue.busy.any (k.callFails sources p)

/-- No call that the moves make fails. -/
def smooth (c : Coordinator) : List Move → Bool
  | [] => true
  | .advance sources k :: ms => !c.callFails sources k && (c.step sources k).1.smooth ms
  | m :: ms => (c.after m).smooth ms

theorem gridState_step (sources : Sources) (full : c.Full) (k : OverlayKind) :
    (c.step sources k).1.gridState = c.gridState := by
  obtain ⟨g, hg⟩ := full .grid
  obtain ⟨g', hg', -, logical⟩ := grid_step sources full k hg
  rw [gridState_of_panel hg', gridState_of_panel hg, logical]

/-- A step of a queue without a failing call brings its overlay nearer to its scene. -/
theorem Heads.step (sources : Sources) (h : c.Heads) (smooth : c.callFails sources k = false) :
    (c.step sources k).1.Heads := by
  obtain ⟨p, hp⟩ := h.agrees.full k
  have believed (j : OverlayKind) : (c.step sources k).1.scene j = c.scene j := by
    unfold scene
    rw [current_step sources h.agrees.full k, gridState_step sources h.agrees.full k]
  refine ⟨h.agrees.step sources k, h.open_.step sources k h.agrees.full, fun {j r} hr => ?_⟩
  rw [step_eq hp, panel?_accept] at hr
  refine forall_setPanel (P := fun j r => j.Heads r ((c.step sources k).1.scene j)) ?_ ?_ j r hr
  · rw [believed]
    exact (h.heads hp).advance sources (by simpa [callFails, hp] using smooth)
  · intro j r _ hr
    rw [believed]
    exact h.heads hr

theorem Heads.of_effect {d : Coordinator} {accepted : Bool} (effect : Effect c accepted d)
    (h : c.Heads) : d.Heads :=
  effect.keeps Heads.lower (fun there room _ => Heads.raise there room) Heads.narrow h

/-- A run without failing calls keeps every overlay on its way. -/
theorem Heads.run (h : c.Heads) {ms : List Move} (smooth : c.smooth ms = true) :
    (c.run ms).Heads := by
  induction ms generalizing c with
  | nil => exact h
  | cons m ms ih =>
      rcases effect_or_step h.agrees.full m with effect | ⟨sources, k, rfl, -⟩
      · refine ih (h.of_effect effect) ?_
        cases m with
        | advance sources k => simp_all [Coordinator.smooth, Coordinator.after]
        | _ => exact smooth
      · simp only [Coordinator.smooth, Bool.and_eq_true, Bool.not_eq_true'] at smooth
        exact ih (h.step sources smooth.1) smooth.2

theorem heads_coordinator (o : Outfit) (blank : ∀ k, (o.surface k).shown = none) :
    o.coordinator.Heads where
  agrees := agrees_coordinator o
  open_ k p hp := by
    obtain ⟨q, hq, queue⟩ := o.exists_panel?_coordinator k
    obtain rfl := Option.some.inj (hp.symm.trans hq)
    rw [queue]
  heads := by
    intro k p hp
    have down : o.coordinator.scene k = none := rfl
    rw [down]
    have rests : k.Rests p none := by
      cases k <;> obtain rfl := Option.some.inj hp <;> exact ⟨blank _, rfl, rfl⟩
    have queue : p.queue = {} := by
      cases k <;> obtain rfl := Option.some.inj hp <;> rfl
    refine ⟨?_, ?_, ?_, fun _ => rests⟩ <;> simp [queue, RenderQueue.work]

/-! ## Drained queues -/

/-- Whether the overlay of a kind counts as drawn. -/
def visible (c : Coordinator) (k : OverlayKind) : Bool := (c.panel? k).any (·.visible)

/-- The frame on the surface of the overlay of a kind. -/
def frame? (c : Coordinator) (k : OverlayKind) : Option Frame :=
  (c.panel? k).bind (·.surface.shown)

/-- The grid state that was drawn last. -/
def drawnGrid (c : Coordinator) : Grid.State Number :=
  match c.grid with
  | some g => g.content.drawn
  | none => .unshown

/-- The frame of a grid state, if it is one of a grid that is shown. -/
def gridFrame? (s : Grid.State Number) : Option Frame :=
  s.shape?.map fun (bounds, size) => .grid bounds size s.parent? s.cells

theorem Heads.rests (h : c.Heads) (drained : c.Drained) (k : OverlayKind) :
    ∃ p, c.panel? k = some p ∧ k.Rests p (c.scene k) := by
  obtain ⟨p, hp⟩ := h.agrees.full k
  exact ⟨p, hp, (h.heads hp).rest (work_of_panel hp ▸ drained k)⟩

theorem Heads.visible_iff (h : c.Heads) (drained : c.Drained) (k : OverlayKind) :
    c.visible k = true ↔ c.current = some k := by
  obtain ⟨p, hp, rests⟩ := h.rests drained k
  have visible : c.visible k = (c.scene k).isSome := by simp [visible, hp, rests.visible]
  rw [visible, scene]
  split <;> simp_all

theorem Heads.frame?_cases (h : c.Heads) (drained : c.Drained) (k : OverlayKind) :
    (c.current = some k ∧ ∃ f, c.frame? k = some f ∧ f.kind = k ∧
        (k = .grid → f = GridPanel.frame c.gridState)) ∨
      (c.current ≠ some k ∧ c.frame? k = none) := by
  obtain ⟨p, hp, rests⟩ := h.rests drained k
  have frame : c.frame? k = p.surface.shown := by simp [frame?, hp]
  have shows := rests.shows
  rw [frame]
  by_cases up : c.current = some k
  · rw [scene, if_pos up] at shows
    exact .inl ⟨up, shows.2⟩
  · rw [scene_of_not_current up] at shows
    exact .inr ⟨up, shows⟩

theorem Agrees.hidden_of_not_current (h : c.Agrees) (down : c.current ≠ some .grid) :
    c.gridState = .unshown :=
  Classical.not_not.1 fun shown => down (h.shown.1 shown)

theorem Heads.drawnGrid_eq (h : c.Heads) (drained : c.Drained) : c.drawnGrid = c.gridState := by
  obtain ⟨g, hg, rests⟩ := h.rests drained .grid
  have grid : c.grid = some g := hg
  have drawn : c.drawnGrid = OverlayKind.drawnState .grid g := by simp only [drawnGrid, grid]; rfl
  rw [drawn, rests.drawn, scene]
  by_cases up : c.current = some .grid
  · rw [if_pos up, Option.getD_some]
  · rw [if_neg up, h.agrees.hidden_of_not_current up, Option.getD_none]

theorem Heads.gridFrame_eq (h : c.Heads) (drained : c.Drained) :
    c.frame? .grid = gridFrame? c.gridState := by
  rcases h.frame?_cases drained .grid with ⟨up, f, shown, -, frame⟩ | ⟨down, blank⟩
  · rw [shown, frame rfl]
    have state := h.agrees.shown.2 up
    cases grid : c.gridState with
    | unshown => exact absurd grid state
    | full bounds size => rfl
    | refined bounds parent => rfl
  · rw [blank, h.agrees.hidden_of_not_current down]
    rfl

/-- Whatever was asked for and however drawing went on in between, once all queues are drained after
a run without failing calls, what is on the screen is what requests believe: an overlay is visible
and has a frame on its surface exactly while it is the current one, and the grid that was drawn is
the grid that requests see. -/
theorem drained_shows_current (o : Outfit) (ms : List Move)
    (blank : ∀ k, (o.surface k).shown = none) (smooth : o.coordinator.smooth ms = true)
    (drained : (o.coordinator.run ms).Drained) :
    let c := o.coordinator.run ms
    (∀ k, (c.visible k = true ↔ c.current = some k) ∧
      ((c.frame? k).isSome = true ↔ c.current = some k) ∧
      ∀ f, c.frame? k = some f → f.kind = k) ∧
    (∀ j k, (c.frame? j).isSome = true → (c.frame? k).isSome = true → j = k) ∧
    c.drawnGrid = c.gridState ∧ c.frame? .grid = gridFrame? c.gridState := by
  intro c
  have h : c.Heads := (heads_coordinator o blank).run smooth
  have shown (k : OverlayKind) : (c.frame? k).isSome = true ↔ c.current = some k := by
    rcases h.frame?_cases drained k with ⟨up, f, shown, -⟩ | ⟨down, blank⟩
    · simp [up, shown]
    · simp [down, blank]
  refine ⟨fun k => ⟨h.visible_iff drained k, shown k, ?_⟩, ?_, h.drawnGrid_eq drained,
    h.gridFrame_eq drained⟩
  · intro f hf
    rcases h.frame?_cases drained k with ⟨-, f', shown, kind, -⟩ | ⟨-, blank⟩
    · obtain rfl := Option.some.inj (shown.symm.trans hf)
      exact kind
    · rw [blank] at hf
      cases hf
  · intro j k first second
    exact Option.some.inj (((shown j).1 first).symm.trans ((shown k).1 second))

/-- A request for elements whose source fails is still being drawn when a grid is put up over them
and refined. -/
def interleaved : List Move :=
  let failing : Sources := { elements := some { detect := fun _ => .error (.plain "") } }
  [.reveal .elements none, .advance failing .elements, .advance failing .elements,
    .reveal .grid none, .advance {} .grid, .refine 5] ++
  List.replicate 6 (.advance {} .elements) ++ List.replicate 6 (.advance {} .grid)

/-- Once all is drawn, the elements are gone and the refined grid is there. -/
theorem drained_shows_refined_grid :
    let o : Outfit := { screen := fun _ => ⟨900, 900⟩ }
    let c := o.coordinator.run interleaved
    o.coordinator.smooth interleaved = true ∧ c.Drained ∧ c.current = some .grid ∧
      c.visible .elements = false ∧ c.drawnGrid = c.gridState ∧ c.gridState.parent? = some 5 := by
  intro o c
  have smooth : o.coordinator.smooth interleaved = true := by decide +kernel
  have drained : c.Drained := by
    intro k
    refine List.isEmpty_iff.1 ?_
    cases k <;> decide +kernel
  have current : c.current = some .grid := by decide +kernel
  obtain ⟨kinds, -, grid, -⟩ :=
    drained_shows_current o interleaved (fun _ => rfl) smooth drained
  have gone : ¬ c.visible .elements = true := by
    rw [(kinds .elements).1, current]
    decide
  exact ⟨smooth, drained, current, eq_false_of_ne_true gone, grid, by decide +kernel⟩

end Coordinator

end VoiceControl
