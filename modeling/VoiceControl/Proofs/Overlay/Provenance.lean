import VoiceControl.Proofs.Overlay.Agreement

/-!
# Where the published table comes from

The tasks of an overlay are numbered in the order of their arrival. A run is watched: which task
the last accepted show or refinement put on its queue, which task published the table that is in
force, and whether drawing failed for the former. The watch reads the coordinator and never acts
on it.

A frame of the grid that was superseded publishes nothing. The elements and the windows have no
such rule: there an earlier show may supply the targets, and it goes on doing so if drawing fails
for the show that followed.
-/

namespace VoiceControl

/-! ## What the overlays publish -/

/-- Whether a publication replaces the table. -/
def Publication.isTable : Publication → Bool
  | .positions _ => true
  | .refinedCell _ => false

namespace OverlayKind

/-- What the last stage of a task that draws publishes. -/
def published : (k : OverlayKind) → Stage k.Drawn → Panel k.Content k.Drawn → List Publication
  | .grid, stage, p => GridPanel.published stage p
  | k, _, p => [.positions (k.targets p)]

theorem advance_outcome (k : OverlayKind) (sources : Sources) (p : Panel k.Content k.Drawn) :
    StepOutcome p k.published (p.advance k.drawing sources) := by
  cases k with
  | grid => exact GridPanel.advance_outcome sources p
  | elements => exact Panel.advance_outcome (perform_outcome (k := .elements) nofun sources p)
  | windows => exact Panel.advance_outcome (perform_outcome (k := .windows) nofun sources p)
  | help => exact Panel.advance_outcome (perform_outcome (k := .help) nofun sources p)

/-- Hiding an overlay puts a task that takes it down on its queue. -/
theorem queue_conceal (k : OverlayKind) (p : Panel k.Content k.Drawn) :
    (k.conceal p).1.queue = (p.queue.enqueue .wipe).2 := by
  cases k with
  | grid => exact congrArg Panel.queue (GridPanel.hide_fst p)
  | elements | windows | help => exact congrArg Panel.queue (Panel.request_fst p .wipe)

/-- Showing an overlay puts a task that draws on its queue. -/
theorem queue_present {k : OverlayKind} {p q : Panel k.Content k.Drawn} {options : Option Tree}
    {s : List Signal} (accepted : k.present p options = .ok (q, s)) :
    ∃ r, q.queue = (p.queue.enqueue (.render r)).2 := by
  cases k with
  | grid =>
      obtain ⟨size, -, rfl⟩ := GridPanel.transition_of_present accepted
      exact ⟨_, congrArg Panel.queue (GridPanel.transition_fst p _)⟩
  | elements | windows | help =>
      obtain rfl := congrArg Prod.fst (Except.ok.inj accepted)
      exact ⟨_, congrArg Panel.queue (Panel.request_fst p _)⟩

end OverlayKind

namespace Coordinator

/-- The tasks of the overlay of a kind that have not ended. -/
def work (c : Coordinator) (k : OverlayKind) : List (Stage k.Drawn) :=
  match c.panel? k with
  | some p => p.queue.work
  | none => []

/-- All queues are drained. -/
def Drained (c : Coordinator) : Prop := ∀ k, c.work k = []

/-- No queue was stopped. -/
def Open (c : Coordinator) : Prop := ∀ k p, c.panel? k = some p → p.queue.stopped = false

/-- Whether the consumer of the overlay of a kind is at a task. -/
def busy (c : Coordinator) (k : OverlayKind) : Bool :=
  (c.panel? k).any fun p => p.queue.busy.isSome

/-- What a step of the overlay of a kind publishes. -/
def publications (c : Coordinator) (sources : Sources) (k : OverlayKind) : List Publication :=
  match c.panel? k with
  | some p => (p.advance k.drawing sources).publications
  | none => []

variable {c : Coordinator} {k : OverlayKind}

theorem work_of_panel {p : Panel k.Content k.Drawn} (h : c.panel? k = some p) :
    c.work k = p.queue.work := by
  simp [work, h]

theorem busy_of_panel {p : Panel k.Content k.Drawn} (h : c.panel? k = some p) :
    c.busy k = p.queue.busy.isSome := by
  simp [busy, h]

theorem publications_of_panel {p : Panel k.Content k.Drawn} (h : c.panel? k = some p)
    (sources : Sources) :
    c.publications sources k = (p.advance k.drawing sources).publications := by
  simp [publications, h]

end Coordinator

/-! ## The watch -/

/-- A coordinator and what a watch of its run has noted down. -/
structure Watched where
  coordinator : Coordinator
  /-- The number of tasks of each overlay that have ended. -/
  ended : OverlayKind → Nat := fun _ => 0
  /-- The task of the last accepted show or refinement, while its overlay is current. -/
  latest : Option (OverlayKind × Nat) := none
  /-- The task that published the table, if any has since the table was emptied. -/
  origin : Option (OverlayKind × Nat) := none
  /-- Drawing failed for the task of the last accepted show or refinement. -/
  failed : Bool := false

namespace Watched

/-- Notes a request down: whether it was a show or a refinement that was accepted, and the
coordinator that it led to. -/
def request (w : Watched) (accepted : Bool) (d : Coordinator) : Watched :=
  match d.current with
  | none => { w with coordinator := d, latest := none, origin := none, failed := false }
  | some k =>
      if accepted then
        { w with
          coordinator := d
          -- the task came in last
          latest := some (k, w.ended k + (d.work k).length - 1)
          origin := none
          failed := false }
      else { w with coordinator := d }

/-- Notes a step of a queue down. -/
def advance (w : Watched) (sources : Sources) (k : OverlayKind) : Watched :=
  let c := w.coordinator
  let d := (c.step sources k).1
  let signals := (c.step sources k).2
  let task := (k, w.ended k)
  { w with
    coordinator := d
    ended := fun j => if j = k ∧ c.busy k ∧ ¬ d.busy k then w.ended j + 1 else w.ended j
    origin :=
      if c.current = some k ∧ (c.publications sources k).any (·.isTable) then some task
      else w.origin
    failed := w.failed || signals.any (·.tellsFailure) && w.latest == some task }

/-- The watched coordinator after a move. -/
def after (w : Watched) : Move → Watched
  | .advance sources k => w.advance sources k
  | m => w.request (w.coordinator.accepts m) (w.coordinator.after m)

/-- The watched coordinator after moves. -/
def run (w : Watched) (ms : List Move) : Watched := ms.foldl after w

/-- A coordinator whose tasks have all still to come. -/
def start (c : Coordinator) : Watched := { coordinator := c }

theorem coordinator_request (w : Watched) (accepted : Bool) (d : Coordinator) :
    (w.request accepted d).coordinator = d := by
  unfold request
  split
  · rfl
  · split <;> rfl

theorem coordinator_after (w : Watched) (m : Move) :
    (w.after m).coordinator = w.coordinator.after m := by
  cases m with
  | advance sources k => rfl
  | _ => exact coordinator_request _ _ _

/-- Watching a run leaves it as it is. -/
theorem coordinator_run (w : Watched) (ms : List Move) :
    (w.run ms).coordinator = w.coordinator.run ms := by
  induction ms generalizing w with
  | nil => rfl
  | cons m ms ih =>
      show ((w.after m).run ms).coordinator = _
      rw [ih, coordinator_after]
      rfl

end Watched

/-! ## What the watch sees -/

namespace Coordinator

variable {c : Coordinator} {k : OverlayKind}

theorem Open.setPanel (h : c.Open) {p : Panel k.Content k.Drawn}
    (open_ : p.queue.stopped = false) : (c.setPanel k p).Open :=
  forall_setPanel open_ fun j q _ => h j q

theorem Open.lower {p : Panel k.Content k.Drawn} (there : c.panel? k = some p) (h : c.Open) :
    (c.lowered k (k.conceal p).1).Open := by
  have open_ : (k.conceal p).1.queue.stopped = false := by
    rw [k.queue_conceal, RenderQueue.stopped_enqueue]
    exact h k p there
  intro j q hq
  rw [panel?_lowered] at hq
  exact h.setPanel open_ j q hq

theorem Open.step (sources : Sources) (k : OverlayKind) (full : c.Full) (h : c.Open) :
    (c.step sources k).1.Open := by
  obtain ⟨p, hp⟩ := full k
  have open_ : (p.advance k.drawing sources).panel.queue.stopped = false := by
    rw [← h k p hp]
    rcases p.advance_cases k.drawing sources with ⟨-, ha⟩ | ⟨stage, s, g, -, -, ha⟩ |
      ⟨stage, g, -, -, ha⟩ | ⟨stage, g, -, -, ha⟩ <;> rw [ha]
    · exact RenderQueue.stopped_take _
    · rfl
    · rfl
    · rfl
  intro j q hq
  rw [step_eq hp] at hq
  dsimp only at hq
  rw [panel?_accept] at hq
  exact h.setPanel open_ j q hq

/-- What is there once a show or a refinement was accepted: an overlay that is current, with a task
that draws in the last place of its queue, and no table. -/
structure Asked (d : Coordinator) (k : OverlayKind) : Prop where
  current : d.current = some k
  table : d.table = []
  last : ∃ before r, d.work k = before ++ [.render r]
  /-- The grid's task is about its newest transition. -/
  newest : ∀ g : GridPanel, k = .grid → d.panel? .grid = some g → g.Newest

theorem asked_raised {p q : Panel k.Content k.Drawn} {options : Option Tree} {s : List Signal}
    (open_ : p.queue.stopped = false) (accepted : k.present p options = .ok (q, s)) :
    (c.raised k q).Asked k := by
  obtain ⟨r, queue⟩ := OverlayKind.queue_present accepted
  have there : (c.raised k q).panel? k = some q := by rw [panel?_raised, panel?_setPanel_self]
  refine ⟨rfl, rfl, ⟨p.queue.work, r, ?_⟩, ?_⟩
  · rw [work_of_panel there, queue, RenderQueue.work_enqueue open_]
  · rintro g rfl hg
    obtain rfl := Option.some.inj (there.symm.trans hg)
    obtain ⟨size, -, rfl⟩ := GridPanel.transition_of_present accepted
    exact GridPanel.newest_transition open_ _

theorem asked_narrowed {g q : GridPanel} {cell : Number} {s : List Signal}
    (open_ : g.queue.stopped = false) (up : c.current = some .grid)
    (accepted : g.refine? cell = some (q, s)) : (c.narrowed q).Asked .grid := by
  obtain ⟨state, -, rfl⟩ := GridPanel.transition_of_refine? accepted
  have there := (panel?_narrowed c .grid _).trans
    (panel?_setPanel_self c .grid (g.transition state).1)
  refine ⟨by simpa using up, rfl, ⟨g.queue.work, .draw ⟨state, g.content.issued + 1⟩, ?_⟩, ?_⟩
  · rw [work_of_panel there, GridPanel.transition_fst]
    exact RenderQueue.work_enqueue open_ _
  · rintro g' - hg
    obtain rfl := Option.some.inj (there.symm.trans hg)
    exact GridPanel.newest_transition open_ _

/-- An accepted show or refinement leaves a task behind, and any other request leaves everything as
it was or no overlay current. -/
theorem asked_of_effect {d : Coordinator} {accepted : Bool} (open_ : c.Open)
    (effect : Effect c accepted d) :
    (accepted = true ∧ ∃ k, d.Asked k) ∨ (accepted = false ∧ (d = c ∨ d.current = none)) := by
  cases effect with
  | none => exact .inr ⟨rfl, .inl rfl⟩
  | lower there up => exact .inr ⟨rfl, .inr rfl⟩
  | raise there room area accepted => exact .inl ⟨rfl, _, asked_raised (open_ _ _ there) accepted⟩
  | exchange there up other next area accepted =>
      exact .inl ⟨rfl, _, asked_raised (open_ _ _ next) accepted⟩
  | narrow there up accepted =>
      exact .inl ⟨rfl, _, asked_narrowed (open_ _ _ there) up accepted⟩

theorem Open.raise {p q : Panel k.Content k.Drawn} {options : Option Tree} {s : List Signal}
    (there : c.panel? k = some p) (accepted : k.present p options = .ok (q, s)) (h : c.Open) :
    (c.raised k q).Open := by
  obtain ⟨r, queue⟩ := OverlayKind.queue_present accepted
  have open_ : q.queue.stopped = false := by
    rw [queue, RenderQueue.stopped_enqueue]
    exact h k p there
  intro j q' hq
  rw [panel?_raised] at hq
  exact h.setPanel open_ j q' hq

theorem Open.narrow {g q : GridPanel} {cell : Number} {s : List Signal}
    (there : c.panel? .grid = some g) (accepted : g.refine? cell = some (q, s)) (h : c.Open) :
    (c.narrowed q).Open := by
  obtain ⟨state, -, rfl⟩ := GridPanel.transition_of_refine? accepted
  have open_ : (g.transition state).1.queue.stopped = false := by
    rw [GridPanel.transition_fst, RenderQueue.stopped_enqueue]
    exact h .grid g there
  intro j q' hq
  rw [panel?_narrowed] at hq
  exact h.setPanel (k := .grid) open_ j q' hq

/-- No move stops a queue. -/
theorem Open.after (agrees : c.Agrees) (h : c.Open) (m : Move) : (c.after m).Open := by
  have both : (c.after m).Agrees ∧ (c.after m).Open := by
    refine after_keeps (P := fun c => c.Agrees ∧ c.Open) (fun h => h.1.full) ?_ ?_ ?_ ?_
      ⟨agrees, h⟩ m
    · intro c k p there up h
      exact ⟨h.1.lower there up, h.2.lower there⟩
    · intro c k p options q s there room area accepted h
      exact ⟨h.1.raise there room accepted, h.2.raise there accepted⟩
    · intro c g q cell s there up accepted h
      exact ⟨h.1.narrow there up accepted, h.2.narrow there accepted⟩
    · intro c sources k h
      exact ⟨h.1.step sources k, h.2.step sources k h.1.full⟩
  exact both.2

end Coordinator

/-! ## Publishing at the end of a task -/

namespace OverlayKind

/-- What a step of a grid keeps; the other overlays publish whatever they have. -/
def Settles : (k : OverlayKind) → Panel k.Content k.Drawn → Panel k.Content k.Drawn → Prop
  | .grid, p, q =>
      GridPanel.Ordered p ∧ GridPanel.Newest p ∧ q.content.logical = p.content.logical
  | _, _, _ => True

/-- A task that draws and ends puts the targets of its overlay into the table. Only the grid leaves
that to the last task of all. -/
theorem published_cases {k : OverlayKind} {p q : Panel k.Content k.Drawn} {stage : Stage k.Drawn}
    (settles : k.Settles p q) (busy : p.queue.busy = some stage) (draws : stage.draws = true)
    (last : ∀ t, p.queue.work.getLast? = some t → t.draws = true) :
    (∃ more, k.published stage q = .positions (k.targets q) :: more ∧
        (∀ m ∈ more, m.isTable = false) ∧
        (k = .grid ∨ k = .help → p.queue.pending = [] ∨ k.targets q = [])) ∨
      k.published stage q = [] ∧ p.queue.pending ≠ [] := by
  cases k with
  | grid =>
      obtain ⟨ordered, newest, kept⟩ := settles
      by_cases alone : p.queue.pending = []
      · refine .inl ⟨_, ordered.published_of_last newest busy draws alone kept, ?_,
          fun _ => .inl alone⟩
        intro m hm
        rw [List.mem_singleton.1 hm]
        rfl
      · have more : p.queue.work.getLast? = some (p.queue.pending.getLast alone) := by
          rw [RenderQueue.work_of_busy busy, List.getLast?_cons,
            List.getLast?_eq_some_getLast alone]
          rfl
        have superseded :=
          ordered.published_of_superseded busy (List.getLast_mem alone) (last _ more) kept
        exact .inr ⟨superseded, alone⟩
  | elements | windows => exact .inl ⟨[], rfl, nofun, nofun⟩
  | help => exact .inl ⟨[], rfl, nofun, fun _ => .inr rfl⟩

/-- A step publishes the targets that the overlay has after it, or no table at all. -/
theorem publications_cases {k : OverlayKind} {sources : Sources} {p : Panel k.Content k.Drawn}
    (settles : k.Settles p (p.advance k.drawing sources).panel) :
    (p.advance k.drawing sources).publications = [] ∨
      ∃ more, (p.advance k.drawing sources).publications =
        .positions (k.targets (p.advance k.drawing sources).panel) :: more ∧
          ∀ m ∈ more, m.isTable = false := by
  have outcome := k.advance_outcome sources p
  cases k with
  | grid =>
      obtain ⟨ordered, -, kept⟩ := settles
      rcases ordered.publications sources with silent | said
      · exact .inl silent
      · refine .inr ⟨[.refinedCell p.content.logical.state.parent?], ?_, ?_⟩
        · show _ = [Publication.positions (GridPanel.targets _), _]
          rw [kept]
          exact said
        · intro m hm
          rw [List.mem_singleton.1 hm]
          rfl
  | elements | windows | help =>
      generalize Panel.advance _ sources p = g at outcome ⊢
      cases outcome with
      | took | next | wiped | failed => exact .inl rfl
      | drawn busy draws all => exact .inr ⟨[], all, nofun⟩

@[simp] theorem settles_queue {k : OverlayKind} (p q : Panel k.Content k.Drawn)
    (queue : RenderQueue (Stage k.Drawn)) : k.Settles p { q with queue } = k.Settles p q := by
  cases k <;> rfl

end OverlayKind

namespace Coordinator

variable {c : Coordinator} {k : OverlayKind}

/-- The current overlay's table takes the place of the one before. -/
theorem table_accept (up : c.current = some k) (table : List (Point Number))
    {more : List Publication} (others : ∀ m ∈ more, m.isTable = false) :
    ((Publication.positions table :: more).foldl (·.accept k ·) c).table = table := by
  have rest (d : Coordinator) : (more.foldl (·.accept k ·) d).table = d.table := by
    induction more generalizing d with
    | nil => rfl
    | cons m more ih =>
        rw [List.foldl_cons, ih fun m' hm => others m' (List.mem_cons_of_mem m hm)]
        have other := others m (List.mem_cons_self ..)
        unfold accept
        split
        · cases m with
          | positions table => cases other
          | refinedCell cell => rfl
        · rfl
  rw [List.foldl_cons, rest, accept, if_pos up]

end Coordinator

/-! ## The current overlay -/

/-- How the current overlay stands whose last accepted task has number `s`: `ended` of its tasks
have ended, the table is that of task `origin`, and `failed` tells whether drawing failed for
task `s`. -/
structure Stands (k : OverlayKind) (s : Nat) (p : Panel k.Content k.Drawn)
    (table : List (Point Number)) (ended : Nat) (origin : Option (OverlayKind × Nat))
    (failed : Bool) : Prop where
  counted : ended + p.queue.work.length = s + 1
  last : ∀ t, p.queue.work.getLast? = some t → t.draws = true
  unwritten : origin = none → table = []
  older : ∀ task, origin = some task → task.1 = k ∧ task.2 < ended
  written : origin = some (k, s) → table = k.targets p
  settled : p.queue.work = [] → failed = true ∨ origin = some (k, s)
  failed : failed = true → p.queue.work = [] ∧ origin ≠ some (k, s)
  own : k = .grid ∨ k = .help → table = [] ∨ origin = some (k, s)

namespace Stands

variable {k : OverlayKind} {s : Nat} {p : Panel k.Content k.Drawn} {table : List (Point Number)}
  {ended : Nat} {origin : Option (OverlayKind × Nat)} {failed : Bool}

/-- While there is work, the last task has not ended. -/
theorem not_yet (h : Stands k s p table ended origin failed) (work : p.queue.work ≠ []) :
    origin ≠ some (k, s) ∧ failed = false := by
  have more : 0 < p.queue.work.length := List.length_pos_iff.2 work
  have counted := h.counted
  refine ⟨?_, ?_⟩
  · intro done
    have before := (h.older _ done).2
    dsimp only at before
    omega
  · cases hf : failed with
    | false => rfl
    | true => exact absurd (h.failed hf).1 work

/-- Work changes hands without a task coming to its end. -/
theorem goOn {q : Panel k.Content k.Drawn} (h : Stands k s p table ended origin failed)
    (length : q.queue.work.length = p.queue.work.length)
    (last : ∀ t, q.queue.work.getLast? = some t → t.draws = true)
    (targets : p.queue.work = [] → k.targets q = k.targets p) :
    Stands k s q table ended origin failed := by
  have empty : q.queue.work = [] ↔ p.queue.work = [] := by
    rw [← List.length_eq_zero_iff, length, List.length_eq_zero_iff]
  refine ⟨by rw [length]; exact h.counted, last, h.unwritten, h.older, ?_, ?_, ?_, h.own⟩
  · intro done
    rw [h.written done]
    refine (targets (Classical.byContradiction fun work => ?_)).symm
    exact (h.not_yet work).1 done
  · intro work
    exact h.settled (empty.1 work)
  · intro hf
    exact ⟨empty.2 (h.failed hf).1, (h.failed hf).2⟩

/-- A task ends that did not put a table up: it is not the last one, or drawing failed. -/
theorem endTask {q : Panel k.Content k.Drawn} {stage : Stage k.Drawn}
    (h : Stands k s p table ended origin failed) (busy : p.queue.busy = some stage)
    (rest : q.queue.work = p.queue.pending) (told : Bool)
    (told_ : p.queue.pending = [] → told = true) :
    Stands k s q table (ended + 1) origin (told && some (k, s) == some (k, ended)) := by
  have work := RenderQueue.work_of_busy busy
  have counted := h.counted
  obtain ⟨before, -⟩ := h.not_yet (by rw [work]; exact List.cons_ne_nil _ _)
  rw [work, List.length_cons] at counted
  refine ⟨by rw [rest]; omega, ?_, h.unwritten, ?_, ?_, ?_, ?_, h.own⟩
  · intro t ht
    refine h.last t ?_
    rw [rest] at ht
    rw [work, List.getLast?_cons, ht]
    rfl
  · intro task ht
    have := h.older task ht
    exact ⟨this.1, by omega⟩
  · intro done
    exact absurd done before
  · intro empty
    rw [rest] at empty
    rw [empty, List.length_nil] at counted
    have now : s = ended := by omega
    exact .inl (by simp [told_ empty, now])
  · intro hf
    have now : s = ended := by simpa using (Bool.and_eq_true_iff.1 hf).2
    exact ⟨by rw [rest]; exact List.length_eq_zero_iff.1 (by omega), before⟩

/-- A task ends that put the targets into the table. -/
theorem publish {q : Panel k.Content k.Drawn} {stage : Stage k.Drawn}
    (h : Stands k s p table ended origin failed) (busy : p.queue.busy = some stage)
    (rest : q.queue.work = p.queue.pending)
    (own : k = .grid ∨ k = .help → p.queue.pending = [] ∨ k.targets q = []) :
    Stands k s q (k.targets q) (ended + 1) (some (k, ended)) false := by
  have work := RenderQueue.work_of_busy busy
  have counted := h.counted
  rw [work, List.length_cons] at counted
  have now : p.queue.pending = [] → ended = s := by
    intro empty
    rw [empty, List.length_nil] at counted
    omega
  refine ⟨by rw [rest]; omega, ?_, nofun, ?_, fun _ => rfl, ?_, nofun, ?_⟩
  · intro t ht
    refine h.last t ?_
    rw [rest] at ht
    rw [work, List.getLast?_cons, ht]
    rfl
  · intro task ht
    rw [← Option.some.inj ht]
    exact ⟨rfl, Nat.lt_succ_self ended⟩
  · intro empty
    rw [now (rest ▸ empty)]
    exact .inr rfl
  · intro alone
    rcases own alone with empty | none
    · rw [now empty]
      exact .inr rfl
    · exact .inl none

/-- A step of the queue keeps the watch in step with the overlay. -/
theorem step {g : Progress k.Content k.Drawn} (h : Stands k s p table ended origin failed)
    (outcome : StepOutcome p k.published g) (settles : k.Settles p g.panel) :
    Stands k s g.panel
      (if g.publications.any (·.isTable) then k.targets g.panel else table)
      (if p.queue.busy.isSome ∧ ¬ g.panel.queue.busy.isSome then ended + 1 else ended)
      (if g.publications.any (·.isTable) then some (k, ended) else origin)
      (failed || g.signals.any (·.tellsFailure) && some (k, s) == some (k, ended)) := by
  cases outcome with
  | took free =>
      simp only [free, List.any_nil, Bool.false_and, Bool.or_false, Option.isSome_none,
        Bool.false_eq_true, false_and, if_false]
      refine h.goOn (congrArg List.length p.queue.work_take) ?_ ?_
      · intro t ht
        dsimp only at ht
        rw [RenderQueue.work_take] at ht
        exact h.last t ht
      · intro _
        exact k.targets_queue p p.queue.take
  | @next stage s' g signals busy same quiet =>
      have work := RenderQueue.work_of_busy busy
      have more : p.queue.work ≠ [] := by
        rw [work]
        exact List.cons_ne_nil _ _
      simp only [busy, quiet, RenderQueue.continueWith, List.any_nil, Bool.false_and,
        Bool.or_false, Option.isSome_some, not_true_eq_false, and_false, Bool.false_eq_true,
        if_false]
      refine h.goOn ?_ ?_ fun empty => absurd empty more
      · rw [work]
        rfl
      · -- only the first task changed its stage
        intro t ht
        have last := h.last
        rw [work, List.getLast?_cons] at last
        rw [RenderQueue.work_of_busy rfl, List.getLast?_cons] at ht
        cases rest : p.queue.pending.getLast? with
        | none =>
            rw [rest] at ht last
            rw [← Option.some.inj ht, show (none : Option _).getD s' = s' from rfl, same]
            exact last stage rfl
        | some t' =>
            rw [rest] at ht last
            exact last t ht
  | @drawn stage g ps signals busy draws all quiet =>
      have task : p.queue.busy.isSome = true ∧ ¬ p.queue.release.busy.isSome = true := by
        rw [busy]
        exact ⟨rfl, Bool.false_ne_true⟩
      rw [OverlayKind.settles_queue] at settles
      simp only [if_pos task, quiet, Bool.false_and, Bool.or_false]
      obtain ⟨-, going⟩ := h.not_yet (by
        rw [RenderQueue.work_of_busy busy]
        exact List.cons_ne_nil _ _)
      rcases OverlayKind.published_cases settles busy draws h.last with
        ⟨more, said, -, own⟩ | ⟨silent, pending⟩
      · have table : ps.any (·.isTable) = true := by rw [all, said]; rfl
        simp only [table, if_true, OverlayKind.targets_queue, going]
        have put := h.publish (q := { g with queue := p.queue.release }) busy
          p.queue.work_release (by rw [OverlayKind.targets_queue]; exact own)
        rwa [OverlayKind.targets_queue] at put
      · have table : ps.any (·.isTable) = false := by rw [all, silent]; rfl
        simp only [table, Bool.false_eq_true, if_false, going]
        exact h.endTask busy p.queue.work_release false
          fun empty => absurd empty pending
  | @wiped stage g signals busy wipes quiet =>
      have task : p.queue.busy.isSome = true ∧ ¬ p.queue.release.busy.isSome = true := by
        rw [busy]
        exact ⟨rfl, Bool.false_ne_true⟩
      have work := RenderQueue.work_of_busy busy
      obtain ⟨-, going⟩ := h.not_yet (by
        rw [work]
        exact List.cons_ne_nil _ _)
      simp only [if_pos task, quiet, Bool.false_and, Bool.or_false, going]
      refine h.endTask busy p.queue.work_release false fun empty => ?_
      -- the last task draws, and so it is not this one
      have draws := h.last stage (by rw [work, empty]; rfl)
      rw [wipes] at draws
      cases draws
  | @failed stage g signals busy told =>
      have task : p.queue.busy.isSome = true ∧ ¬ p.queue.release.busy.isSome = true := by
        rw [busy]
        exact ⟨rfl, Bool.false_ne_true⟩
      obtain ⟨-, going⟩ := h.not_yet (by
        rw [RenderQueue.work_of_busy busy]
        exact List.cons_ne_nil _ _)
      simp only [if_pos task, going, Bool.false_or]
      exact h.endTask busy p.queue.work_release _ fun _ => told

end Stands

namespace Watched

/-- A watch and its coordinator are in step. -/
structure Tracked (w : Watched) : Prop where
  agrees : w.coordinator.Agrees
  open_ : w.coordinator.Open
  stands : ∀ k p, w.coordinator.current = some k → w.coordinator.panel? k = some p →
    ∃ s, w.latest = some (k, s) ∧
      Stands k s p w.coordinator.table (w.ended k) w.origin w.failed
  newest : ∀ g : GridPanel, w.coordinator.current = some .grid →
    w.coordinator.panel? .grid = some g → g.Newest

variable {w : Watched}

theorem tracked_start (o : Outfit) : (start o.coordinator).Tracked := by
  have down : o.coordinator.current = none := rfl
  refine ⟨Coordinator.agrees_coordinator o, ?_, ?_, ?_⟩
  · intro k p hp
    obtain ⟨q, hq, fresh⟩ := o.exists_panel?_coordinator k
    obtain rfl := Option.some.inj (hq.symm.trans hp)
    rw [fresh]
  · intro k p up
    exact absurd (down.symm.trans up) nofun
  · intro g up
    exact absurd (down.symm.trans up) nofun

theorem request_of_none (w : Watched) (accepted : Bool) {d : Coordinator}
    (down : d.current = none) : w.request accepted d =
      { w with coordinator := d, latest := none, origin := none, failed := false } := by
  unfold request
  rw [down]

theorem request_of_accepted (w : Watched) {d : Coordinator} {k : OverlayKind}
    (up : d.current = some k) : w.request true d =
      { w with
        coordinator := d, latest := some (k, w.ended k + (d.work k).length - 1), origin := none
        failed := false } := by
  unfold request
  rw [up]
  rfl

/-- With no overlay current there is nothing to watch. -/
theorem tracked_of_none {d : Coordinator} (agrees : d.Agrees) (open_ : d.Open)
    (down : d.current = none) (accepted : Bool) : (w.request accepted d).Tracked := by
  rw [request_of_none w accepted down]
  refine ⟨agrees, open_, ?_, ?_⟩
  · intro k p up
    rw [down] at up
    cases up
  · intro g up
    rw [down] at up
    cases up

/-- The task of an accepted show or refinement is the last one of its queue. -/
theorem tracked_of_asked {d : Coordinator} {k : OverlayKind} (agrees : d.Agrees) (open_ : d.Open)
    (asked : d.Asked k) : (w.request true d).Tracked := by
  obtain ⟨before, r, work⟩ := asked.last
  rw [request_of_accepted w asked.current]
  refine ⟨agrees, open_, ?_, ?_⟩
  · intro j p up hp
    obtain rfl := Option.some.inj (asked.current.symm.trans up)
    refine ⟨_, rfl, ?_⟩
    dsimp only at hp ⊢
    rw [Coordinator.work_of_panel hp] at work ⊢
    rw [asked.table]
    refine ⟨?_, ?_, fun _ => rfl, nofun, nofun, ?_, nofun, fun _ => .inl rfl⟩
    · rw [work, List.length_append, List.length_singleton]
      omega
    · intro t ht
      rw [work, List.getLast?_concat] at ht
      rw [← Option.some.inj ht]
      rfl
    · intro empty
      rw [work] at empty
      simp at empty
  · intro g up hg
    exact asked.newest g (Option.some.inj (asked.current.symm.trans up)) hg

/-- A request keeps the watch in step. -/
theorem Tracked.request (h : w.Tracked) {accepted : Bool} {d : Coordinator} (agrees : d.Agrees)
    (open_ : d.Open) (effect : Coordinator.Effect w.coordinator accepted d) :
    (w.request accepted d).Tracked := by
  rcases Coordinator.asked_of_effect h.open_ effect with ⟨rfl, k, asked⟩ | ⟨rfl, rfl | down⟩
  · exact tracked_of_asked agrees open_ asked
  · cases up : w.coordinator.current with
    | none => exact tracked_of_none agrees open_ up false
    | some k =>
        have same : w.request false w.coordinator = w := by
          unfold Watched.request
          rw [up]
          rfl
        rw [same]
        exact h
  · exact tracked_of_none agrees open_ down false

/-- A step of the grid's queue keeps what it has to while the grid is current. -/
theorem Tracked.settles (h : w.Tracked) (sources : Sources) {k : OverlayKind}
    {p : Panel k.Content k.Drawn} (up : w.coordinator.current = some k)
    (there : w.coordinator.panel? k = some p) :
    k.Settles p (p.advance k.drawing sources).panel := by
  cases k with
  | grid =>
      obtain ⟨-, content⟩ := GridPanel.advance_keeps sources p
      refine ⟨h.agrees.ordered there, h.newest p up there, ?_⟩
      show (Panel.advance GridPanel.drawing sources p).panel.content.logical = _
      rw [content]
  | elements | windows | help => trivial

/-- A step of the current overlay's queue is noted down as it happens. -/
theorem Tracked.stands_self (h : w.Tracked) (sources : Sources) {k : OverlayKind}
    {p : Panel k.Content k.Drawn} (up : w.coordinator.current = some k)
    (there : w.coordinator.panel? k = some p) :
    ∃ s, (w.advance sources k).latest = some (k, s) ∧
      Stands k s (p.advance k.drawing sources).panel (w.advance sources k).coordinator.table
        ((w.advance sources k).ended k) (w.advance sources k).origin
        (w.advance sources k).failed := by
  obtain ⟨s, latest, stands⟩ := h.stands k p up there
  have settles := h.settles sources up there
  have next := stands.step (k.advance_outcome sources p) settles
  have step := Coordinator.step_eq there sources
  have busy : (w.coordinator.step sources k).1.busy k =
      (p.advance k.drawing sources).panel.queue.busy.isSome := by
    refine Coordinator.busy_of_panel ?_
    rw [step, Coordinator.panel?_accept, Coordinator.panel?_setPanel_self]
  have table : (w.coordinator.step sources k).1.table =
      if (p.advance k.drawing sources).publications.any (·.isTable) then
        k.targets (p.advance k.drawing sources).panel
      else w.coordinator.table := by
    rw [step]
    rcases OverlayKind.publications_cases settles with silent | ⟨more, said, others⟩
    · simp [silent]
    · dsimp only
      rw [said, Coordinator.table_accept (by rw [Coordinator.current_setPanel, up]) _ others]
      rfl
  refine ⟨s, latest, ?_⟩
  rw [advance]
  dsimp only
  rw [table, busy, Coordinator.busy_of_panel there, Coordinator.publications_of_panel there,
    latest, step]
  simpa only [up, true_and] using next

/-- A step of a queue keeps the watch in step. -/
theorem Tracked.advance (h : w.Tracked) (sources : Sources) (j : OverlayKind) :
    (w.advance sources j).Tracked := by
  obtain ⟨q, hq⟩ := h.agrees.full j
  have step := Coordinator.step_eq hq sources
  have current : (w.coordinator.step sources j).1.current = w.coordinator.current := by
    rw [step, Coordinator.current_accept, Coordinator.current_setPanel]
  refine ⟨h.agrees.step sources j, h.open_.step sources j h.agrees.full, ?_, ?_⟩
  · intro k p up hp
    have up' : w.coordinator.current = some k := current.symm.trans up
    by_cases same : k = j
    · subst same
      have there : (w.coordinator.step sources k).1.panel? k =
          some (q.advance k.drawing sources).panel := by
        rw [step, Coordinator.panel?_accept, Coordinator.panel?_setPanel_self]
      obtain rfl := Option.some.inj (there.symm.trans hp)
      exact h.stands_self sources up' hq
    · -- the step belongs to an overlay that is not current
      have other : w.coordinator.current ≠ some j := by
        rw [up']
        exact fun h => same (Option.some.inj h)
      have there : (w.coordinator.step sources j).1.panel? k = w.coordinator.panel? k := by
        rw [step, Coordinator.panel?_accept, Coordinator.panel?_setPanel_of_ne _ same]
      have table : (w.coordinator.step sources j).1.table = w.coordinator.table := by
        rw [step]
        dsimp only
        rw [Coordinator.accept_of_ne (by simpa using other), Coordinator.table_setPanel]
      obtain ⟨s, latest, stands⟩ := h.stands k p up' (there.symm.trans hp)
      refine ⟨s, latest, ?_⟩
      have elsewhere : (some (k, s) == some (j, w.ended j)) = false := by simp [same]
      rw [Watched.advance]
      dsimp only
      rw [table, latest, elsewhere, if_neg (fun h => same h.1), if_neg (fun h => other h.1),
        Bool.and_false, Bool.or_false]
      exact stands
  · intro g up hg
    have up' := current.symm.trans up
    by_cases same : OverlayKind.grid = j
    · subst same
      have there : (w.coordinator.step sources .grid).1.panel? .grid =
          some (Panel.advance GridPanel.drawing sources q).panel := by
        rw [step, Coordinator.panel?_accept, Coordinator.panel?_setPanel_self]
        rfl
      obtain rfl := Option.some.inj (there.symm.trans hg)
      exact (h.newest q up' hq).advance sources
    · have there : (w.coordinator.step sources j).1.panel? .grid =
          w.coordinator.panel? .grid := by
        rw [step, Coordinator.panel?_accept, Coordinator.panel?_setPanel_of_ne _ same]
      exact h.newest g up' (there.symm.trans hg)

/-- The watch stays in step with its coordinator. -/
theorem Tracked.after (h : w.Tracked) (m : Move) : (w.after m).Tracked := by
  have agrees := h.agrees.after m
  have open_ := h.open_.after h.agrees m
  rcases Coordinator.effect_or_step h.agrees.full m with effect | ⟨sources, k, rfl, -⟩
  · have requested := h.request agrees open_ effect
    cases m with
    | advance sources k => exact h.advance sources k
    | _ => exact requested
  · exact h.advance sources k

theorem tracked_run (o : Outfit) (ms : List Move) : ((start o.coordinator).run ms).Tracked := by
  have all : ∀ (w : Watched), w.Tracked → (w.run ms).Tracked := by
    induction ms with
    | nil => exact fun w h => h
    | cons m ms ih => exact fun w h => ih (w.after m) (h.after m)
  exact all _ (tracked_start o)

/-! ## Drained queues -/

/-- The table is the one that the last accepted show or refinement put up, or there is none. -/
def UpToDate (w : Watched) : Prop := w.coordinator.table = [] ∨ w.origin = w.latest

/-- Once its task has ended, the last show or refinement has put the table up unless drawing failed
for it. -/
theorem Tracked.upToDate_iff (h : w.Tracked) (drained : w.coordinator.Drained) :
    w.UpToDate ↔ w.failed = false ∨ w.coordinator.table = [] := by
  cases up : w.coordinator.current with
  | none =>
      have empty := h.agrees.empty up
      exact ⟨fun _ => .inr empty, fun _ => .inl empty⟩
  | some k =>
      obtain ⟨p, there⟩ := h.agrees.full k
      obtain ⟨s, latest, stands⟩ := h.stands k p up there
      have work : p.queue.work = [] := by
        rw [← Coordinator.work_of_panel there]
        exact drained k
      unfold UpToDate
      rw [latest]
      refine ⟨?_, ?_⟩
      · rintro (empty | done)
        · exact .inr empty
        · cases hf : w.failed with
          | false => exact .inl rfl
          | true => exact absurd done (stands.failed hf).2
      · rintro (going | empty)
        · rcases stands.settled work with hf | done
          · rw [going] at hf
            cases hf
          · exact .inr done
        · exact .inl empty

/-- Where the table is up to date, it answers what the current overlay answers. -/
theorem Tracked.position?_eq (h : w.Tracked) (new : w.UpToDate) (n : Number) :
    w.coordinator.position? n =
      w.coordinator.current.bind fun k => w.coordinator.ownPosition? k n := by
  cases up : w.coordinator.current with
  | none => exact h.agrees.position?_of_none up n
  | some k =>
      obtain ⟨p, there⟩ := h.agrees.full k
      obtain ⟨s, latest, stands⟩ := h.stands k p up there
      rw [Coordinator.position?, up, Option.bind_some, Coordinator.published?_eq]
      rcases new with empty | done
      · rw [empty, targetAt_nil, Option.none_or]
      · rw [stands.written (done.trans latest), OverlayKind.targetAt_targets,
          Coordinator.ownPosition?_eq, there, Option.bind_some, Option.or_self]

/-- A table that is not up to date was put up by an earlier show of the same elements or windows. -/
theorem Tracked.origin_of_not_upToDate (h : w.Tracked) (old : ¬ w.UpToDate) :
    ∃ k s t, (k = .elements ∨ k = .windows) ∧ w.coordinator.current = some k ∧
      w.latest = some (k, s) ∧ w.origin = some (k, t) ∧ t < s := by
  unfold UpToDate at old
  rw [not_or] at old
  cases up : w.coordinator.current with
  | none => exact absurd (h.agrees.empty up) old.1
  | some k =>
      obtain ⟨p, there⟩ := h.agrees.full k
      obtain ⟨s, latest, stands⟩ := h.stands k p up there
      rw [latest] at old
      have kind : k = .elements ∨ k = .windows := by
        cases k with
        | grid => exact absurd (stands.own (.inl rfl)) (not_or.2 old)
        | elements => exact .inl rfl
        | windows => exact .inr rfl
        | help => exact absurd (stands.own (.inr rfl)) (not_or.2 old)
      cases origin : w.origin with
      | none => exact absurd (stands.unwritten origin) old.1
      | some task =>
          obtain ⟨j, t⟩ := task
          obtain ⟨same, before⟩ := stands.older _ origin
          dsimp only at same before
          subst same
          have counted := stands.counted
          have other : t ≠ s := by
            intro equal
            rw [origin, equal] at old
            exact old.2 rfl
          exact ⟨j, s, t, kind, rfl, latest, rfl, by omega⟩

/-- When all queues are drained, the table is that of the last accepted show or refinement unless
drawing failed for it and an earlier one had put up a table. While it is, numbers stand for what the
current overlay itself says. While it is not, it is an earlier table of the same elements or
windows. -/
theorem drained_upToDate_iff (o : Outfit) (ms : List Move) :
    let w := (start o.coordinator).run ms
    w.coordinator = o.coordinator.run ms ∧
      (w.coordinator.Drained →
        (w.UpToDate ↔ w.failed = false ∨ w.coordinator.table = []) ∧
        (w.UpToDate → ∀ n, w.coordinator.position? n =
          w.coordinator.current.bind fun k => w.coordinator.ownPosition? k n) ∧
        (¬ w.UpToDate → ∃ k s t, (k = .elements ∨ k = .windows) ∧
          w.coordinator.current = some k ∧ w.latest = some (k, s) ∧ w.origin = some (k, t) ∧
          t < s)) := by
  intro w
  have h : w.Tracked := tracked_run o ms
  refine ⟨coordinator_run _ ms, fun drained => ⟨h.upToDate_iff drained, h.position?_eq, ?_⟩⟩
  exact h.origin_of_not_upToDate

/-- Two elements next to each other. -/
def twoElements : Sources where
  elements := some { detect := fun _ => .ok [⟨⟨0, 0, 10, 10⟩, none⟩, ⟨⟨20, 0, 10, 10⟩, none⟩] }

/-- Overlays of which the elements fail to draw their second frame. -/
def secondDrawFails : Outfit where
  screen _ := ⟨1920, 1080⟩
  surface k := { failsDraw := fun n => k = .elements ∧ n = 1 }

/-- A single show of the elements, drawn to its end, supplies the targets. -/
theorem drained_upToDate_one_show :
    let w := (start secondDrawFails.coordinator).run
      (.reveal .elements none :: List.replicate 5 (.advance twoElements .elements))
    w.coordinator.Drained ∧ w.coordinator.current = some .elements ∧ w.UpToDate := by
  intro w
  have drained : w.coordinator.Drained := by
    intro k
    cases k <;> rfl
  have known := (drained_upToDate_iff secondDrawFails
    (.reveal .elements none :: List.replicate 5 (.advance twoElements .elements))).2 drained
  exact ⟨drained, rfl, known.1.2 (.inl rfl)⟩

/-- Two shows of the elements, the second of which asks for one element only and is not drawn: the
second element of the first show is still a target, though the overlay has no such element. -/
theorem drained_outdated_two_shows :
    let w := (start secondDrawFails.coordinator).run
      (.reveal .elements none ::
        .reveal .elements (some (.mapping [("maxElements", .number 1)])) ::
        List.replicate 7 (.advance twoElements .elements))
    w.coordinator.Drained ∧ w.latest = some (.elements, 1) ∧ w.origin = some (.elements, 0) ∧
      w.coordinator.position? 2 = some ⟨25, 5⟩ ∧
      w.coordinator.ownPosition? .elements 2 = none ∧ ¬ w.UpToDate := by
  intro w
  have drained : w.coordinator.Drained := by
    intro k
    cases k <;> rfl
  have answered : w.coordinator.position? 2 = some ⟨25, 5⟩ := by decide +kernel
  have unknown : w.coordinator.ownPosition? .elements 2 = none := by decide +kernel
  have table : w.coordinator.table ≠ [] := by decide +kernel
  refine ⟨drained, rfl, rfl, answered, unknown, ?_⟩
  rintro (empty | same)
  · exact table empty
  · exact absurd same (by decide +kernel)

end Watched

end VoiceControl
