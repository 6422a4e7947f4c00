import VoiceControl.Proofs.Overlay.Convergence
import VoiceControl.Proofs.Overlay.Furnishing

/-!
# From a request to its targets

A request for windows or elements waits for its turn. Then its source is asked, the answer is drawn,
and the targets that were drawn are published. Requests that came before it may fail or show
something else, and other overlays may be drawn in between; none of that is left once the last
request of the current overlay has run its course without a failing draw.

* `Course`: the stages of such a request, with the content and the table that it leads to.
* `Course.On`: how far the last request of an overlay has come, kept by every step of its queue.
* `Coordinator.Pursues.answers`: what is there when the queue is drained.
-/

namespace VoiceControl

/-- The course of a request: its source is asked, the answer is drawn, and what was drawn is
published. -/
structure Course {C R : Type} (d : Drawing C R) (sources : Sources) where
  /-- The screen for which the answer is worked out. -/
  screen : Screen Number
  ask : R
  draw : R
  publish : R
  /-- What the answer makes of a content. -/
  content : C → C
  frame : Frame
  table : List (Point Number)
  answered : ∀ p : Panel C R, p.screen = screen →
    ∃ signals, d.render sources p ask = (.next (.render draw), ⟨p, [], signals⟩)
  drawn : ∀ p : Panel C R, d.render sources p draw =
    Panel.drawFrame { p with content := content p.content } frame (.render publish)
  published : ∀ (p : Panel C R) (c : C), p.content = content c →
    d.render sources p publish = (.done, ⟨{ p with visible := true }, [.positions table], []⟩)

namespace Panel

variable {C R : Type} {d : Drawing C R} {sources : Sources} {p : Panel C R} {stage s : Stage R}
  {g : Progress C R}

theorem advance_of_next (busy : p.queue.busy = some stage)
    (performed : p.perform d sources stage = (.next s, g)) :
    p.advance d sources =
      ⟨{ g.panel with queue := p.queue.continueWith s }, g.publications, g.signals⟩ := by
  simp [advance, busy, performed]

theorem advance_of_done (busy : p.queue.busy = some stage)
    (performed : p.perform d sources stage = (.done, g)) :
    p.advance d sources =
      ⟨{ g.panel with queue := p.queue.release }, g.publications, g.signals⟩ := by
  simp [advance, busy, performed]

theorem advance_of_free (free : p.queue.busy = none) :
    p.advance d sources = ⟨{ p with queue := p.queue.take }, [], []⟩ := by
  simp [advance, free]

/-- While the consumer is at a task, the others wait. -/
theorem pending_advance (busy : p.queue.busy = some stage) :
    (p.advance d sources).panel.queue.pending = p.queue.pending := by
  rcases p.advance_cases d sources with ⟨free, -⟩ | ⟨_, s, g, -, -, h⟩ | ⟨_, g, -, -, h⟩ |
    ⟨_, g, -, -, h⟩
  · rw [busy] at free
    cases free
  all_goals
    rw [h]
    rfl

end Panel

/-- A consumer that is asleep takes nothing, and one that is awake takes the oldest task. -/
theorem RenderQueue.take_cases {T : Type} (q : RenderQueue T) (free : q.busy = none) :
    q.take.pending = q.pending ∧ q.take.busy = none ∨
      ∃ t, q.pending = t :: q.take.pending ∧ q.take.busy = some t := by
  unfold take
  split
  · rename_i t ts _ _ pending
    exact .inr ⟨t, pending, rfl⟩
  · exact .inl ⟨rfl, free⟩
  · exact .inl ⟨rfl, free⟩

namespace Course

variable {C R : Type} {d : Drawing C R} {sources : Sources} {r : Course d sources} {p : Panel C R}

/-- The content is one with the answer. -/
def Holds (r : Course d sources) (p : Panel C R) : Prop := ∃ c, p.content = r.content c

/-- How far the last request of an overlay has come. -/
inductive On (r : Course d sources) (p : Panel C R) : Prop
  | waiting (last : p.queue.pending.getLast? = some (.render r.ask))
  | asking (alone : p.queue.pending = []) (busy : p.queue.busy = some (.render r.ask))
  | drawing (alone : p.queue.pending = []) (busy : p.queue.busy = some (.render r.draw))
  | publishing (alone : p.queue.pending = []) (busy : p.queue.busy = some (.render r.publish))
      (holds : r.Holds p)
  | done (idle : p.queue.work = []) (holds : r.Holds p)

theorem on_request (open_ : p.queue.stopped = false) : r.On (p.request (.render r.ask)).1 := by
  rw [Panel.request_fst]
  exact .waiting (by simp [RenderQueue.enqueue, open_])

/-- An overlay that has come to the end of its work holds the answer. -/
theorem On.holds (h : r.On p) (idle : p.queue.work = []) : r.Holds p := by
  obtain ⟨free, nothing⟩ : p.queue.busy = none ∧ p.queue.pending = [] := by
    simpa [RenderQueue.work] using idle
  cases h with
  | waiting last => simp [nothing] at last
  | asking _ busy | drawing _ busy | publishing _ busy _ =>
      rw [free] at busy
      cases busy
  | done _ holds => exact holds

/-- What is published by a step after which an overlay has no work: the targets, or nothing where
there was no work before. -/
def Settles (r : Course d sources) (p : Panel C R) (g : Progress C R) : Prop :=
  g.panel.queue.work = [] →
    g.publications = [.positions r.table] ∨ p.queue.work = [] ∧ g.publications = []

/-- A step takes the last request further, if it is not a draw that fails. -/
theorem On.advance (h : r.On p) (screen : p.screen = r.screen)
    (works : p.queue.busy = some (.render r.draw) → p.surface.drawFails = false) :
    r.On (p.advance d sources).panel ∧ r.Settles p (p.advance d sources) := by
  cases h with
  | waiting last =>
      -- it goes on waiting, unless it is the only one and its turn has come
      cases busy : p.queue.busy with
      | some stage =>
          have same : (p.advance d sources).panel.queue.pending = p.queue.pending :=
            p.pending_advance busy
          refine ⟨.waiting (by rw [same]; exact last), fun idle => ?_⟩
          simp only [RenderQueue.work, List.append_eq_nil_iff] at idle
          rw [same.symm.trans idle.2] at last
          cases last
      | none =>
          rw [Panel.advance_of_free busy]
          rcases p.queue.take_cases busy with ⟨pending, -⟩ | ⟨t, pending, taken⟩
          · refine ⟨.waiting (by rw [← last, ← pending]), fun idle => ?_⟩
            simp only [RenderQueue.work, List.append_eq_nil_iff] at idle
            rw [pending.symm.trans idle.2] at last
            cases last
          · refine ⟨?_, fun idle => ?_⟩
            · cases rest : p.queue.take.pending with
              | nil =>
                  rw [pending, rest] at last
                  obtain rfl := Option.some.inj last
                  exact .asking rest taken
              | cons s ss =>
                  refine .waiting ?_
                  rw [pending, rest] at last
                  rw [← last, rest, List.getLast?_cons_cons]
            · simp [RenderQueue.work, taken] at idle
  | asking alone busy =>
      obtain ⟨signals, answered⟩ := r.answered p screen
      rw [Panel.advance_of_next busy answered]
      exact ⟨.drawing alone rfl, fun idle => by simp at idle⟩
  | drawing alone busy =>
      have draws := r.drawn p
      rcases Panel.drawFrame_cases { p with content := r.content p.content } r.frame
        (.render r.publish) with ⟨surface, -, h⟩ | ⟨failed, -⟩
      · rw [h] at draws
        rw [Panel.advance_of_next busy draws]
        exact ⟨.publishing alone rfl ⟨p.content, rfl⟩, fun idle => by simp at idle⟩
      · rw [show p.surface.drawFails = true from failed] at works
        cases works busy
  | publishing alone busy holds =>
      obtain ⟨c, content⟩ := holds
      rw [Panel.advance_of_done busy (r.published p c content)]
      exact ⟨.done (by simp [alone]) ⟨c, content⟩, fun _ => .inl rfl⟩
  | done idle holds =>
      have free : p.queue.busy = none := by
        simp only [RenderQueue.work, List.append_eq_nil_iff, Option.toList_eq_nil_iff] at idle
        exact idle.1
      rw [Panel.advance_of_free free]
      exact ⟨.done (by simp [idle]) holds, fun _ => .inr ⟨idle, rfl⟩⟩

/-- The stage that draws makes an attempt on the surface. -/
theorem attempts_of_draw (busy : p.queue.busy = some (.render r.draw)) :
    (p.advance d sources).panel.surface.drawAttempts = p.surface.drawAttempts + 1 := by
  have attempt : (p.perform d sources (.render r.draw)).2.panel.surface.drawAttempts =
      p.surface.drawAttempts + 1 := by
    show (d.render sources p r.draw).2.panel.surface.drawAttempts = _
    rw [r.drawn, Panel.surface_drawFrame]
    exact (p.surface.later_draw r.frame).2
  rcases p.advance_cases d sources with ⟨free, -⟩ | ⟨stage, s, g, now, hg, h⟩ |
    ⟨stage, g, now, hg, h⟩ | ⟨stage, g, now, hg, h⟩
  · rw [busy] at free
    cases free
  all_goals
    obtain rfl := Option.some.inj (busy.symm.trans now)
    rw [hg] at attempt
    rw [h]
    exact attempt

end Course

namespace Coordinator

variable {c d : Coordinator} {k : OverlayKind} {sources : Sources}

/-- No attempt to draw an overlay of a kind that was made on the way failed. -/
def DrawsWorked (k : OverlayKind) (c d : Coordinator) : Prop :=
  ∀ p q, c.panel? k = some p → d.panel? k = some q →
    ∀ n, p.surface.drawAttempts ≤ n → n < q.surface.drawAttempts → p.surface.failsDraw n = false

/-- On a surface on which every attempt works no attempt fails. -/
theorem Furnished.drawsWorked {o : Outfit} (h : c.Furnished o) (d : Coordinator)
    (never : ∀ n, (o.surface k).failsDraw n = false) : c.DrawsWorked k d := by
  intro p q hp _ n _ _
  have made : ∃ new, o.coordinator.panel? k = some new ∧ new.surface = o.surface k := by
    cases k <;> exact ⟨_, rfl, rfl⟩
  obtain ⟨new, hnew, surface⟩ := made
  obtain ⟨p', hp', keeps⟩ := h.kept k new hnew
  obtain rfl := Option.some.inj (hp.symm.trans hp')
  rw [keeps.surface.plan, surface]
  exact never n

/-- The current overlay is on the course of its last request, whose targets are in the table once
there is nothing left to do. -/
structure Pursues (c : Coordinator) (r : Course k.drawing sources) : Prop where
  full : c.Full
  up : c.current = some k
  on : ∀ {p}, c.panel? k = some p → p.screen = r.screen ∧ r.On p
  table : c.work k = [] → c.table = r.table

variable {r : Course k.drawing sources}

/-- A step of any queue keeps the overlay on its course, if it is not a draw of it that fails. -/
theorem Pursues.step (h : c.Pursues r) (j : OverlayKind)
    (works : ∀ p, j = k → c.panel? k = some p → p.queue.busy = some (.render r.draw) →
      p.surface.drawFails = false) : (c.step sources j).1.Pursues r := by
  obtain ⟨p, hp⟩ := h.full j
  obtain ⟨full, -⟩ := (drew_step sources j c).kept h.full
  have up := (current_step sources h.full j).trans h.up
  by_cases own : j = k
  · subst own
    obtain ⟨screen, on⟩ := h.on hp
    obtain ⟨on', settles⟩ := on.advance screen (works p rfl hp)
    have keeps := j.keeps_advance sources p
    refine ⟨full, up, fun {q} hq => ?_, fun idle => ?_⟩
    · rw [step_eq hp, panel?_accept, panel?_setPanel_self] at hq
      obtain rfl := Option.some.inj hq
      exact ⟨keeps.screen.trans screen, on'⟩
    · have there : (c.step sources j).1.panel? j = some (p.advance j.drawing sources).panel := by
        rw [step_eq hp, panel?_accept, panel?_setPanel_self]
      rw [work_of_panel there] at idle
      rw [step_eq hp]
      dsimp only
      rcases settles idle with published | ⟨before, silent⟩
      · rw [published]
        simp [accept, h.up]
      · rw [silent, List.foldl_nil, table_setPanel]
        exact h.table ((work_of_panel hp).trans before)
  · have dropped : c.current ≠ some j := by
      rw [h.up]
      exact fun same => own (Option.some.inj same).symm
    have same : (c.step sources j).1.panel? k = c.panel? k := by
      rw [step_eq hp, panel?_accept, panel?_setPanel_of_ne c (Ne.symm own)]
    have table : (c.step sources j).1.table = c.table := by
      rw [step_eq hp]
      dsimp only
      rw [accept_of_ne (by simpa using dropped), table_setPanel]
    refine ⟨full, up, fun hq => h.on (same ▸ hq), fun idle => ?_⟩
    rw [table]
    rw [work, same] at idle
    exact h.table idle

/-- Drawing keeps the overlay on its course as long as none of its draws fails. -/
theorem Pursues.drew (h : c.Pursues r) (drew : Drew sources c d) (worked : c.DrawsWorked k d) :
    d.Pursues r := by
  induction drew with
  | still => exact h
  | @after d m may before ih =>
      obtain ⟨j, rfl⟩ := may
      obtain ⟨p, hp⟩ := h.full k
      obtain ⟨q, hq, sofar⟩ := (before.kept h.full).2 k p hp
      obtain ⟨q', hq', now⟩ := kept_step (before.kept h.full).1 sources j k q hq
      -- the attempts made up to now are among all those that are made
      have earlier : c.DrawsWorked k d := by
        intro p₁ q₁ hp₁ hq₁ n least most
        obtain rfl := Option.some.inj (hq.symm.trans hq₁)
        exact worked p₁ q' hp₁ hq' n least (Nat.lt_of_lt_of_le most now.surface.attempts)
      refine (ih earlier).step j ?_
      rintro q₁ rfl hq₁ busy
      obtain rfl := Option.some.inj (hq.symm.trans hq₁)
      have there : (d.step sources j).1.panel? j = some (q.advance j.drawing sources).panel := by
        rw [step_eq hq, panel?_accept, panel?_setPanel_self]
      rw [Surface.drawFails, sofar.surface.plan]
      refine worked p _ hp there _ sofar.surface.attempts ?_
      rw [r.attempts_of_draw busy]
      exact Nat.lt_succ_self _
  | @remembered d waking before ih =>
      have same (j : OverlayKind) : ({ d with waking } : Coordinator).panel? j = d.panel? j :=
        panel?_waking d waking j
      have pursues := ih fun p q hp hq => worked p q hp ((same k).trans hq)
      refine ⟨fun j => ?_, pursues.up, fun hq => pursues.on ((same k).symm.trans hq),
        fun idle => ?_⟩
      · rw [same]
        exact pursues.full j
      · rw [work, same] at idle
        exact pursues.table idle

/-- Showing an overlay sets it on the course of the request. -/
theorem pursues_reveal {p : Panel k.Content k.Drawn} (full : c.Full)
    (there : c.panel? k = some p) (open_ : p.queue.stopped = false)
    (area : p.screen.hasArea = true) (screen : p.screen = r.screen)
    (asks : k.present p none = .ok (p.request (.render r.ask))) :
    (c.reveal k).coordinator.Pursues r := by
  have full' : (c.reveal k).coordinator.Full := (kept_after full (.reveal k none)).1
  have accepted : k.present p none =
      .ok ((p.request (.render r.ask)).1, (p.request (.render r.ask)).2) := asks
  rw [reveal_of_accepted there area accepted] at full' ⊢
  have now := (panel?_raised (c.makeRoom k).coordinator k k (p.request (.render r.ask)).1).trans
    (panel?_setPanel_self _ _ _)
  refine ⟨full', rfl, fun {q} hq => ?_, fun idle => ?_⟩
  · obtain rfl := Option.some.inj (now.symm.trans hq)
    refine ⟨?_, Course.on_request open_⟩
    rw [Panel.request_fst]
    exact screen
  · rw [work_of_panel now, Panel.request_fst] at idle
    simp [RenderQueue.work_enqueue open_] at idle

/-- The answer to a request is what is up. -/
structure Answers (c : Coordinator) (r : Course k.drawing sources) : Prop where
  up : c.current = some k
  panel : ∃ p x, c.panel? k = some p ∧ p.content = r.content x
  table : c.table = r.table

/-- When the queue is drained, the overlay has the answer as its content and its targets are in the
table. -/
theorem Pursues.answers (h : c.Pursues r) (drained : c.work k = []) : c.Answers r := by
  obtain ⟨p, hp⟩ := h.full k
  obtain ⟨x, content⟩ := (h.on hp).2.holds ((work_of_panel hp).symm.trans drained)
  exact ⟨h.up, ⟨p, x, hp, content⟩, h.table drained⟩

end Coordinator

/-! ## Windows and elements -/

/-- The course of a request for windows: the source lists them, and they get their numbers. -/
def WindowPanel.course {sources : Sources} {source : WindowSource} {most : Number}
    {ws : List WindowInfo} (screen : Screen Number) (there : sources.windows = some source)
    (answer : source.list most = .ok ws) : Course drawing sources where
  screen := screen
  ask := .list most
  draw := .draw (listed screen (ws.take (most.cut ws.length)))
  publish := .publish
  content c := { c with items := listed screen (ws.take (most.cut ws.length)) }
  frame := .windows (listed screen (ws.take (most.cut ws.length)))
  table := (listed screen (ws.take (most.cut ws.length))).map (·.entry)
  answered p hp := ⟨[.inquiry (.most most)], by simp only [drawing, there, answer, hp]⟩
  drawn _ := rfl
  published p c hp := by simp [drawing, hp]

/-- The elements that are shown when a source was asked for some: those it found, or else the cells
that stand in for them. -/
def ElementPanel.answer (screen : Screen Number) (source : Option ElementSource) (most : Number) :
    List NumberedElement :=
  let found := (detect source most).1
  if found.isEmpty then fallbackItems screen else numbered found

/-- The course of a request for elements, whatever their source does. -/
def ElementPanel.course (sources : Sources) (screen : Screen Number) (most : Number) :
    Course drawing sources where
  screen := screen
  ask := .detect most
  draw := .draw (answer screen sources.elements most) (detect sources.elements most).1.isEmpty
  publish := .publish
  content c := { c with items := answer screen sources.elements most }
  frame := .elements (answer screen sources.elements most)
    (detect sources.elements most).1.isEmpty
  table := (answer screen sources.elements most).map fun e => e.center.round
  answered p hp := ⟨(detect sources.elements most).2, by simp only [drawing, answer, hp]⟩
  drawn _ := rfl
  published p c hp := by simp [drawing, hp]

end VoiceControl
