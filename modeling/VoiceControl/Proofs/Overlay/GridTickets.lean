import VoiceControl.Proofs.Overlay.Moves

/-!
# Tickets of the grid overlay

Every accepted transition of a grid overlay gets a ticket of its own, and its frame keeps it. The
frames that are still under way carry tickets that rise in the order of the queue, none above the
newest one, and the newest one stands for the logical state. So a frame that finds its ticket to be
the newest publishes the logical state and nothing else.
-/

namespace VoiceControl

/-- The transition that a stage of drawing belongs to. -/
def GridStage.target : GridStage → Ticketed
  | .draw t => t
  | .publish t => t

/-- The transition whose frame a stage is about, if it is about one. -/
def Stage.target? : Stage GridStage → Option Ticketed
  | .render r => some r.target
  | _ => none

namespace GridPanel

/-- The transitions whose frames have not been drawn and published, oldest first. -/
def underway (p : GridPanel) : List Ticketed := p.queue.work.filterMap Stage.target?

/-- What the last stage of a frame publishes. -/
def published (stage : Stage GridStage) (p : GridPanel) : List Publication :=
  match stage.target? with
  | some t =>
      if t.ticket = p.content.logical.ticket then
        [.positions (targets t.state), .refinedCell t.state.parent?]
      else []
  | none => []

/-- The discipline of the tickets. -/
structure Ordered (p : GridPanel) : Prop where
  newest : p.content.logical.ticket = p.content.issued
  rising : p.underway.Pairwise fun s t => s.ticket < t.ticket
  bounded : ∀ t ∈ p.underway, t.ticket ≤ p.content.issued
  same : ∀ t ∈ p.underway, t.ticket = p.content.issued → t.state = p.content.logical.state

variable {p : GridPanel}

theorem ordered_of_fresh (idle : p.queue.work = [])
    (newest : p.content.logical.ticket = p.content.issued) : p.Ordered := by
  have nothing : p.underway = [] := by simp [underway, idle]
  refine ⟨newest, ?_, ?_, ?_⟩ <;> simp [nothing]

theorem underway_enqueue (content : GridContent) (s : Stage GridStage) :
    underway { p with content, queue := (p.queue.enqueue s).2 } =
      if p.queue.stopped then p.underway else p.underway ++ s.target?.toList := by
  cases h : p.queue.stopped with
  | true => simp [underway, RenderQueue.enqueue, h]
  | false => cases ht : s.target? <;> simp [underway, RenderQueue.work_enqueue h, ht]

theorem hide_fst (p : GridPanel) :
    p.hide.1 = { p with
      content := { p.content with
        logical := ⟨.unshown, p.content.issued + 1⟩, issued := p.content.issued + 1 }
      queue := (p.queue.enqueue .wipe).2 } := by
  rw [hide, Panel.request_fst]
  rfl

theorem transition_fst (p : GridPanel) (s : Grid.State Number) :
    (p.transition s).1 = { p with
      content := { p.content with
        logical := ⟨s, p.content.issued + 1⟩, issued := p.content.issued + 1 }
      queue := (p.queue.enqueue (.render (.draw ⟨s, p.content.issued + 1⟩))).2 } := by
  rw [transition, Panel.request_fst]
  rfl

theorem Ordered.hide (h : p.Ordered) : p.hide.1.Ordered := by
  have work : p.hide.1.underway = p.underway := by
    rw [hide_fst, underway_enqueue]
    simp [Stage.target?]
  have issued : p.hide.1.content.issued = p.content.issued + 1 := by rw [hide_fst]
  refine ⟨by rw [hide_fst], by rw [work]; exact h.rising, ?_, ?_⟩
  · intro t ht
    have := h.bounded t (work ▸ ht)
    omega
  · -- the new ticket is above all that are under way
    intro t ht equal
    have := h.bounded t (work ▸ ht)
    omega

theorem Ordered.transition (h : p.Ordered) (s : Grid.State Number) :
    (p.transition s).1.Ordered := by
  have member : ∀ t ∈ (p.transition s).1.underway,
      t ∈ p.underway ∨ t = ⟨s, p.content.issued + 1⟩ := by
    intro t ht
    rw [transition_fst, underway_enqueue] at ht
    split at ht
    · exact .inl ht
    · simpa [Stage.target?, GridStage.target] using ht
  have issued : (p.transition s).1.content.issued = p.content.issued + 1 := by
    rw [transition_fst]
  refine ⟨by rw [transition_fst], ?_, ?_, ?_⟩
  · rw [transition_fst, underway_enqueue]
    split
    · exact h.rising
    · simp only [Stage.target?, GridStage.target, Option.toList_some, List.pairwise_append]
      refine ⟨h.rising, by simp, ?_⟩
      intro a ha b hb
      have := h.bounded a ha
      simp only [List.mem_singleton] at hb
      subst hb
      show a.ticket < p.content.issued + 1
      omega
  · intro t ht
    rcases member t ht with ht | rfl
    · have := h.bounded t ht
      omega
    · exact Nat.le_of_eq issued.symm
  · intro t ht equal
    rcases member t ht with ht | rfl
    · have := h.bounded t ht
      omega
    · rw [transition_fst]

/-- A show that is accepted is a transition to a grid over the whole screen. -/
theorem transition_of_present {q : GridPanel} {options : Option Tree} {s : List Signal}
    (accepted : p.present options = .ok (q, s)) :
    ∃ size, p.requested options = .ok (Grid.whole p.screen size) ∧
      q = (p.transition (Grid.whole p.screen size)).1 := by
  unfold present at accepted
  cases requested : p.requested options with
  | error f => simp [requested, Except.map] at accepted
  | ok state =>
      have whole : ∃ size, state = Grid.whole p.screen size := by
        unfold GridPanel.requested Grid.show? at requested
        split at requested
        · simp at requested
        · split at requested
          · exact ⟨_, (Except.ok.inj requested).symm⟩
          · simp at requested
      obtain ⟨size, rfl⟩ := whole
      simp only [requested, Except.map, Except.ok.injEq] at accepted
      exact ⟨size, rfl, by rw [accepted]⟩

/-- A refinement that is accepted is a transition to the refined state. -/
theorem transition_of_refine? {q : GridPanel} {cell : Number} {s : List Signal}
    (accepted : p.refine? cell = some (q, s)) :
    ∃ state, p.content.logical.state.refine? cell = some state ∧ q = (p.transition state).1 := by
  obtain ⟨state, refined, moved⟩ := Option.map_eq_some_iff.1 accepted
  exact ⟨state, refined, by rw [moved]⟩

/-! ## Drawing -/

section Drawing

variable (sources : Sources) (stage : Stage GridStage)

/-- Drawing changes what was drawn and nothing that requests see. -/
theorem perform_keeps (p : GridPanel) :
    (p.perform drawing sources stage).2.panel.screen = p.screen ∧
      (p.perform drawing sources stage).2.panel.content =
        { p.content with drawn := (p.perform drawing sources stage).2.panel.content.drawn } := by
  rcases stage with (t | t) | _ | _
  · simp only [Panel.perform, drawing, Panel.drawFrame]
    split <;> exact ⟨rfl, rfl⟩
  · exact ⟨rfl, rfl⟩
  · simp only [Panel.perform]
    split <;> exact ⟨rfl, rfl⟩
  · exact ⟨rfl, rfl⟩

/-- The stages of one task are about one transition. -/
theorem target?_of_perform_next {p : GridPanel} {s : Stage GridStage}
    {g : Progress GridContent GridStage}
    (h : p.perform drawing sources stage = (.next s, g)) : s.target? = stage.target? := by
  rcases stage with (t | t) | _ | _
  · simp only [Panel.perform, drawing, Panel.drawFrame] at h
    split at h <;> simp only [Prod.mk.injEq, StageEnd.next.injEq, reduceCtorEq, false_and] at h
    rw [← h.1]
    rfl
  · simp [Panel.perform, drawing] at h
  · simp only [Panel.perform] at h
    split at h <;> simp only [Prod.mk.injEq, StageEnd.next.injEq, reduceCtorEq, false_and] at h
    rw [← h.1]
    rfl
  · simp [Panel.perform] at h

/-- The last stage of a frame publishes the state of its transition if that is the newest one. -/
theorem perform_outcome (p : GridPanel) :
    StageOutcome stage (published stage) (p.perform drawing sources stage) := by
  refine Panel.perform_outcome ?_
  rintro (t | t) rfl
  · exact Panel.drawFrame_outcome _ _ _ _
  · exact .drawn rfl rfl rfl

/-- A step of the queue changes nothing that requests see. -/
theorem advance_keeps (p : GridPanel) :
    (p.advance drawing sources).panel.screen = p.screen ∧
      (p.advance drawing sources).panel.content =
        { p.content with drawn := (p.advance drawing sources).panel.content.drawn } := by
  rcases p.advance_cases drawing sources with ⟨-, h⟩ | ⟨stage, s, g, -, hg, h⟩ |
    ⟨stage, g, -, hg, h⟩ | ⟨stage, g, -, hg, h⟩
  · rw [h]
    exact ⟨rfl, rfl⟩
  all_goals
    have kept := perform_keeps sources stage p
    rw [hg] at kept
    rw [h]
    exact kept

/-- A step of the queue goes on with the task at hand or ends it. -/
theorem underway_advance (p : GridPanel) :
    ∃ ended, p.underway = ended ++ underway (p.advance drawing sources).panel := by
  rcases p.advance_cases drawing sources with ⟨-, h⟩ | ⟨stage, s, g, hb, hg, h⟩ |
    ⟨stage, g, hb, hg, h⟩ | ⟨stage, g, hb, hg, h⟩
  · exact ⟨[], by rw [h]; simp [underway]⟩
  · refine ⟨[], ?_⟩
    have same := target?_of_perform_next sources stage hg
    rw [h]
    simp [underway, RenderQueue.work_of_busy hb, List.filterMap_cons, same]
  all_goals
    refine ⟨stage.target?.toList, ?_⟩
    rw [h]
    cases ht : stage.target? <;> simp [underway, RenderQueue.work_of_busy hb, ht]

theorem Ordered.advance {p : GridPanel} (h : p.Ordered) :
    Ordered (p.advance drawing sources).panel := by
  obtain ⟨ended, split⟩ := underway_advance sources p
  obtain ⟨-, content⟩ := advance_keeps sources p
  have member : ∀ t ∈ underway (p.advance drawing sources).panel, t ∈ p.underway := by
    intro t ht
    rw [split]
    exact List.mem_append_right ended ht
  refine ⟨?_, ?_, ?_, ?_⟩
  · rw [content]
    exact h.newest
  · have rising := h.rising
    rw [split, List.pairwise_append] at rising
    exact rising.2.1
  · intro t ht
    rw [content]
    exact h.bounded t (member t ht)
  · intro t ht equal
    rw [content] at equal ⊢
    exact h.same t (member t ht) equal

theorem advance_outcome (p : GridPanel) : StepOutcome p published (p.advance drawing sources) :=
  Panel.advance_outcome fun stage => perform_outcome sources stage p

/-- A stage of a frame under way publishes nothing, or what it publishes is the logical state. -/
theorem Ordered.published {p g : GridPanel} (h : p.Ordered) {stage : Stage GridStage}
    (busy : p.queue.busy = some stage) (kept : g.content.logical = p.content.logical) :
    published stage g = [] ∨
      published stage g = [.positions (targets p.content.logical.state),
        .refinedCell p.content.logical.state.parent?] := by
  unfold GridPanel.published
  cases ht : stage.target? with
  | none => exact .inl rfl
  | some t =>
      dsimp only
      split
      · rename_i newest
        have mem : t ∈ p.underway := by
          simp [underway, RenderQueue.work_of_busy busy, ht]
        rw [kept] at newest
        rw [h.same t mem (newest.trans h.newest)]
        exact .inr rfl
      · exact .inl rfl

/-- A step of the queue publishes nothing, or what it publishes is the logical state. -/
theorem Ordered.publications {p : GridPanel} (h : p.Ordered) :
    (p.advance drawing sources).publications = [] ∨
      (p.advance drawing sources).publications =
        [.positions (targets p.content.logical.state),
          .refinedCell p.content.logical.state.parent?] := by
  have outcome := advance_outcome sources p
  obtain ⟨-, content⟩ := advance_keeps sources p
  generalize p.advance drawing sources = progress at outcome content
  cases outcome with
  | took | next | wiped | failed => exact .inl rfl
  | drawn busy draws all =>
      dsimp only at content ⊢
      rw [all]
      exact h.published busy (by rw [content])

end Drawing

/-! ## The newest frame -/

variable {g : GridPanel} {stage : Stage GridStage}

/-- The frame that comes last is that of the newest transition. -/
def Newest (p : GridPanel) : Prop :=
  ∀ t, p.underway.getLast? = some t → t.ticket = p.content.issued

theorem newest_transition (open_ : p.queue.stopped = false) (s : Grid.State Number) :
    Newest (p.transition s).1 := by
  intro t ht
  rw [transition_fst, underway_enqueue] at ht
  simp only [open_, Stage.target?, GridStage.target, Bool.false_eq_true, if_false,
    Option.toList_some, List.getLast?_concat, Option.some.injEq] at ht
  rw [transition_fst, ← ht]

theorem Newest.advance (sources : Sources) (h : p.Newest) :
    Newest (p.advance drawing sources).panel := by
  obtain ⟨ended, split⟩ := underway_advance sources p
  obtain ⟨-, content⟩ := advance_keeps sources p
  intro t ht
  rw [content]
  refine h t ?_
  rw [split, List.getLast?_append, ht]
  rfl

theorem target?_of_draws (draws : stage.draws = true) : ∃ t, stage.target? = some t := by
  cases stage with
  | render r => exact ⟨r.target, rfl⟩
  | wipe | wiped => cases draws

/-- The last frame of all publishes the logical state. -/
theorem Ordered.published_of_last (h : p.Ordered) (newest : p.Newest)
    (busy : p.queue.busy = some stage) (draws : stage.draws = true) (alone : p.queue.pending = [])
    (kept : g.content.logical = p.content.logical) :
    GridPanel.published stage g = [.positions (targets g.content.logical.state),
      .refinedCell g.content.logical.state.parent?] := by
  obtain ⟨t, ht⟩ := target?_of_draws draws
  have underway : p.underway = [t] := by
    simp [underway, RenderQueue.work_of_busy busy, alone, ht]
  have ticket : t.ticket = p.content.issued := newest t (by rw [underway]; rfl)
  have state := h.same t (by rw [underway]; exact List.mem_singleton_self t) ticket
  unfold GridPanel.published
  rw [ht]
  dsimp only
  rw [kept, if_pos (ticket.trans h.newest.symm), state]

/-- A frame that another one comes after publishes nothing. -/
theorem Ordered.published_of_superseded (h : p.Ordered) (busy : p.queue.busy = some stage)
    {later : Stage GridStage} (pending : later ∈ p.queue.pending) (draws : later.draws = true)
    (kept : g.content.logical = p.content.logical) : GridPanel.published stage g = [] := by
  unfold GridPanel.published
  cases ht : stage.target? with
  | none => rfl
  | some t =>
      obtain ⟨t', ht'⟩ := target?_of_draws draws
      have underway : p.underway = t :: p.queue.pending.filterMap Stage.target? := by
        simp [underway, RenderQueue.work_of_busy busy, ht]
      have mem : t' ∈ p.queue.pending.filterMap Stage.target? :=
        List.mem_filterMap.2 ⟨later, pending, ht'⟩
      have below := h.rising
      rw [underway, List.pairwise_cons] at below
      have bounded := h.bounded t' (by rw [underway]; exact List.mem_cons_of_mem _ mem)
      have first := below.1 t' mem
      dsimp only
      rw [kept, h.newest, if_neg (by omega)]

end GridPanel

end VoiceControl
