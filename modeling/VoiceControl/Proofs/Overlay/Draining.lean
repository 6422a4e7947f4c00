import VoiceControl.Proofs.Overlay.Provenance

/-!
# Draining the queues

A queue that is left alone carries out its tasks and falls asleep. A task has at most three stages
and takes one step to be taken, every step of an awake queue leaves less to do, and a queue with
work is awake. The coordinator remembers which overlays were woken, so flushing it drains all of
them.
-/

namespace VoiceControl

namespace RenderQueue

variable {T : Type} {q : RenderQueue T}

theorem Served.work_eq_nil (h : q.Served) (asleep : q.awake = false) : q.work = [] := by
  cases work : q.hasWork with
  | true => exact absurd (asleep.symm.trans (h work)) Bool.false_ne_true
  | false => simpa [hasWork, RenderQueue.work] using work

theorem served_of_awake (awake : q.awake = true) : q.Served := fun _ => awake

end RenderQueue

namespace OverlayKind

/-! ## One queue -/

/-- The stages of a task from one of its stages on. -/
def stages : (k : OverlayKind) → Stage k.Drawn → Nat
  | .grid, .render (.draw _) => 2
  | .elements, .render (.detect _) => 3
  | .elements, .render (.draw ..) => 2
  | .windows, .render (.list _) => 3
  | .windows, .render (.draw _) => 2
  | .help, .render .draw => 2
  | _, .render _ => 1
  | _, .wipe => 2
  | _, .wiped => 1

/-- The steps that pending tasks take, with the steps in which they are taken. -/
def waiting (k : OverlayKind) : List (Stage k.Drawn) → Nat
  | [] => 0
  | s :: ss => k.stages s + 1 + k.waiting ss

/-- The steps that a queue takes until it is asleep. -/
def load (k : OverlayKind) (q : RenderQueue (Stage k.Drawn)) : Nat :=
  q.busy.elim 0 k.stages + k.waiting q.pending + if q.awake then 1 else 0

variable {k : OverlayKind} {sources : Sources} {p : Panel k.Content k.Drawn}

theorem stages_pos (k : OverlayKind) (s : Stage k.Drawn) : 0 < k.stages s := by
  rcases s with r | _ | _
  · cases k <;> cases r <;> simp [stages]
  · cases k <;> simp [stages]
  · cases k <;> simp [stages]

theorem stages_le (k : OverlayKind) (s : Stage k.Drawn) : k.stages s ≤ 3 := by
  rcases s with r | _ | _
  · cases k <;> cases r <;> simp [stages]
  · cases k <;> simp [stages]
  · cases k <;> simp [stages]

theorem eq_of_drawFrame_next {C R : Type} {q : Panel C R} {f : Frame} {r s : Stage R}
    {g : Progress C R} (h : q.drawFrame f r = (.next s, g)) : s = r := by
  unfold Panel.drawFrame at h
  split at h
  · exact (StageEnd.next.inj (congrArg Prod.fst h)).symm
  · cases h

theorem stages_of_next {stage s : Stage k.Drawn} {g : Progress k.Content k.Drawn}
    (h : p.perform k.drawing sources stage = (.next s, g)) : k.stages s < k.stages stage := by
  rcases stage with r | _ | _
  · cases k with
    | grid =>
        rcases r with t | t
        · rw [eq_of_drawFrame_next h]
          simp [stages]
        · cases h
    | elements =>
        rcases r with most | ⟨items, fallback⟩ | _
        · cases h
          simp [stages]
        · rw [eq_of_drawFrame_next h]
          simp [stages]
        · cases h
    | windows =>
        rcases r with most | items | _
        · simp only [Panel.perform, drawing, WindowPanel.drawing] at h
          split at h
          · cases h
            simp [stages]
          · split at h
            · cases h
              simp [stages]
            · cases h
        · rw [eq_of_drawFrame_next h]
          simp [stages]
        · cases h
    | help =>
        rcases r with _ | _
        · simp only [Panel.perform, drawing, HelpPanel.drawing] at h
          split at h
          · rw [eq_of_drawFrame_next h]
            simp [stages]
          · cases h
        · cases h
  · unfold Panel.perform at h
    dsimp only at h
    split at h
    · cases h
      cases k <;> simp [stages]
    · cases h
  · cases h

variable {q : RenderQueue (Stage k.Drawn)}

theorem load_of_asleep (served : q.Served) (asleep : q.awake = false) : k.load q = 0 := by
  have work := served.work_eq_nil asleep
  simp only [RenderQueue.work, List.append_eq_nil_iff, Option.toList_eq_nil_iff] at work
  simp [load, waiting, work, asleep]

theorem asleep_of_load (nothing : k.load q = 0) : q.awake = false := by
  cases awake : q.awake with
  | false => rfl
  | true => simp [load, awake] at nothing

theorem waiting_le (k : OverlayKind) (ss : List (Stage k.Drawn)) :
    k.waiting ss ≤ 4 * ss.length := by
  induction ss with
  | nil => exact Nat.le_refl 0
  | cons s ss ih =>
      have few := k.stages_le s
      simp only [waiting, List.length_cons]
      omega

theorem load_le (k : OverlayKind) (q : RenderQueue (Stage k.Drawn)) :
    k.load q ≤ 4 * q.pending.length + 4 := by
  have pending := k.waiting_le q.pending
  have busy : q.busy.elim 0 k.stages ≤ 3 := by
    cases q.busy with
    | none => exact Nat.zero_le 3
    | some t => exact k.stages_le t
  unfold load
  split <;> omega

/-- A step leaves less to do, unless there is nothing left. -/
theorem load_advance (p : Panel k.Content k.Drawn) (sources : Sources)
    (served : p.queue.Served) :
    (p.advance k.drawing sources).panel.queue.Served ∧
      k.load (p.advance k.drawing sources).panel.queue ≤ k.load p.queue - 1 := by
  have awake {stage : Stage k.Drawn} (busy : p.queue.busy = some stage) : p.queue.awake = true :=
    served (by simp [RenderQueue.hasWork, busy])
  rcases p.advance_cases k.drawing sources with ⟨free, h⟩ | ⟨stage, s, g, busy, hg, h⟩ |
    ⟨stage, g, busy, -, h⟩ | ⟨stage, g, busy, -, h⟩
  · rw [h]
    refine ⟨RenderQueue.served_take served, ?_⟩
    cases awake : p.queue.awake with
    | false =>
        -- an asleep queue stays as it is, and it has nothing to do
        have same : p.queue.take = p.queue := by simp [RenderQueue.take, awake]
        have nothing : k.load p.queue.take = 0 := by rw [same, load_of_asleep served awake]
        exact Nat.le_trans (Nat.le_of_eq nothing) (Nat.zero_le _)
    | true =>
        cases pending : p.queue.pending with
        | nil => simp [load, waiting, RenderQueue.take, awake, free, pending]
        | cons t ts =>
            simp only [load, waiting, RenderQueue.take, awake, free, pending, Option.elim_some,
              Option.elim_none, if_true]
            omega
  · rw [h]
    have less := stages_of_next hg
    refine ⟨RenderQueue.served_of_awake (awake busy), ?_⟩
    simp only [load, RenderQueue.continueWith, busy, awake busy, Option.elim_some, if_true]
    omega
  -- a task that ends had one more stage to go, whether it worked or failed
  all_goals
    rw [h]
    have pos := k.stages_pos stage
    refine ⟨RenderQueue.served_of_awake (awake busy), ?_⟩
    simp only [load, RenderQueue.release, busy, awake busy, Option.elim_some, Option.elim_none,
      if_true]
    omega

end OverlayKind

/-! ## All queues -/

namespace Coordinator

variable {c : Coordinator} {k : OverlayKind}

/-- Every queue with work is awake, and the coordinator knows the overlays that are. -/
structure Alert (c : Coordinator) : Prop where
  full : c.Full
  served : ∀ {k p}, c.panel? k = some p → p.queue.Served
  known : ∀ {k p}, c.panel? k = some p → p.queue.awake = true → k ∈ c.waking

theorem overlay?_of_panel {p : Panel k.Content k.Drawn} (h : c.panel? k = some p) :
    ∃ g, c.overlay? k = some g ∧ g.awake = p.queue.awake ∧ g.pending = p.queue.size := by
  cases k <;> simp only [panel?] at h <;>
    exact ⟨_, by simp only [overlay?, h]; rfl, rfl, rfl⟩

theorem mem_waking_noteAwake {p : Panel k.Content k.Drawn} (h : c.panel? k = some p)
    (j : OverlayKind) :
    j ∈ (c.noteAwake k).waking ↔ j ∈ c.waking ∨ j = k ∧ p.queue.awake = true := by
  obtain ⟨g, hg, awake, -⟩ := overlay?_of_panel h
  simp only [noteAwake, hg, awake]
  split <;> simp_all

theorem waking_setPanel (c : Coordinator) (k : OverlayKind) (p : Panel k.Content k.Drawn) :
    (c.setPanel k p).waking = c.waking := by
  cases k <;> rfl

/-- A new state of one overlay, with the overlays that are awake noted down. -/
theorem Alert.replace {d : Coordinator} {q : Panel k.Content k.Drawn} (h : c.Alert)
    (served : q.queue.Served) (there : ∀ j, d.panel? j = (c.setPanel k q).panel? j)
    (waking : ∀ j, j ∈ c.waking ∨ j = k ∧ q.queue.awake = true → j ∈ d.waking) : d.Alert := by
  refine ⟨fun j => ?_, fun {j r} hr => ?_, fun {j r} hr awake => ?_⟩
  · rw [there]
    exact h.full.setPanel k q j
  · rw [there] at hr
    exact forall_setPanel (P := fun _ r => r.queue.Served) served (fun _ _ _ => h.served) j r hr
  · rw [there] at hr
    refine forall_setPanel (P := fun j r => r.queue.awake = true → j ∈ d.waking) ?_ ?_ j r hr awake
    · exact fun awake => waking k (.inr ⟨rfl, awake⟩)
    · exact fun j r _ hr awake => waking j (.inl (h.known hr awake))

theorem Alert.lower {p : Panel k.Content k.Drawn} (there : c.panel? k = some p) (h : c.Alert) :
    (c.lowered k (k.conceal p).1).Alert := by
  refine h.replace ?_ (fun j => panel?_lowered ..) fun j known => ?_
  · rw [k.queue_conceal]
    exact RenderQueue.served_enqueue (h.served there) _
  · refine (mem_waking_noteAwake (panel?_setPanel_self c k _) j).2 ?_
    rwa [waking_setPanel]

theorem Alert.raise {p q : Panel k.Content k.Drawn} {options : Option Tree} {s : List Signal}
    (there : c.panel? k = some p) (accepted : k.present p options = .ok (q, s)) (h : c.Alert) :
    (c.raised k q).Alert := by
  refine h.replace ?_ (fun j => panel?_raised ..) fun j known => ?_
  · obtain ⟨r, queue⟩ := OverlayKind.queue_present accepted
    rw [queue]
    exact RenderQueue.served_enqueue (h.served there) _
  · refine (mem_waking_noteAwake (panel?_setPanel_self c k _) j).2 ?_
    rwa [waking_setPanel]

theorem Alert.narrow {g q : GridPanel} {cell : Number} {s : List Signal}
    (there : c.panel? .grid = some g) (accepted : g.refine? cell = some (q, s)) (h : c.Alert) :
    (c.narrowed q).Alert := by
  refine h.replace (k := .grid) ?_ (fun j => panel?_narrowed ..) fun j known => ?_
  · obtain ⟨state, -, rfl⟩ := GridPanel.transition_of_refine? accepted
    rw [GridPanel.transition_fst]
    exact RenderQueue.served_enqueue (h.served there) _
  · refine (mem_waking_noteAwake (panel?_setPanel_self c .grid q) j).2 ?_
    rwa [waking_setPanel]

theorem waking_accept (c : Coordinator) (k : OverlayKind) (ps : List Publication) :
    (ps.foldl (·.accept k ·) c).waking = c.waking := by
  induction ps generalizing c with
  | nil => rfl
  | cons p ps ih =>
      rw [List.foldl_cons, ih]
      unfold accept
      split
      · cases p <;> rfl
      · rfl

/-- A step of a queue wakes none. -/
theorem Alert.step (sources : Sources) (k : OverlayKind) (h : c.Alert) :
    (c.step sources k).1.Alert := by
  obtain ⟨p, hp⟩ := h.full k
  have served := h.served hp
  obtain ⟨served', less⟩ := OverlayKind.load_advance p sources served
  refine h.replace served' (fun j => by rw [step_eq hp, panel?_accept]) fun j known => ?_
  rw [step_eq hp, waking_accept, waking_setPanel]
  rcases known with known | ⟨rfl, awake'⟩
  · exact known
  · refine h.known hp ?_
    cases awake : p.queue.awake with
    | true => rfl
    | false =>
        rw [OverlayKind.load_of_asleep served awake] at less
        have asleep := OverlayKind.asleep_of_load (Nat.le_zero.1 less)
        exact absurd (asleep.symm.trans awake') Bool.false_ne_true

theorem Alert.after (h : c.Alert) (m : Move) : (c.after m).Alert :=
  after_keeps (fun h => h.full) (fun there _ => Alert.lower there)
    (fun there _ _ accepted => Alert.raise there accepted)
    (fun there _ accepted => Alert.narrow there accepted) (fun sources k h => h.step sources k) h m

theorem alert_coordinator (o : Outfit) : o.coordinator.Alert := by
  have fresh {k p} (hp : o.coordinator.panel? k = some p) : p.queue = {} := by
    obtain ⟨q, hq, queue⟩ := o.exists_panel?_coordinator k
    obtain rfl := Option.some.inj (hp.symm.trans hq)
    exact queue
  refine ⟨fun k => ?_, fun hp => ?_, fun hp awake => ?_⟩
  · obtain ⟨p, hp, -⟩ := o.exists_panel?_coordinator k
    exact ⟨p, hp⟩
  · rw [fresh hp]
    intro work
    cases work
  · rw [fresh hp] at awake
    cases awake

/-! ## Flushing -/

/-- A number of steps that is at least what is left to do drains a queue, and leaves the others as
they are. -/
theorem steps_drains (sources : Sources) {n : Nat} {p : Panel k.Content k.Drawn} (h : c.Alert)
    (there : c.panel? k = some p) (enough : k.load p.queue ≤ n) :
    (c.steps sources k n).1.Alert ∧
      (∃ q, (c.steps sources k n).1.panel? k = some q ∧ q.queue.awake = false) ∧
      ∀ j, j ≠ k → (c.steps sources k n).1.panel? j = c.panel? j := by
  induction n generalizing c p with
  | zero => exact ⟨h, ⟨p, there, OverlayKind.asleep_of_load (Nat.le_zero.1 enough)⟩, fun j _ => rfl⟩
  | succ n ih =>
      have less := (OverlayKind.load_advance p sources (h.served there)).2
      have there' : (c.step sources k).1.panel? k = some (p.advance k.drawing sources).panel := by
        rw [step_eq there, panel?_accept, panel?_setPanel_self]
      obtain ⟨alert, asleep, others⟩ := ih (h.step sources k) there' (by omega)
      refine ⟨alert, asleep, fun j other => ?_⟩
      show ((c.step sources k).1.steps sources k n).1.panel? j = _
      rw [others j other, step_eq there, panel?_accept, panel?_setPanel_of_ne c other]

/-- The queue of an overlay is asleep. -/
def Asleep (c : Coordinator) (k : OverlayKind) : Prop :=
  ∀ p, c.panel? k = some p → p.queue.awake = false

theorem panel?_waking (c : Coordinator) (waking : List OverlayKind) (k : OverlayKind) :
    ({ c with waking } : Coordinator).panel? k = c.panel? k := by
  cases k <;> rfl

theorem settle_drains (sources : Sources) (k : OverlayKind) (h : c.Alert) :
    (c.settle sources k).1.Alert ∧ (c.settle sources k).1.Asleep k ∧
      ∀ j, c.Asleep j → (c.settle sources k).1.Asleep j := by
  obtain ⟨p, hp⟩ := h.full k
  have enough : k.load p.queue ≤ c.stepsLeft k := by
    obtain ⟨g, hg, -, pending⟩ := overlay?_of_panel hp
    have most := k.load_le p.queue
    rw [stepsLeft, hg, Option.elim_some, pending, RenderQueue.size]
    omega
  obtain ⟨alert, ⟨q, hq, asleep⟩, others⟩ := steps_drains sources h hp enough
  show Alert { (c.steps sources k (c.stepsLeft k)).1 with waking := _ } ∧ Asleep _ k ∧ _
  have now : (c.settle sources k).1.Asleep k := by
    intro r hr
    rw [settle, panel?_waking] at hr
    rw [← Option.some.inj (hq.symm.trans hr)]
    exact asleep
  refine ⟨⟨fun j => ?_, fun hr => ?_, fun hr awake => ?_⟩, now, fun j before => ?_⟩
  · rw [panel?_waking]
    exact alert.full j
  · rw [panel?_waking] at hr
    exact alert.served hr
  · rename_i j r
    rw [panel?_waking] at hr
    -- only the overlay that was drained is struck off, and that one is asleep
    have other : j ≠ k := by
      rintro rfl
      rw [← Option.some.inj (hq.symm.trans hr), asleep] at awake
      cases awake
    exact (List.mem_erase_of_ne other).2 (alert.known hr awake)
  · by_cases same : j = k
    · exact same ▸ now
    · intro r hr
      rw [settle, panel?_waking] at hr
      exact before r (others j same ▸ hr)

theorem settleAll_drains (sources : Sources) (ks : List OverlayKind) (h : c.Alert) :
    (c.settleAll sources ks).1.Alert ∧
      ∀ j, c.Asleep j ∨ j ∈ ks → (c.settleAll sources ks).1.Asleep j := by
  induction ks generalizing c with
  | nil => exact ⟨h, fun j before => before.resolve_right List.not_mem_nil⟩
  | cons k ks ih =>
      obtain ⟨alert, now, others⟩ := settle_drains sources k h
      obtain ⟨last, asleep⟩ := ih alert
      refine ⟨last, fun j before => asleep j ?_⟩
      rcases before with before | mem
      · exact .inl (others j before)
      · rcases List.mem_cons.1 mem with rfl | mem
        · exact .inl now
        · exact .inr mem

/-- After any run, flushing drains all queues, whatever goes wrong while drawing. -/
theorem flush_drains (o : Outfit) (ms : List Move) (sources : Sources) :
    ((o.coordinator.run ms).flush sources).1.Drained := by
  have h : (o.coordinator.run ms).Alert := run_keeps (fun m h => h.after m) (alert_coordinator o) ms
  generalize o.coordinator.run ms = c at h
  obtain ⟨alert, asleep⟩ := settleAll_drains sources c.waking h
  intro k
  obtain ⟨p, hp⟩ := alert.full k
  rw [flush, work_of_panel hp]
  refine (alert.served hp).work_eq_nil (asleep k ?_ p hp)
  obtain ⟨q, hq⟩ := h.full k
  cases awake : q.queue.awake with
  | true => exact .inr (h.known hq awake)
  | false =>
      refine .inl fun r hr => ?_
      rw [← Option.some.inj (hq.symm.trans hr)]
      exact awake

/-! ## Flushing as a run -/

/-- Moves that are steps of queues. -/
def Steps (sources : Sources) (ms : List Move) : Prop := ∀ m ∈ ms, ∃ k, m = .advance sources k

theorem accept_waking (c : Coordinator) (waking : List OverlayKind) (k : OverlayKind)
    (ps : List Publication) :
    ps.foldl (·.accept k ·) { c with waking } = { ps.foldl (·.accept k ·) c with waking } := by
  induction ps generalizing c with
  | nil => rfl
  | cons p ps ih =>
      have first : ({ c with waking } : Coordinator).accept k p = { c.accept k p with waking } := by
        unfold accept
        dsimp only
        split
        · cases p <;> rfl
        · rfl
      rw [List.foldl_cons, List.foldl_cons, first, ih]

theorem setPanel_waking (c : Coordinator) (waking : List OverlayKind) (k : OverlayKind)
    (p : Panel k.Content k.Drawn) :
    ({ c with waking } : Coordinator).setPanel k p = { c.setPanel k p with waking } := by
  cases k <;> rfl

/-- Which overlays are remembered as awake has no part in drawing. -/
theorem step_waking (full : c.Full) (waking : List OverlayKind) (sources : Sources)
    (k : OverlayKind) :
    (({ c with waking } : Coordinator).step sources k).1 =
      { (c.step sources k).1 with waking } := by
  obtain ⟨p, hp⟩ := full k
  have hp' := (c.panel?_waking waking k).trans hp
  rw [step_eq hp, step_eq hp']
  dsimp only
  rw [setPanel_waking, accept_waking]

theorem run_waking (h : c.Alert) (waking : List OverlayKind) {sources : Sources} {ms : List Move}
    (steps : Steps sources ms) :
    ({ c with waking } : Coordinator).run ms = { c.run ms with waking } := by
  induction ms generalizing c with
  | nil => rfl
  | cons m ms ih =>
      obtain ⟨k, rfl⟩ := steps m List.mem_cons_self
      show (({ c with waking } : Coordinator).step sources k).1.run ms = _
      rw [step_waking h.full, ih (h.step sources k) fun m hm => steps m (List.mem_cons_of_mem _ hm)]
      rfl

theorem steps_eq_run (sources : Sources) (k : OverlayKind) (n : Nat) (c : Coordinator) :
    (c.steps sources k n).1 = c.run (List.replicate n (.advance sources k)) := by
  induction n generalizing c with
  | zero => rfl
  | succ n ih => exact ih (c.step sources k).1

/-- Flushing takes steps and forgets which overlays were awake. -/
theorem settleAll_eq_run (sources : Sources) (ks : List OverlayKind) (h : c.Alert) :
    ∃ ms waking, Steps sources ms ∧ (c.settleAll sources ks).1 = { c.run ms with waking } := by
  induction ks generalizing c with
  | nil => exact ⟨[], c.waking, fun m hm => absurd hm List.not_mem_nil, rfl⟩
  | cons k ks ih =>
      obtain ⟨alert, -, -⟩ := settle_drains sources k h
      obtain ⟨ms, waking, steps, settled⟩ := ih alert
      have first : Steps sources (List.replicate (c.stepsLeft k) (.advance sources k)) :=
        fun m hm => ⟨k, List.eq_of_mem_replicate hm⟩
      refine ⟨List.replicate (c.stepsLeft k) (.advance sources k) ++ ms, waking, ?_, ?_⟩
      · intro m hm
        exact (List.mem_append.1 hm).elim (first m) (steps m)
      · have drained : (c.run (List.replicate (c.stepsLeft k) (.advance sources k))).Alert :=
          run_keeps (fun m h => h.after m) h _
        have settle : (c.settle sources k).1 =
            { c.run (List.replicate (c.stepsLeft k) (.advance sources k)) with
              waking := (c.steps sources k (c.stepsLeft k)).1.waking.erase k } := by
          rw [← steps_eq_run]
          rfl
        show ((c.settle sources k).1.settleAll sources ks).1 = _
        rw [settled, settle, run_waking drained _ steps, run, run, run, List.foldl_append]

/-- After any run there are steps of the queues that drain all of them. -/
theorem run_drains (o : Outfit) (ms : List Move) (sources : Sources) :
    ∃ more, Steps sources more ∧ (o.coordinator.run (ms ++ more)).Drained := by
  have h : (o.coordinator.run ms).Alert := run_keeps (fun m h => h.after m) (alert_coordinator o) ms
  obtain ⟨more, waking, steps, flushed⟩ := settleAll_eq_run sources _ h
  refine ⟨more, steps, fun k => ?_⟩
  have drained := flush_drains o ms sources k
  rw [flush, flushed, work, panel?_waking] at drained
  rw [run, List.foldl_append]
  exact drained

end Coordinator

end VoiceControl
