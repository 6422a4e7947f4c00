import VoiceControl.Overlay.RenderQueue

/-!
# The discipline of the render queue

A render queue is watched in use. Whoever asks for work adds tasks or stops the queue, at any time
and also from within a task. A consumer sets out when a task comes in and the queue is not awake; it
looks for a task, is at it until it ends, whether it worked or failed, and goes off when it finds
nothing pending. How many consumers there are is left to these rules, and their turns come in any
order.

* `Attended.Orderly`: there is one consumer while the queue is awake and none while it sleeps, so a
  pending task is never without a consumer and tasks are carried out one at a time, in the order in
  which they were accepted.
* `Attended.Orderly.run_serve`: what is pending gets done once the consumer has had its turns.
* `Attended.Orderly.run_of_stopped`: a stopped queue starts nothing and accepts nothing any more.
* `Attended.Alike.run`: what the tasks come to makes no difference to whoever asks for work.
* `Attended.run_discipline`: all of this of every run, from a queue that was never used.
-/

namespace VoiceControl

/-! ## What is observed -/

/-- Something observed of a queue in use. -/
inductive QueueEvent (T : Type) where
  | accepted (t : T)
  | dropped (t : T)
  | started (t : T)
  | ended (t : T) (worked : Bool)

namespace QueueEvent

variable {T : Type}

@[simp] def accepted? : QueueEvent T → Option T
  | .accepted t => some t
  | _ => none

@[simp] def dropped? : QueueEvent T → Option T
  | .dropped t => some t
  | _ => none

@[simp] def started? : QueueEvent T → Option T
  | .started t => some t
  | _ => none

/-- Whether an event is the start or the end of a task. -/
@[simp] def isCall : QueueEvent T → Bool
  | .started _ | .ended .. => true
  | _ => false

/-- The start and the end of a task. -/
def call (t : T) (worked : Bool) : List (QueueEvent T) := [.started t, .ended t worked]

end QueueEvent

/-- What was observed of a queue, oldest first. -/
abbrev QueueLog (T : Type) := List (QueueEvent T)

namespace QueueLog

variable {T : Type}

def accepted (l : QueueLog T) : List T := l.filterMap QueueEvent.accepted?

def dropped (l : QueueLog T) : List T := l.filterMap QueueEvent.dropped?

def started (l : QueueLog T) : List T := l.filterMap QueueEvent.started?

/-- The starts and ends of tasks, in their order. -/
def calls (l : QueueLog T) : QueueLog T := l.filter QueueEvent.isCall

theorem filterMap_concat (f : QueueEvent T → Option T) (l : QueueLog T) (e : QueueEvent T) :
    (l ++ [e]).filterMap f = l.filterMap f ++ (f e).toList := by
  cases h : f e <;> simp [h]

@[simp] theorem accepted_concat (l : QueueLog T) (e : QueueEvent T) :
    accepted (l ++ [e]) = l.accepted ++ e.accepted?.toList := filterMap_concat _ l e

@[simp] theorem dropped_concat (l : QueueLog T) (e : QueueEvent T) :
    dropped (l ++ [e]) = l.dropped ++ e.dropped?.toList := filterMap_concat _ l e

@[simp] theorem started_concat (l : QueueLog T) (e : QueueEvent T) :
    started (l ++ [e]) = l.started ++ e.started?.toList := filterMap_concat _ l e

@[simp] theorem calls_concat (l : QueueLog T) (e : QueueEvent T) :
    calls (l ++ [e]) = l.calls ++ if e.isCall then [e] else [] := by
  cases e <;> simp [calls]

end QueueLog

/-- A queue in use, with the consumers that are under way and what was observed. -/
structure Attended (T : Type) where
  queue : RenderQueue T := {}
  /-- Each consumer with the task that it is at, if it is at one. -/
  consumers : List (Option T) := []
  log : QueueLog T := []

/-- Something that happens to a queue. -/
inductive QueueTurn (T : Type) where
  | enqueue (t : T)
  | stop
  /-- A consumer without a task looks for one. -/
  | look (i : Nat)
  /-- The task of a consumer ends. -/
  | finish (i : Nat) (worked : Bool)

namespace QueueTurn

variable {T : Type}

def asked? : QueueTurn T → Option T
  | .enqueue t => some t
  | _ => none

/-- The same turn where any task that ends with it ends as told. -/
def ending (worked : Bool) : QueueTurn T → QueueTurn T
  | .finish i _ => .finish i worked
  | turn => turn

end QueueTurn

namespace Attended

variable {T : Type}

/-- A task comes in. It wakes the queue unless it is dropped, and a consumer sets out for a queue
that was asleep. -/
def enqueue (s : Attended T) (t : T) : Attended T :=
  match s.queue.enqueue t with
  | (true, q) =>
      { queue := q
        consumers := if s.queue.awake then s.consumers else s.consumers ++ [none]
        log := s.log ++ [.accepted t] }
  | (false, q) => { s with queue := q, log := s.log ++ [.dropped t] }

/-- A consumer that is at nothing takes the oldest pending task, or goes off when there is none. -/
def look (s : Attended T) (i : Nat) : Attended T :=
  match s.consumers[i]? with
  | some none =>
      let q := { s.queue with busy := none }.take
      match q.busy with
      | some t =>
          { queue := q, consumers := s.consumers.set i (some t), log := s.log ++ [.started t] }
      | none => { s with queue := q, consumers := s.consumers.eraseIdx i }
  | _ => s

def finish (s : Attended T) (i : Nat) (worked : Bool) : Attended T :=
  match s.consumers[i]? with
  | some (some t) =>
      { queue := { s.queue with busy := some t }.release
        consumers := s.consumers.set i none
        log := s.log ++ [.ended t worked] }
  | _ => s

def after (s : Attended T) : QueueTurn T → Attended T
  | .enqueue t => s.enqueue t
  | .stop => { s with queue := s.queue.stop }
  | .look i => s.look i
  | .finish i worked => s.finish i worked

def run (s : Attended T) (ts : List (QueueTurn T)) : Attended T := ts.foldl after s

theorem run_append (s : Attended T) (ts us : List (QueueTurn T)) :
    s.run (ts ++ us) = (s.run ts).run us := List.foldl_append

/-! ## One consumer -/

/-- The discipline of a queue in use. -/
structure Orderly (s : Attended T) : Prop where
  /-- A consumer is under way while the queue is awake, and never a second one. -/
  alone : s.consumers = if s.queue.awake then [s.queue.busy] else []
  /-- What is pending has a consumer. -/
  served : s.queue.pending ≠ [] → s.queue.awake = true
  /-- A queue sleeps only when it is at nothing. -/
  asleep : s.queue.awake = false → s.queue.busy = none
  /-- A task starts when the one before has ended, and each ends once. -/
  calls : ∃ done : List (T × Bool),
    s.log.calls = done.flatMap (fun d => QueueEvent.call d.1 d.2) ++
      s.queue.busy.toList.map .started ∧
    s.log.started = done.map Prod.fst ++ s.queue.busy.toList
  /-- Tasks start in the order in which they were accepted. -/
  inOrder : s.log.started ++ s.queue.pending <+: s.log.accepted
  /-- Without a stop none is left out. -/
  whole : s.queue.stopped = false →
    s.log.started ++ s.queue.pending = s.log.accepted ∧ s.log.dropped = []
  /-- A stopped queue has nothing pending. -/
  closed : s.queue.stopped = true → s.queue.pending = []

/-- All that a turn can do to a queue in good order. -/
inductive Effect (s : Attended T) : QueueTurn T → Attended T → Prop
  | none {turn} (idle : turn.asked? = none) : Effect s turn s
  | accept {t} (open_ : s.queue.stopped = false) : Effect s (.enqueue t)
      { queue := { s.queue with pending := s.queue.pending ++ [t], awake := true }
        consumers := if s.queue.awake then s.consumers else s.consumers ++ [Option.none]
        log := s.log ++ [.accepted t] }
  | drop {t} (stopped : s.queue.stopped = true) : Effect s (.enqueue t)
      { s with log := s.log ++ [.dropped t] }
  | stop : Effect s .stop { s with queue := s.queue.stop }
  | start {t ts} (awake : s.queue.awake = true) (free : s.queue.busy = Option.none)
      (pending : s.queue.pending = t :: ts) : Effect s (.look 0)
      { queue := { s.queue with pending := ts, busy := some t }
        consumers := [some t]
        log := s.log ++ [.started t] }
  | leave (awake : s.queue.awake = true) (free : s.queue.busy = Option.none)
      (pending : s.queue.pending = []) : Effect s (.look 0)
      { s with queue := { s.queue with awake := false }, consumers := [] }
  | finish {t worked} (awake : s.queue.awake = true) (busy : s.queue.busy = some t) :
      Effect s (.finish 0 worked)
      { queue := { s.queue with busy := Option.none }
        consumers := [Option.none]
        log := s.log ++ [.ended t worked] }

variable {s d : Attended T} {turn : QueueTurn T}

theorem orderly_start : Orderly ({} : Attended T) where
  alone := rfl
  served h := absurd rfl h
  asleep _ := rfl
  calls := ⟨[], rfl, rfl⟩
  inOrder := List.nil_prefix
  whole _ := ⟨rfl, rfl⟩
  closed _ := rfl

/-- The only consumer there can be is the first one. -/
theorem Orderly.consumer? (h : s.Orderly) {i : Nat} {task : Option T}
    (there : s.consumers[i]? = some task) :
    i = 0 ∧ s.queue.awake = true ∧ s.queue.busy = task := by
  rw [h.alone] at there
  cases awake : s.queue.awake with
  | false => simp [awake] at there
  | true =>
      simp only [awake, if_true] at there
      cases i with
      | zero => exact ⟨rfl, rfl, Option.some.inj there⟩
      | succ i => simp at there

theorem Orderly.consumers_of_awake (h : s.Orderly) (awake : s.queue.awake = true) :
    s.consumers = [s.queue.busy] := by
  rw [h.alone, awake, if_pos rfl]

/-- A consumer takes the oldest pending task. -/
theorem Orderly.look_of_cons (h : s.Orderly) (awake : s.queue.awake = true)
    (free : s.queue.busy = none) {t : T} {ts : List T} (pending : s.queue.pending = t :: ts) :
    s.look 0 =
      { queue := { s.queue with pending := ts, busy := some t }
        consumers := [some t]
        log := s.log ++ [.started t] } := by
  simp [look, h.consumers_of_awake awake, free, RenderQueue.take, awake, pending]

/-- A consumer that finds nothing goes off. -/
theorem Orderly.look_of_nil (h : s.Orderly) (awake : s.queue.awake = true)
    (free : s.queue.busy = none) (pending : s.queue.pending = []) :
    s.look 0 = { s with queue := { s.queue with awake := false }, consumers := [] } := by
  simp [look, h.consumers_of_awake awake, free, RenderQueue.take, awake, pending]

theorem Orderly.finish_of_busy (h : s.Orderly) (awake : s.queue.awake = true) {t : T}
    (busy : s.queue.busy = some t) (worked : Bool) :
    s.finish 0 worked =
      { queue := { s.queue with busy := none }
        consumers := [none]
        log := s.log ++ [.ended t worked] } := by
  simp [finish, h.consumers_of_awake awake, busy, RenderQueue.release]

/-- The effects are all there are. -/
theorem Orderly.effect (h : s.Orderly) (turn : QueueTurn T) : s.Effect turn (s.after turn) := by
  cases turn with
  | enqueue t =>
      show s.Effect _ (s.enqueue t)
      cases stopped : s.queue.stopped with
      | true =>
          simp only [enqueue, RenderQueue.enqueue, stopped, if_true]
          exact .drop stopped
      | false =>
          simp only [enqueue, RenderQueue.enqueue, stopped, Bool.false_eq_true, if_false]
          rw [← stopped]
          exact .accept stopped
  | stop => exact .stop
  | look i =>
      show s.Effect _ (s.look i)
      cases there : s.consumers[i]? with
      | none =>
          have same : s.look i = s := by simp [look, there]
          rw [same]
          exact .none rfl
      | some task =>
          obtain ⟨rfl, awake, at_⟩ := h.consumer? there
          cases task with
          | some t =>
              -- a consumer that is at a task does not look for another one
              have same : s.look 0 = s := by simp [look, there]
              rw [same]
              exact .none rfl
          | none =>
              cases pending : s.queue.pending with
              | nil =>
                  rw [h.look_of_nil awake at_ pending]
                  exact .leave awake at_ pending
              | cons t ts =>
                  rw [h.look_of_cons awake at_ pending]
                  exact .start awake at_ pending
  | finish i worked =>
      show s.Effect _ (s.finish i worked)
      cases there : s.consumers[i]? with
      | none =>
          have same : s.finish i worked = s := by simp [finish, there]
          rw [same]
          exact .none rfl
      | some task =>
          obtain ⟨rfl, awake, at_⟩ := h.consumer? there
          cases task with
          | none =>
              -- nor does one without a task end any
              have same : s.finish 0 worked = s := by simp [finish, there]
              rw [same]
              exact .none rfl
          | some t =>
              rw [h.finish_of_busy awake at_]
              exact .finish awake at_

theorem Orderly.of_effect (h : s.Orderly) (effect : s.Effect turn d) : d.Orderly := by
  obtain ⟨done, calls, begun⟩ := h.calls
  cases effect with
  | none => exact h
  | @accept t open_ =>
      obtain ⟨whole, kept⟩ := h.whole open_
      have all : s.log.started ++ (s.queue.pending ++ [t]) = s.log.accepted ++ [t] := by
        rw [← List.append_assoc, whole]
      refine ⟨?_, fun _ => rfl, nofun, ⟨done, ?_, ?_⟩, ?_, fun _ => ?_, fun closed => ?_⟩
      · -- a second consumer would set out only while the first is not under way
        cases awake : s.queue.awake with
        | true => simp [h.alone, awake]
        | false => simp [h.alone, awake, h.asleep awake]
      · simpa using calls
      · simpa using begun
      · simp [all]
      · simp [all, kept]
      · exact absurd (open_.symm.trans closed) nofun
  | drop stopped =>
      refine ⟨h.alone, h.served, h.asleep, ?_, ?_, fun open_ => ?_, h.closed⟩
      · simpa using h.calls
      · simpa using h.inOrder
      · exact absurd (stopped.symm.trans open_) nofun
  | stop =>
      -- what was pending is accepted and never started
      have before : s.log.started <+: s.log.accepted := (List.prefix_append _ _).trans h.inOrder
      refine ⟨h.alone, fun pending => absurd rfl pending, h.asleep, h.calls, ?_, nofun,
        fun _ => rfl⟩
      simpa [RenderQueue.stop] using before
  | @start t ts awake free pending =>
      -- the task moves from the pending ones to the started ones
      have moved : s.log.started ++ [t] ++ ts = s.log.started ++ s.queue.pending := by
        simp [pending]
      refine ⟨by simp [awake], fun _ => awake, fun sleeps => ?_, ⟨done, ?_, ?_⟩, ?_, ?_,
        fun closed => ?_⟩
      · exact absurd (awake.symm.trans sleeps) nofun
      · simp [calls, free]
      · simp [begun, free]
      · simpa [moved] using h.inOrder
      · simpa [moved] using h.whole
      · exact absurd (pending.symm.trans (h.closed closed)) nofun
  | leave awake free pending =>
      exact ⟨rfl, fun more => absurd pending more, fun _ => free, h.calls, h.inOrder, h.whole,
        h.closed⟩
  | @finish t worked awake busy =>
      refine ⟨by simp [awake], h.served, fun _ => rfl, ⟨done ++ [(t, worked)], ?_, ?_⟩, ?_, ?_,
        h.closed⟩
      · simp [calls, busy, QueueEvent.call]
      · simp [begun, busy]
      · simpa using h.inOrder
      · simpa using h.whole

theorem Orderly.after (h : s.Orderly) (turn : QueueTurn T) : (s.after turn).Orderly :=
  h.of_effect (h.effect turn)

theorem Orderly.run (h : s.Orderly) (ts : List (QueueTurn T)) : (s.run ts).Orderly := by
  induction ts generalizing s with
  | nil => exact h
  | cons t ts ih => exact ih (h.after t)

theorem orderly_run (ts : List (QueueTurn T)) : (({} : Attended T).run ts).Orderly :=
  orderly_start.run ts

/-! ## Getting everything done -/

/-- The turns of a consumer that is at nothing and left alone: each task that it takes ends as told,
and at last it looks in vain. -/
def rounds : List Bool → List (QueueTurn T)
  | [] => [.look 0]
  | worked :: more => .look 0 :: .finish 0 worked :: rounds more

/-- The turns of a consumer that is left alone: the task at hand ends before it takes others. -/
def serve (worked : Bool) (more : List Bool) : List (QueueTurn T) :=
  .finish 0 worked :: rounds more

theorem stop_not_mem_serve (worked : Bool) (more : List Bool) :
    (.stop : QueueTurn T) ∉ serve worked more := by
  have quiet : (.stop : QueueTurn T) ∉ rounds more := by
    induction more with
    | nil => simp [rounds]
    | cons w ws ih => simp [rounds, ih]
  simp [serve, quiet]

/-- All that was pending has been started since, and the queue sleeps. -/
structure Finished (s d : Attended T) : Prop where
  asleep : d.queue.awake = false
  accepted : d.log.accepted = s.log.accepted
  started : d.log.started = s.log.started ++ s.queue.pending

theorem Orderly.consumers_of_asleep (h : s.Orderly) (asleep : s.queue.awake = false) :
    s.consumers = [] := by
  rw [h.alone, asleep, if_neg Bool.false_ne_true]

/-- A consumer that is at nothing takes each pending task once and then goes off. -/
theorem Orderly.run_rounds (h : s.Orderly) (free : s.queue.busy = none) (outcomes : List Bool)
    (enough : outcomes.length = s.queue.pending.length) : s.Finished (s.run (rounds outcomes)) := by
  induction outcomes generalizing s with
  | nil =>
      have pending : s.queue.pending = [] := List.length_eq_zero_iff.1 enough.symm
      show s.Finished (s.look 0)
      cases awake : s.queue.awake with
      | true =>
          rw [h.look_of_nil awake free pending]
          exact ⟨rfl, rfl, by simp [pending]⟩
      | false =>
          have same : s.look 0 = s := by simp [look, h.consumers_of_asleep awake]
          rw [same]
          exact ⟨awake, rfl, by simp [pending]⟩
  | cons w ws ih =>
      cases pending : s.queue.pending with
      | nil => simp [pending] at enough
      | cons t ts =>
          have awake : s.queue.awake = true := h.served (by simp [pending])
          have took := h.look_of_cons awake free pending
          have at_ : (s.after (.look 0)).queue.busy = some t := by rw [Attended.after, took]
          have still : (s.after (.look 0)).queue.awake = true := by
            rw [Attended.after, took, awake]
          have ended := (h.after (.look 0)).finish_of_busy still at_ w
          rw [Attended.after, took] at ended
          -- the rest is done by a consumer that is at nothing again
          have rest : Finished ((s.look 0).finish 0 w) (s.run (rounds (w :: ws))) := by
            refine ih (s := (s.look 0).finish 0 w) ((h.after (.look 0)).after (.finish 0 w)) ?_ ?_
            · simp only [took, ended]
            · simpa [took, ended, pending] using enough
          rw [took, ended] at rest
          refine ⟨rest.asleep, ?_, ?_⟩
          · rw [rest.accepted, QueueLog.accepted_concat, QueueLog.accepted_concat]
            simp
          · rw [rest.started, QueueLog.started_concat, QueueLog.started_concat]
            simp [pending]

/-- A queue gets everything done that is pending, once its consumer is left alone. -/
theorem Orderly.run_serve (h : s.Orderly) (worked : Bool) (outcomes : List Bool)
    (enough : outcomes.length = s.queue.pending.length) :
    s.Finished (s.run (serve worked outcomes)) := by
  show s.Finished ((s.finish 0 worked).run (rounds outcomes))
  cases busy : s.queue.busy with
  | none =>
      have same : s.finish 0 worked = s := by
        cases awake : s.queue.awake with
        | true => simp [finish, h.consumers_of_awake awake, busy]
        | false => simp [finish, h.consumers_of_asleep awake]
      rw [same]
      exact h.run_rounds busy outcomes enough
  | some t =>
      have awake : s.queue.awake = true := by
        cases awake : s.queue.awake with
        | true => rfl
        | false => exact absurd (busy.symm.trans (h.asleep awake)) nofun
      have ended := h.finish_of_busy awake busy worked
      have rest := (h.after (.finish 0 worked)).run_rounds
        (by rw [Attended.after, ended]) outcomes (by rw [Attended.after, ended, enough])
      rw [Attended.after, ended] at rest
      rw [ended]
      refine ⟨rest.asleep, ?_, ?_⟩
      · rw [rest.accepted, QueueLog.accepted_concat]
        simp
      · rw [rest.started, QueueLog.started_concat]
        simp

/-! ## Before and after a stop -/

theorem filterMap_asked?_cons (t : QueueTurn T) (ts : List (QueueTurn T)) :
    (t :: ts).filterMap QueueTurn.asked? = t.asked?.toList ++ ts.filterMap QueueTurn.asked? := by
  cases t <;> rfl

/-- A queue that was not stopped takes whatever comes in. -/
theorem Orderly.run_of_open (h : s.Orderly) (open_ : s.queue.stopped = false)
    {ts : List (QueueTurn T)} (going : .stop ∉ ts) :
    (s.run ts).queue.stopped = false ∧
      (s.run ts).log.accepted = s.log.accepted ++ ts.filterMap QueueTurn.asked? := by
  induction ts generalizing s with
  | nil => exact ⟨open_, (List.append_nil _).symm⟩
  | cons t ts ih =>
      have step : (s.after t).queue.stopped = false ∧
          (s.after t).log.accepted = s.log.accepted ++ t.asked?.toList := by
        have effect := h.effect t
        generalize s.after t = d at effect
        cases effect with
        | none idle => simp [open_, idle]
        | accept | start | leave | finish => simp [open_, QueueTurn.asked?]
        | drop stopped => exact absurd (open_.symm.trans stopped) nofun
        | stop => exact absurd List.mem_cons_self going
      obtain ⟨last, accepted⟩ :=
        ih (h.after t) step.1 fun mem => going (List.mem_cons_of_mem t mem)
      refine ⟨last, accepted.trans ?_⟩
      rw [step.2, List.append_assoc, filterMap_asked?_cons]

/-- A stopped queue starts nothing and drops whatever comes in. -/
theorem Orderly.run_of_stopped (h : s.Orderly) (stopped : s.queue.stopped = true)
    (ts : List (QueueTurn T)) :
    (s.run ts).queue.stopped = true ∧ (s.run ts).log.started = s.log.started ∧
      (s.run ts).log.accepted = s.log.accepted ∧
      (s.run ts).log.dropped = s.log.dropped ++ ts.filterMap QueueTurn.asked? := by
  induction ts generalizing s with
  | nil => exact ⟨stopped, rfl, rfl, (List.append_nil _).symm⟩
  | cons t ts ih =>
      have step : (s.after t).queue.stopped = true ∧ (s.after t).log.started = s.log.started ∧
          (s.after t).log.accepted = s.log.accepted ∧
          (s.after t).log.dropped = s.log.dropped ++ t.asked?.toList := by
        have effect := h.effect t
        generalize s.after t = d at effect
        cases effect with
        | none idle => simp [stopped, idle]
        | accept open_ => exact absurd (open_.symm.trans stopped) nofun
        | drop => simp [stopped, QueueTurn.asked?]
        | stop => simp [RenderQueue.stop, QueueTurn.asked?]
        | start awake free pending =>
            exact absurd (pending.symm.trans (h.closed stopped)) nofun
        | leave | finish => simp [stopped, QueueTurn.asked?]
      obtain ⟨stopped', started, accepted, dropped⟩ := step
      obtain ⟨last, started', accepted', dropped'⟩ := ih (h.after t) stopped'
      refine ⟨last, started'.trans started, accepted'.trans accepted, dropped'.trans ?_⟩
      rw [dropped, List.append_assoc, filterMap_asked?_cons]

/-! ## Failures -/

/-- Two queues in use that look the same to whoever asks for work. -/
structure Alike (s d : Attended T) : Prop where
  queue : d.queue = s.queue
  consumers : d.consumers = s.consumers
  accepted : d.log.accepted = s.log.accepted
  dropped : d.log.dropped = s.log.dropped
  started : d.log.started = s.log.started

/-- The same event on both sides, or a task that ends in different ways. -/
theorem Alike.concat {queue : RenderQueue T} {consumers : List (Option T)} {e f : QueueEvent T}
    (h : s.Alike d) (accepted : f.accepted? = e.accepted?) (dropped : f.dropped? = e.dropped?)
    (started : f.started? = e.started?) :
    Alike ⟨queue, consumers, s.log ++ [e]⟩ ⟨queue, consumers, d.log ++ [f]⟩ where
  queue := rfl
  consumers := rfl
  accepted := by simp only [QueueLog.accepted_concat, h.accepted, accepted]
  dropped := by simp only [QueueLog.dropped_concat, h.dropped, dropped]
  started := by simp only [QueueLog.started_concat, h.started, started]

theorem Alike.after (h : s.Alike d) (worked : Bool) (turn : QueueTurn T) :
    (s.after turn).Alike (d.after (turn.ending worked)) := by
  cases turn with
  | enqueue t =>
      simp only [QueueTurn.ending, Attended.after, enqueue, h.queue, h.consumers]
      split
      · exact h.concat rfl rfl rfl
      · exact h.concat rfl rfl rfl
  | stop =>
      refine ⟨?_, h.consumers, h.accepted, h.dropped, h.started⟩
      simp only [QueueTurn.ending, Attended.after, h.queue]
  | look i =>
      simp only [QueueTurn.ending, Attended.after, look, h.queue, h.consumers]
      split
      · split
        · exact h.concat rfl rfl rfl
        · exact ⟨rfl, rfl, h.accepted, h.dropped, h.started⟩
      · exact h
  | finish i outcome =>
      simp only [QueueTurn.ending, Attended.after, finish, h.queue, h.consumers]
      split
      · exact h.concat rfl rfl rfl
      · exact h

/-- Whether tasks work or fail makes no difference to whoever asks for work. -/
theorem Alike.run (h : s.Alike d) (worked : Bool) (ts : List (QueueTurn T)) :
    (s.run ts).Alike (d.run (ts.map (·.ending worked))) := by
  induction ts generalizing s d with
  | nil => exact h
  | cons t ts ih => exact ih (h.after worked t)

/-! ## The discipline of a run -/

/-- Every accepted task has been carried out once, one after the other in the order in which they
were accepted. -/
def Handled (s : Attended T) : Prop :=
  ∃ done : List (T × Bool),
    s.log.calls = done.flatMap (fun d => QueueEvent.call d.1 d.2) ∧
      done.map Prod.fst = s.log.accepted

theorem Orderly.pending_of_asleep (h : s.Orderly) (asleep : s.queue.awake = false) :
    s.queue.pending = [] := by
  cases pending : s.queue.pending with
  | nil => rfl
  | cons t ts =>
      have awake := h.served (by simp [pending])
      exact absurd (asleep.symm.trans awake) nofun

/-- A queue that was not stopped sleeps only when it has handled everything. -/
theorem Orderly.handled (h : s.Orderly) (open_ : s.queue.stopped = false)
    (asleep : s.queue.awake = false) : s.Handled := by
  obtain ⟨done, calls, begun⟩ := h.calls
  rw [h.asleep asleep] at calls begun
  refine ⟨done, by simpa using calls, ?_⟩
  rw [← (h.whole open_).1, begun, h.pending_of_asleep asleep]
  simp

/-- Whatever happens to a queue and in which order, there is never a second consumer and never a
pending task without one, and tasks are carried out one at a time in the order in which they were
accepted. Without a stop whatever is asked for is accepted, a queue that sleeps has handled it all,
and it gets there once its consumer is left alone. What tasks come to makes no difference to whoever
asks for work. After a stop nothing is pending, started or accepted any more. -/
theorem run_discipline (ts : List (QueueTurn T)) :
    let s := ({} : Attended T).run ts
    s.Orderly ∧
    (.stop ∉ ts →
      s.log.accepted = ts.filterMap QueueTurn.asked? ∧ s.log.dropped = [] ∧
      (s.queue.awake = false → s.queue.pending = [] ∧ s.Handled) ∧
      ∀ worked more, more.length = s.queue.pending.length →
        let d := s.run (serve worked more)
        d.queue.awake = false ∧ d.log.accepted = s.log.accepted ∧ d.Handled) ∧
    (∀ worked, s.Alike (({} : Attended T).run (ts.map (·.ending worked)))) ∧
    (∀ before later, ts = before ++ .stop :: later →
      let b := ({} : Attended T).run before
      s.queue.pending = [] ∧ s.log.started = b.log.started ∧ s.log.accepted = b.log.accepted ∧
        s.log.dropped = b.log.dropped ++ later.filterMap QueueTurn.asked?) := by
  intro s
  have h : s.Orderly := orderly_run ts
  refine ⟨h, fun going => ?_, fun worked => ?_, ?_⟩
  · obtain ⟨open_, accepted⟩ := orderly_start.run_of_open rfl going
    refine ⟨accepted, (h.whole open_).2, fun asleep => ?_, fun worked more enough => ?_⟩
    · exact ⟨h.pending_of_asleep asleep, h.handled open_ asleep⟩
    · have finished := h.run_serve worked more enough
      have kept := (h.run_of_open open_ (stop_not_mem_serve worked more)).1
      exact ⟨finished.asleep, finished.accepted, (h.run _).handled kept finished.asleep⟩
  · exact Alike.run ⟨rfl, rfl, rfl, rfl, rfl⟩ worked ts
  · rintro before later rfl
    have b := orderly_run before
    have now : s = ((({} : Attended T).run before).after .stop).run later := run_append _ _ _
    obtain ⟨stopped, started, accepted, dropped⟩ := (b.after .stop).run_of_stopped rfl later
    rw [← now] at stopped started accepted dropped
    exact ⟨h.closed stopped, started, accepted, dropped⟩

end Attended

end VoiceControl
