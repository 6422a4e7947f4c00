import VoiceControl.Notice

/-!
# The render queue

Drawing is not done by whoever asks for it. Every request is added to a queue, and one consumer
carries the requests out later, one at a time and in the order of their arrival. A request that
fails is logged and the consumer goes on. The state names what the consumer is at: it is asleep
when there is nothing to do, it is awake once there is, and it is busy with at most one task.
-/

namespace VoiceControl

/-- A queue of tasks with a single consumer. -/
structure RenderQueue (T : Type) where
  /-- The tasks that have not been started, oldest first. -/
  pending : List T := []
  /-- The task that the consumer is at. -/
  busy : Option T := none
  /-- The consumer is under way; it falls asleep when it finds nothing pending. -/
  awake : Bool := false
  stopped : Bool := false

namespace RenderQueue

variable {T : Type}

/-- Adds a task; a stopped queue drops it. Says whether it was taken. -/
def enqueue (q : RenderQueue T) (t : T) : Bool × RenderQueue T :=
  if q.stopped then (false, q)
  else (true, { q with pending := q.pending ++ [t], awake := true })

/-- Drops what is pending and refuses what comes. -/
def stop (q : RenderQueue T) : RenderQueue T := { q with pending := [], stopped := true }

/-- The consumer takes the oldest pending task, or falls asleep when there is none. It does
nothing while it is busy or asleep. -/
def take (q : RenderQueue T) : RenderQueue T :=
  match q.awake, q.busy, q.pending with
  | true, none, t :: ts => { q with pending := ts, busy := some t }
  | true, none, [] => { q with awake := false }
  | _, _, _ => q

/-- The consumer is done with its task, whether it worked or failed. -/
def release (q : RenderQueue T) : RenderQueue T := { q with busy := none }

/-- The task at hand becomes another one, its next stage. -/
def continueWith (q : RenderQueue T) (t : T) : RenderQueue T := { q with busy := some t }

/-- The number of tasks that have not been started. -/
def size (q : RenderQueue T) : Nat := q.pending.length

/-- Whether the consumer has something to do. -/
def hasWork (q : RenderQueue T) : Bool := q.busy.isSome || !q.pending.isEmpty

/-- Work is never left without a consumer. -/
def Served (q : RenderQueue T) : Prop := q.hasWork = true → q.awake = true

theorem served_enqueue {q : RenderQueue T} (h : q.Served) (t : T) : (q.enqueue t).2.Served := by
  unfold enqueue
  split
  · exact h
  · intro _
    rfl

theorem served_take {q : RenderQueue T} (h : q.Served) : q.take.Served := by
  unfold take
  split
  · rename_i ha _ _
    intro _
    exact ha
  · rename_i hb hp
    intro hw
    simp [hasWork, hb, hp] at hw
  · exact h

end RenderQueue

end VoiceControl
