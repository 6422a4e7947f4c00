import VoiceControl.Data.Tree
import VoiceControl.Overlay.RenderQueue

/-!
# Render jobs

A job says by itself what carrying it out does: it is noted, it may put further jobs on the queue
that it came from and may stop that queue, and it ends well at once, ends well after a while or
fails. Running the queue over such jobs shows the queue's discipline without any drawing.
-/

namespace VoiceControl

/-- How a job ends. -/
inductive JobEnd where
  | done
  /-- The job ends later, which is noted. -/
  | later
  | failed

/-- A job for a render queue. -/
inductive RenderJob where
  | mk (id : Tree) (follow : List RenderJob) (stops : Bool) (ending : JobEnd)

mutual

/-- The job that data describes: its identity, the jobs that it puts on the queue, and whether it
stops the queue, fails or takes its time. -/
def RenderJob.ofTree : Tree → RenderJob
  | .mapping es =>
      let there (key : String) : Bool :=
        match Entries.get? key es with
        | none | some .null => false
        | some _ => true
      let on (key : String) : Bool := ((Entries.get? key es).getD .null).same (.bool true)
      .mk ((Entries.get? "id" es).getD .null) (RenderJob.followers es) (on "stop")
        (if there "throw" || there "reject" then .failed else if on "async" then .later else .done)
  | t => .mk t [] false .done

/-- The jobs that the entries of a job put on its queue. -/
def RenderJob.followers : List (String × Tree) → List RenderJob
  | [] => []
  | (k, .list ts) :: es => if k = "enqueue" then RenderJob.ofTrees ts else RenderJob.followers es
  | _ :: es => RenderJob.followers es

/-- The jobs of a list. -/
def RenderJob.ofTrees : List Tree → List RenderJob
  | [] => []
  | t :: ts => RenderJob.ofTree t :: RenderJob.ofTrees ts

end

/-- What was noted of a job. -/
inductive JobMark where
  | started (id : Tree)
  | finished (id : Tree)

/-- A mark as data: the job's identity, with a word when it finished. -/
def JobMark.tree : JobMark → Tree
  | .started id => id
  | .finished id => .text (id.plainText ++ ":done")

/-- A queue of jobs with what was observed of them. -/
structure JobRun where
  queue : RenderQueue RenderJob := {}
  marks : List JobMark := []
  notices : List Notice := []

mutual

/-- The number of jobs that a job can lead to, itself included. -/
def RenderJob.weight : RenderJob → Nat
  | .mk _ follow _ _ => 1 + RenderJob.weights follow

/-- The number of jobs that some jobs can lead to. -/
def RenderJob.weights : List RenderJob → Nat
  | [] => 0
  | j :: js => j.weight + RenderJob.weights js

end

namespace JobRun

/-- Puts a job on the queue; a stopped queue drops it with a notice. -/
def enqueue (r : JobRun) (j : RenderJob) : JobRun :=
  match r.queue.enqueue j with
  | (true, q) => { r with queue := q }
  | (false, q) => { r with queue := q, notices := r.notices ++ [.renderDropped] }

/-- Stops the queue. -/
def stop (r : JobRun) : JobRun := { r with queue := r.queue.stop }

/-- Carries out a job to its end. -/
def carryOut (r : JobRun) : RenderJob → JobRun
  | .mk id follow stops ending =>
      let r := { r with marks := r.marks ++ [.started id] }
      let r := follow.foldl enqueue r
      let r := if stops then r.stop else r
      let r : JobRun := match ending with
        | .done => r
        | .later => { r with marks := r.marks ++ [.finished id] }
        | .failed => { r with notices := r.notices ++ [.renderFailed] }
      { r with queue := r.queue.release }

/-- Lets the consumer take and carry out a number of jobs. -/
def consume : Nat → JobRun → JobRun
  | 0, r => r
  | n + 1, r =>
      let r := { r with queue := r.queue.take }
      match r.queue.busy with
      | some j => consume n (r.carryOut j)
      | none => r

/-- Lets the consumer run until it finds nothing to do. -/
def idle (r : JobRun) : JobRun := consume (RenderJob.weights r.queue.pending + 1) r

end JobRun

end VoiceControl
