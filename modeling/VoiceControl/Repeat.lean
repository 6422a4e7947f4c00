/-!
# Repetition

How often in a row something was done in the same direction. Another direction starts over.
-/

namespace VoiceControl

/-- A direction on the screen. -/
inductive Direction where
  | up
  | down
  | left
  | right
  deriving Repr, DecidableEq, Inhabited

/-- The word for a direction. -/
def Direction.label : Direction → String
  | .up => "up"
  | .down => "down"
  | .left => "left"
  | .right => "right"

/-- The last direction and how often it was repeated. -/
structure Repeats (D : Type) where
  last : Option D := none
  count : Nat := 0
  deriving Repr, DecidableEq

namespace Repeats

variable {D : Type} [DecidableEq D]

/-- Goes into a direction once more; the new count is the number of times the same direction came
immediately before. -/
def next (r : Repeats D) (d : D) : Repeats D :=
  if r.last = some d then { r with count := r.count + 1 } else ⟨some d, 0⟩

theorem last_next (r : Repeats D) (d : D) : (r.next d).last = some d := by
  unfold next
  split
  · assumption
  · rfl

theorem count_next_of_ne {r : Repeats D} {d : D} (h : r.last ≠ some d) : (r.next d).count = 0 := by
  simp [next, h]

theorem count_next_next (r : Repeats D) (d : D) :
    ((r.next d).next d).count = (r.next d).count + 1 := by
  have h := last_next r d
  rw [next, if_pos h]

end Repeats

end VoiceControl
