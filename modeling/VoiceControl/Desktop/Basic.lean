import VoiceControl.Desktop.Fault

/-!
# The desktop

A desktop records the actions done to it. A call may be refused, in which case it has no effect;
which calls are refused is fixed beforehand as a pattern over the calls so far.
-/

namespace VoiceControl

/-- A desktop and what has been done to it. -/
structure Desktop where
  pointer : Point Number
  /-- The actions done, oldest first. -/
  actions : List Action := []
  /-- All calls, refused ones too, newest first. -/
  calls : List Call := []
  refuses : Refusal := fun _ _ => none

namespace Desktop

/-- A desktop with the pointer in the middle of the screen. -/
def centred (screen : Screen Number) (refuses : Refusal := fun _ _ => none) : Desktop :=
  { pointer := ⟨(screen.width / 2).floor, (screen.height / 2).floor⟩, refuses }

/-- The effect of a call that is not refused. -/
def perform (d : Desktop) : Call → Desktop
  | .act (.movePointer p) => { d with pointer := p, actions := d.actions ++ [.movePointer p] }
  | .act a => { d with actions := d.actions ++ [a] }
  | .askPointer | .askFile _ => d

/-- Makes a call, which may be refused. -/
def call (d : Desktop) (c : Call) : Except Failure Unit × Desktop :=
  let noted := { d with calls := c :: d.calls }
  match d.refuses d.calls c with
  | some f => (.error f, noted)
  | none => (.ok (), noted.perform c)

theorem actions_perform_act (d : Desktop) (a : Action) :
    (d.perform (.act a)).actions = d.actions ++ [a] := by
  cases a <;> rfl

theorem actions_call_of_refused {d : Desktop} {c : Call} {f : Failure}
    (h : d.refuses d.calls c = some f) : (d.call c).2.actions = d.actions := by
  simp [call, h]

end Desktop

end VoiceControl
