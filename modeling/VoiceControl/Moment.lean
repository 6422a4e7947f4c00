import VoiceControl.Data.Tree

/-!
# Moments

A moment of the calendar, down to the second, and its stamp in file names.
-/

namespace VoiceControl

/-- A date and a time of day. -/
structure Moment where
  year : Nat
  month : Nat
  day : Nat
  hour : Nat
  minute : Nat
  second : Nat
  deriving Repr, DecidableEq, Inhabited

namespace Moment

/-- A number in at least two digits. -/
def twoDigits (n : Nat) : String := if n < 10 then "0" ++ Nat.repr n else Nat.repr n

/-- The stamp of a moment, such as `20240607_080910`. -/
def stamp (m : Moment) : String :=
  Nat.repr m.year ++ twoDigits m.month ++ twoDigits m.day ++ "_" ++ twoDigits m.hour ++
    twoDigits m.minute ++ twoDigits m.second

/-- The moment that six numbers give: year, month, day, hour, minute and second. -/
def ofTrees? (ts : List Tree) : Option Moment :=
  match ts.filterMap fun t => t.number?.bind (·.toNat?) with
  | [year, month, day, hour, minute, second] => some ⟨year, month, day, hour, minute, second⟩
  | _ => none

end Moment

end VoiceControl
