import VoiceControl.Config.Store
import VoiceControl.Desktop.Action
import VoiceControl.Failure

/-!
# Faults

Capabilities may fail. Which calls fail is a `Refusal`: a function of the calls so far and the call
at hand, so every pattern of failures is one. A list of faults, each about the calls of one kind,
gives such a pattern.
-/

namespace VoiceControl

/-- A pattern of failing calls: from the earlier calls, newest first, and the present one to the
failure it ends in, if it fails. -/
abbrev Refusal := List Call → Call → Option Failure

/-- Calls of one kind that fail: those about a subject, if one is given, and of them only the
`nth`, if that is given, counted from 1. -/
structure Fault where
  method : Method
  subject : Option Tree := none
  nth : Option Nat := none
  failure : Failure

namespace Fault

/-- Whether a call is one that the fault counts. -/
def concerns (f : Fault) (c : Call) : Bool :=
  f.method = c.method &&
    match f.subject, c.subject? with
    | none, _ => true
    | some a, some b => a.same b
    | some _, none => false

/-- A fault with the number of calls it has counted. -/
abbrev Counted := Fault × Nat

/-- Shows a call to faults, in order; the first that fails it is the last to count it. -/
def meet (c : Call) : List Counted → Option Failure × List Counted
  | [] => (none, [])
  | (f, seen) :: rest =>
      if f.concerns c then
        if f.nth.all (· == seen + 1) then (some f.failure, (f, seen + 1) :: rest)
        else
          let (outcome, rest) := meet c rest
          (outcome, (f, seen + 1) :: rest)
      else
        let (outcome, rest) := meet c rest
        (outcome, (f, seen) :: rest)

/-- The pattern of failures that a list of faults gives. -/
def refusal (faults : List Fault) : Refusal := fun earlier c =>
  let counted := earlier.reverse.foldl (fun fs c => (meet c fs).2) (faults.map (·, 0))
  (meet c counted).1

/-- The fault that data describes: what fails, about what, the how-manieth time, and the message it
fails with, which may be raised as a bare value or as the failure of a command. -/
def ofTree? (t : Tree) : Option Fault := do
  let textAt (key : String) : String := (Config.text? t [key]).getD ""
  let method ← Method.named? (textAt "device") (textAt "method")
  let failure : Failure :=
    match Config.text? t ["exec"] with
    | some command => .execution command (textAt "message") none
    | none =>
        if Config.bool? t ["raw"] = some true then
          .ofValue ((Config.lookup? t ["message"]).getD (.text ""))
        else .plain (textAt "message")
  return {
    method, subject := t.mapping?.bind (Entries.get? "arg")
    nth := (Config.number? t ["nth"]).bind (·.toNat?), failure }

end Fault

end VoiceControl
