import VoiceControl.Command.Basic

/-!
# The command registry

Commands in the order in which they are asked about an utterance: descending priority, and among
equals the order of their registration. The first that accepts an utterance is validated and
carried out, and every step is published.
-/

namespace VoiceControl

/-- The registered commands in dispatch order. -/
structure Registry where
  commands : List Command := []

/-- What dispatching an utterance came to. -/
structure DispatchResult where
  output : Option String
  executed : Bool

/-- A result as data. -/
def DispatchResult.tree (r : DispatchResult) : Tree :=
  .mapping [("output", .orNull .text r.output), ("executed", .bool r.executed)]

/-- Nothing was carried out. -/
def DispatchResult.nothing : DispatchResult := ⟨none, false⟩

namespace Registry

/-- Adds a command behind those of the same or higher priority. -/
def place (c : Command) : List Command → List Command
  | [] => [c]
  | d :: ds => if d.priority.lt c.priority then c :: d :: ds else d :: place c ds

/-- Registers a command. -/
def register (r : Registry) (c : Command) : Registry := ⟨place c r.commands⟩

/-- Registers commands one after the other. -/
def registerAll (r : Registry) (cs : List Command) : Registry := cs.foldl register r

/-- Removes the first registration of the command with an identity; says whether there was one. -/
def unregister (r : Registry) (id : Nat) : Bool × Registry :=
  (r.commands.any fun c => c.id == id, ⟨r.commands.eraseP fun c => c.id == id⟩)

/-- Removes all commands. -/
def clear (_ : Registry) : Registry := ⟨[]⟩

/-- The commands, perhaps only those that are switched on. -/
def list (r : Registry) (enabledOnly : Bool := true) : List Command :=
  if enabledOnly then r.commands.filter (·.enabled) else r.commands

/-! ## Dispatch -/

/-- The first command that accepts a text. One that fails to tell is noted and passed over. -/
def firstAccepting (text : String) : List Command → Option Command × List Notice
  | [] => (none, [])
  | c :: cs =>
      match c.accepts text with
      | .ok true => (some c, [])
      | .ok false => firstAccepting text cs
      | .error _ =>
          let (found, notices) := firstAccepting text cs
          (found, .matcherFailed :: notices)

/-- The command that a text is for, if there is one, with what was noted on the way. -/
def findMatching (r : Registry) (text : String) (enabledOnly : Bool := true) :
    Option Command × List Notice :=
  firstAccepting text (r.list enabledOnly)

/-- Carries out a command that was found valid. A failure is published and goes on as a failure of
the command; where no error can be made of it, nothing is published and what trying to make one
raises goes on. -/
def carryOut (sink : Option Channel) (c : Command) (text : String) : Act DispatchResult := do
  match ← Act.attempt (c.execute text) with
  | .ok output =>
      Act.publish sink (.commandExecuted c.name text output)
      return ⟨output, true⟩
  | .error (.execution command detail cause) =>
      let failure : Failure := .execution command detail cause
      Act.publish sink (.commandFailed c.name text .executionError (some failure.message))
      throw failure
  | .error f =>
      let cause ← Act.conclude f.asError
      let failure : Failure := .execution c.name cause.message (some cause)
      Act.note .unexpectedFailure
      Act.publish sink (.commandFailed c.name text .unexpectedError (some failure.message))
      throw failure

/-- Validates a command and carries it out. -/
def dispatch (sink : Option Channel) (c : Command) (text : String) : Act DispatchResult := do
  Act.publish sink (.commandDetected c.name text c.priority)
  match ← Act.attempt (c.validate text) with
  | .ok true => carryOut sink c text
  | .ok false =>
      Act.publish sink (.commandFailed c.name text .validationFailed none)
      return .nothing
  | .error f =>
      Act.note .validationFailed
      -- only a sink asks what went wrong
      if sink.isSome then
        let cause ← Act.conclude f.asError
        Act.publish sink (.commandFailed c.name text .validationError (some cause.message))
      return .nothing

/-- Finds the command that a text is for and carries it out. No command is no failure. -/
def process (r : Registry) (text : String) (enabledOnly : Bool := true) : Act DispatchResult := do
  let (found, notices) := r.findMatching text enabledOnly
  notices.forM Act.note
  match found with
  | none => return .nothing
  | some c =>
      let reach := (← get).reach
      dispatch (reach.dispatch.or reach.events) c text

/-! ## Help -/

/-- The lines of the help text about one command. -/
def helpLines (c : Command) : List String :=
  ["• " ++ c.description] ++
    (if c.examples.isEmpty then []
      else ["  Examples: " ++ ", ".intercalate (c.examples.map fun e => "\"" ++ e ++ "\"")]) ++
    ["  Priority: " ++ c.priority.text, ""]

/-- The help text on the commands. -/
def helpText (r : Registry) (enabledOnly : Bool := true) : String :=
  match r.list enabledOnly with
  | [] => "No commands registered."
  | cs => "\n".intercalate (["Available Commands:", ""] ++ cs.flatMap helpLines)

/-- Adds an entry to the section with a title, or opens one at the end. -/
def addEntry (title : String) (entry : HelpEntry) : List HelpSection → List HelpSection
  | [] => [⟨title, [entry]⟩]
  | s :: ss =>
      if s.title = title then { s with entries := s.entries ++ [entry] } :: ss
      else s :: addEntry title entry ss

/-- The commands by category, in the order in which the categories come up first. -/
def helpSections (r : Registry) (enabledOnly : Bool := true) : List HelpSection :=
  (r.list enabledOnly).foldl (fun ss c => addEntry c.category ⟨c.description, c.examples⟩ ss) []

end Registry

end VoiceControl
