import VoiceControl.Proofs.Command.Effects

/-!
# What dispatch reports

Carrying out an utterance is told to a sink: first that a command was detected, and at last either
that it was executed or that it failed, with the reason. In between the command may publish whatever
it likes. It cannot take back what was published, which is all that is asked of it here: what
validating and executing give or raise, and what else they do, is left open.

Of a raised value that has no text no report can be made. What asking for its text raises goes past
the report to the caller, and the trace breaks off.

* `Registry.Ends`: the five ways in which a command's turn ends, each with its last event.
* `Registry.Escapes`: the two ways in which it breaks off.
* `Registry.process_reports`: the trace on the sink and what the caller gets, for every text.
-/

namespace VoiceControl

/-! ## Channels -/

namespace Journal

def on (j : Journal) : Channel → List Event
  | .main => j.events
  | .side => j.sideEvents

theorem on_note (j : Journal) (n : Notice) (ch : Channel) : (j.note n).on ch = j.on ch := by
  cases ch <;> rfl

theorem on_publish {j : Journal} (listening : j.listening = true) (ch : Channel) (e : Event) :
    (j.publish ch e).on ch = j.on ch ++ [e] := by
  unfold publish
  rw [if_pos listening]
  cases ch <;> rfl

theorem on_publish_of_ne (j : Journal) {ch other : Channel} (h : other ≠ ch) (e : Event) :
    (j.publish ch e).on other = j.on other := by
  unfold publish
  split
  · cases ch <;> cases other <;> first | rfl | exact absurd rfl h
  · rfl

theorem listening_publish (j : Journal) (ch : Channel) (e : Event) :
    (j.publish ch e).listening = j.listening := by
  unfold publish
  split
  · cases ch <;> rfl
  · rfl

end Journal

namespace Workspace

def noted (w : Workspace) (ns : List Notice) : Workspace :=
  { w with journal := ns.foldl Journal.note w.journal }

/-- The workspace once an event was published on a sink, if there is one. -/
def published (w : Workspace) (sink : Option Channel) (e : Event) : Workspace :=
  match sink with
  | some ch => { w with journal := w.journal.publish ch e }
  | none => w

/-- What was published before stands, and events are still listened to. -/
structure Continues (w w' : Workspace) : Prop where
  listening : w.journal.listening = true → w'.journal.listening = true
  events : ∀ ch, w.journal.on ch <+: w'.journal.on ch

theorem Continues.refl (w : Workspace) : w.Continues w := ⟨id, fun _ => List.prefix_rfl⟩

theorem Continues.trans {w w' w'' : Workspace} (h : w.Continues w') (h' : w'.Continues w'') :
    w.Continues w'' :=
  ⟨fun l => h'.listening (h.listening l), fun ch => (h.events ch).trans (h'.events ch)⟩

theorem journal_noted (w : Workspace) (ns : List Notice) :
    (w.noted ns).journal.listening = w.journal.listening ∧
      ∀ ch, (w.noted ns).journal.on ch = w.journal.on ch := by
  unfold noted
  dsimp only
  generalize w.journal = j
  induction ns generalizing j with
  | nil => exact ⟨rfl, fun _ => rfl⟩
  | cons n ns ih =>
      obtain ⟨listening, events⟩ := ih (j.note n)
      exact ⟨listening, fun ch => (events ch).trans (j.on_note n ch)⟩

theorem continues_published (w : Workspace) (sink : Option Channel) (e : Event) :
    w.Continues (w.published sink e) := by
  cases sink with
  | none => exact .refl w
  | some ch =>
      refine ⟨(w.journal.listening_publish ch e).trans, fun other => ?_⟩
      show w.journal.on other <+: (w.journal.publish ch e).on other
      by_cases same : other = ch
      · subst same
        cases listening : w.journal.listening with
        | true =>
            rw [Journal.on_publish listening]
            exact List.prefix_append _ _
        | false => simp [Journal.publish, listening]
      · exact ⟨[], by rw [List.append_nil, w.journal.on_publish_of_ne same]⟩

end Workspace

namespace Act

variable {α β : Type}

/-- An act takes back nothing that was published. -/
def Appends (x : Act α) : Prop := ∀ w : Workspace, w.Continues (x.on w).2

theorem appends_pure (a : α) : Appends (pure a : Act α) := fun w => .refl w

theorem appends_throw (f : Failure) : Appends (throw f : Act α) := fun w => .refl w

theorem Appends.bind {x : Act α} {f : α → Act β} (hx : x.Appends) (hf : ∀ a, (f a).Appends) :
    (x >>= f).Appends := by
  intro w
  have first := hx w
  rw [on_bind]
  rcases hr : x.on w with ⟨a | f', w'⟩ <;> rw [hr] at first
  · exact first
  · exact first.trans (hf _ w')

theorem on_publish (sink : Option Channel) (e : Event) (w : Workspace) :
    (publish sink e).on w = (.ok (), w.published sink e) := by
  cases sink <;> rfl

theorem on_report (name text : String) (detail : Entries Tree) (w : Workspace) :
    (Command.report name text detail).on w =
      (.ok (), w.published w.reach.events (.commandAction name text detail)) := by
  rw [Command.report, on_bind, on_get]
  exact on_publish _ _ w

theorem appends_publish (sink : Option Channel) (e : Event) : (publish sink e).Appends := by
  intro w
  rw [on_publish]
  exact w.continues_published sink e

theorem on_note (n : Notice) (w : Workspace) : (note n).on w = (.ok (), w.noted [n]) := rfl

theorem on_notes (ns : List Notice) (w : Workspace) :
    (ns.forM note).on w = (.ok ⟨⟩, w.noted ns) := by
  induction ns generalizing w with
  | nil => rfl
  | cons n ns ih =>
      show (note n >>= fun _ => ns.forM note).on w = _
      rw [on_bind, on_note]
      exact ih (w.noted [n])

end Act

/-! ## Turns -/

/-- The turn of a command that was found: what validating and executing it come to, each with the
workspace that it leaves. -/
structure CommandTurn where
  valid : Except Failure Bool
  checked : Workspace
  output : Except Failure (Option String)
  done : Workspace

/-- The workspace that the command leaves: it is executed if it is valid. -/
def CommandTurn.left (t : CommandTurn) : Workspace :=
  match t.valid with
  | .ok true => t.done
  | _ => t.checked

/-- What asking for the text of a failure raises, if it has none. -/
def Failure.flaw? (f : Failure) : Option Failure :=
  match f.asError with
  | .ok _ => none
  | .error g => some g

/-- What goes past the report of a turn: a command that raised a value without a text, unless that
came up in its validation and there is no sink to ask for it. -/
def CommandTurn.escape? (t : CommandTurn) (sink : Option Channel) : Option Failure :=
  match t.valid, t.output with
  | .error f, _ => if sink.isSome then f.flaw? else none
  | .ok true, .error f => f.flaw?
  | _, _ => none

/-- The turn of a command on a workspace, once its detection was published. -/
def Command.turn (c : Command) (text : String) (sink : Option Channel) (w : Workspace) :
    CommandTurn :=
  let told := w.published sink (.commandDetected c.name text c.priority)
  let checked := ((c.validate text).on told).2
  { valid := ((c.validate text).on told).1
    checked
    output := ((c.execute text).on checked).1
    done := ((c.execute text).on checked).2 }

namespace Registry

variable {c : Command} {text : String} {t : CommandTurn}

/-- The ways in which a turn ends: its last event, what the caller gets and the workspace just
before the last event. -/
inductive Ends (c : Command) (text : String) (t : CommandTurn) :
    Event → Except Failure DispatchResult → Workspace → Prop
  | executed {o} (valid : t.valid = .ok true) (output : t.output = .ok o) :
      Ends c text t (.commandExecuted c.name text o) (.ok ⟨o, true⟩) t.done
  | failed {f} (valid : t.valid = .ok true) (output : t.output = .error f)
      (execution : f.isExecution = true) :
      Ends c text t (.commandFailed c.name text .executionError (some f.message)) (.error f) t.done
  | crashed {f e} (valid : t.valid = .ok true) (output : t.output = .error f)
      (other : f.isExecution = false) (read : f.asError = .ok e) :
      Ends c text t
        (.commandFailed c.name text .unexpectedError
          (some (Failure.execution c.name e.message (some e)).message))
        (.error (.execution c.name e.message (some e))) (t.done.noted [.unexpectedFailure])
  | refused (valid : t.valid = .ok false) :
      Ends c text t (.commandFailed c.name text .validationFailed none) (.ok .nothing) t.checked
  | unclear {f} (valid : t.valid = .error f) :
      Ends c text t (.commandFailed c.name text .validationError (some f.message)) (.ok .nothing)
        (t.checked.noted [.validationFailed])

/-- The ways in which a turn breaks off: what the caller gets and the workspace that is left. -/
inductive Escapes (sink : Option Channel) (t : CommandTurn) : Failure → Workspace → Prop
  | crashed {f g} (valid : t.valid = .ok true) (output : t.output = .error f)
      (unread : f.asError = .error g) : Escapes sink t g t.done
  | unclear {f g} (valid : t.valid = .error f) (asked : sink.isSome = true)
      (unread : f.asError = .error g) : Escapes sink t g (t.checked.noted [.validationFailed])

/-- A run from where it was told of a command: it comes to an end or breaks off. -/
def Concludes (sink : Option Channel) (c : Command) (text : String) (t : CommandTurn)
    (ran : Except Failure DispatchResult × Workspace) : Prop :=
  (∃ last result w, Ends c text t last result w ∧ t.escape? sink = none ∧
    ran = (result, w.published sink last)) ∨
  ∃ g w, Escapes sink t g w ∧ ran = (.error g, w)

theorem carryOut_concludes (sink : Option Channel) (valid : t.valid = .ok true)
    (executed : (c.execute text).on t.checked = (t.output, t.done)) :
    Concludes sink c text t ((carryOut sink c text).on t.checked) := by
  have tried : (Act.attempt (c.execute text)).on t.checked = (.ok t.output, t.done) := by
    rw [Act.on_attempt, executed]
  unfold carryOut
  rw [Act.on_bind, tried]
  dsimp only
  have escape : t.escape? sink = match t.output with
      | .error f => f.flaw?
      | .ok _ => none := by
    simp only [CommandTurn.escape?, valid]
    cases t.output <;> rfl
  cases output : t.output with
  | ok o =>
      rw [output] at escape
      refine .inl ⟨_, _, _, .executed valid output, escape, ?_⟩
      rw [Act.on_bind, Act.on_publish]
      rfl
  | error f =>
      rw [output] at escape
      cases execution : f.isExecution with
      | true =>
          cases f with
          | execution command detail cause =>
              refine .inl ⟨_, _, _, .failed valid output execution, escape, ?_⟩
              dsimp only
              rw [Act.on_bind, Act.on_publish]
              rfl
          | _ => cases execution
      | false =>
          cases f with
          | execution command detail cause => cases execution
          | textless g => exact .inr ⟨_, _, .crashed valid output rfl, rfl⟩
          | _ =>
              refine .inl ⟨_, _, _, .crashed valid output execution rfl, escape, ?_⟩
              dsimp only [Failure.asError, Act.conclude]
              rw [pure_bind, Act.on_bind, Act.on_note]
              dsimp only
              rw [Act.on_bind, Act.on_publish]
              rfl

theorem dispatch_concludes (sink : Option Channel) (c : Command) (text : String) (w : Workspace) :
    Concludes sink c text (c.turn text sink w) ((dispatch sink c text).on w) := by
  have tried : (Act.attempt (c.validate text)).on
      (w.published sink (.commandDetected c.name text c.priority)) =
        (.ok (c.turn text sink w).valid, (c.turn text sink w).checked) := rfl
  have executed : (c.execute text).on (c.turn text sink w).checked =
      ((c.turn text sink w).output, (c.turn text sink w).done) := rfl
  generalize c.turn text sink w = t at tried executed ⊢
  unfold dispatch
  rw [Act.on_bind, Act.on_publish]
  dsimp only
  rw [Act.on_bind, tried]
  dsimp only
  cases valid : t.valid with
  | ok accepted =>
      cases accepted with
      | true => exact carryOut_concludes sink valid executed
      | false =>
          refine .inl ⟨_, _, _, .refused valid, ?_, ?_⟩
          · simp only [CommandTurn.escape?, valid]
          · dsimp only
            rw [Act.on_bind, Act.on_publish]
            rfl
  | error f =>
      have escape : t.escape? sink = if sink.isSome then f.flaw? else none := by
        simp only [CommandTurn.escape?, valid]
      dsimp only
      rw [Act.on_bind, Act.on_note]
      dsimp only
      cases sink with
      | none => exact .inl ⟨_, _, _, .unclear valid, escape, rfl⟩
      | some ch =>
          rw [Option.isSome_some, if_pos rfl] at escape ⊢
          cases read : f.asError with
          | ok e =>
              refine .inl ⟨_, _, _, .unclear valid, ?_, ?_⟩
              · rw [escape, Failure.flaw?, read]
              · rw [← Failure.message_of_asError read]
                rfl
          | error g => exact .inr ⟨_, _, .unclear valid rfl read, rfl⟩

/-! ## Reports -/

theorem on_process (r : Registry) (text : String) (enabledOnly : Bool) (w : Workspace) :
    (r.process text enabledOnly).on w =
      match (r.findMatching text enabledOnly).1 with
      | none => (.ok .nothing, w.noted (r.findMatching text enabledOnly).2)
      | some c =>
          (dispatch (w.reach.dispatch.or w.reach.events) c text).on
            (w.noted (r.findMatching text enabledOnly).2) := by
  unfold process
  rcases r.findMatching text enabledOnly with ⟨found, notices⟩
  dsimp only
  rw [Act.on_bind, Act.on_notes]
  cases found with
  | none => rfl
  | some c =>
      dsimp only
      rw [Act.on_bind, Act.on_get]
      rfl

/-- What a command's turn has to do with the last event, with what the caller gets and with the
workspace that it leaves. -/
structure Reported (c : Command) (text : String) (sink : Option Channel) (t : CommandTurn)
    (last : Event) (result : Except Failure DispatchResult) (final : Workspace) : Prop where
  /-- The last event says that the command was executed or that it failed. -/
  terminal : (∃ o, last = .commandExecuted c.name text o) ∨
    ∃ reason error, last = .commandFailed c.name text reason error
  executed_iff : ∀ o, last = .commandExecuted c.name text o ↔ t.valid = .ok true ∧ t.output = .ok o
  executed : ∀ o, t.valid = .ok true → t.output = .ok o →
    result = .ok ⟨o, true⟩ ∧ final = t.done.published sink last
  /-- A command that is not valid is left after it was validated. -/
  refused : t.valid = .ok false →
    last = .commandFailed c.name text .validationFailed none ∧ result = .ok .nothing ∧
      final = t.checked.published sink last
  unclear : ∀ f, t.valid = .error f →
    last = .commandFailed c.name text .validationError (some f.message) ∧ result = .ok .nothing ∧
      final = (t.checked.noted [.validationFailed]).published sink last
  /-- The failure of a command's execution is raised as it is, any other one as the cause of such a
  failure. -/
  raised : ∀ f, t.valid = .ok true → t.output = .error f →
    if f.isExecution then
      result = .error f ∧ last = .commandFailed c.name text .executionError (some f.message) ∧
        final = t.done.published sink last
    else
      ∃ e, f.asError = .ok e ∧ result = .error (.execution c.name e.message (some e)) ∧
        last = .commandFailed c.name text .unexpectedError (some (c.name ++ ": " ++ e.message)) ∧
        final = (t.done.noted [.unexpectedFailure]).published sink last

theorem Ends.reported {sink : Option Channel} {last : Event}
    {result : Except Failure DispatchResult} {w : Workspace} (h : Ends c text t last result w) :
    Reported c text sink t last result (w.published sink last) := by
  cases h with
  | executed valid output => constructor <;> simp_all
  | failed valid output execution => constructor <;> simp_all
  | crashed valid output other read => constructor <;> simp_all [Failure.message]
  | refused valid => constructor <;> simp_all
  | unclear valid => constructor <;> simp_all

/-- Between what the command does and the last event there are notices only. -/
theorem Ends.left {last : Event} {result : Except Failure DispatchResult} {w : Workspace}
    (h : Ends c text t last result w) : ∃ ns, w = t.left.noted ns := by
  cases h with
  | executed valid | failed valid => exact ⟨[], by rw [CommandTurn.left, valid]; rfl⟩
  | crashed valid => exact ⟨[.unexpectedFailure], by rw [CommandTurn.left, valid]⟩
  | refused valid => exact ⟨[], by rw [CommandTurn.left, valid]; rfl⟩
  | unclear valid => exact ⟨[.validationFailed], by rw [CommandTurn.left, valid]⟩

theorem Escapes.left {sink : Option Channel} {g : Failure} {w : Workspace}
    (h : Escapes sink t g w) : ∃ ns, w = t.left.noted ns := by
  cases h with
  | crashed valid => exact ⟨[], by rw [CommandTurn.left, valid]; rfl⟩
  | unclear valid => exact ⟨[.validationFailed], by rw [CommandTurn.left, valid]⟩

theorem Escapes.escape?_eq {sink : Option Channel} {g : Failure} {w : Workspace}
    (h : Escapes sink t g w) : t.escape? sink = some g := by
  cases h with
  | crashed valid output unread =>
      simp only [CommandTurn.escape?, valid, output, Failure.flaw?, unread]
  | unclear valid asked unread =>
      simp only [CommandTurn.escape?, valid, asked, if_pos, Failure.flaw?, unread]

/-- Whether it ends or breaks off, after what the command does there are notices, and then perhaps
an event. -/
theorem Concludes.left {sink : Option Channel} {ran : Except Failure DispatchResult × Workspace}
    (h : Concludes sink c text t ran) :
    ∃ ns, ran.2 = t.left.noted ns ∨ ∃ last, ran.2 = (t.left.noted ns).published sink last := by
  rcases h with ⟨last, result, w, ends, -, rfl⟩ | ⟨g, w, escapes, rfl⟩
  · obtain ⟨ns, rfl⟩ := ends.left
    exact ⟨ns, .inr ⟨last, rfl⟩⟩
  · obtain ⟨ns, rfl⟩ := escapes.left
    exact ⟨ns, .inl rfl⟩

/-- A valid command that works comes to its end. -/
theorem Concludes.of_executed {sink : Option Channel} {o : Option String}
    {ran : Except Failure DispatchResult × Workspace} (h : Concludes sink c text t ran)
    (valid : t.valid = .ok true) (output : t.output = .ok o) :
    ran = (.ok ⟨o, true⟩, t.done.published sink (.commandExecuted c.name text o)) := by
  rcases h with ⟨last, result, w, ends, -, rfl⟩ | ⟨g, w, escapes, rfl⟩
  · cases ends with
    | executed _ gave => rw [Except.ok.inj (output.symm.trans gave)]
    | failed _ gave | crashed _ gave => cases output.symm.trans gave
    | refused invalid | unclear invalid => cases valid.symm.trans invalid
  · cases escapes with
    | crashed _ gave => cases output.symm.trans gave
    | unclear invalid => cases valid.symm.trans invalid

theorem continues_left {told : Workspace} (checked : told.Continues t.checked)
    (done : t.checked.Continues t.done) : told.Continues t.left := by
  unfold CommandTurn.left
  split
  · exact checked.trans done
  · exact checked

/-- What a sink gets of the dispatch of a text to a command on a workspace, where it listens and the
command takes back nothing that was published: the detection of the command first, then what the
command publishes, and at last what is told of how it ended. -/
def Told (c : Command) (text : String) (sink : Option Channel) (w final : Workspace)
    (last : List Event) : Prop :=
  w.journal.listening = true → (c.validate text).Appends → (c.execute text).Appends →
    ∀ ch, sink = some ch → ∃ own,
      (c.turn text sink w).left.journal.on ch =
        w.journal.on ch ++ .commandDetected c.name text c.priority :: own ∧
      final.journal.on ch = w.journal.on ch ++ .commandDetected c.name text c.priority :: own ++ last

/-- A command adds to its detection what it publishes, and the sink goes on listening. -/
theorem left_told {ch : Channel} {w : Workspace} (listening : w.journal.listening = true)
    (validate : (c.validate text).Appends) (execute : (c.execute text).Appends) :
    let left := (c.turn text (some ch) w).left
    left.journal.listening = true ∧ ∃ own, left.journal.on ch =
      w.journal.on ch ++ .commandDetected c.name text c.priority :: own := by
  have first := w.continues_published (some ch) (.commandDetected c.name text c.priority)
  have later := continues_left (t := c.turn text (some ch) w) (validate _) (execute _)
  obtain ⟨own, events⟩ := later.events ch
  have told : (w.published (some ch) (.commandDetected c.name text c.priority)).journal.on ch =
      w.journal.on ch ++ [.commandDetected c.name text c.priority] :=
    Journal.on_publish listening ch _
  rw [told, List.append_assoc, List.singleton_append] at events
  exact ⟨(first.trans later).listening listening, own, events.symm⟩

theorem Ends.told {sink : Option Channel} {w w' : Workspace} {last : Event}
    {result : Except Failure DispatchResult}
    (h : Ends c text (c.turn text sink w) last result w') :
    Told c text sink w (w'.published sink last) [last] := by
  rintro listening validate execute ch rfl
  obtain ⟨heard, own, events⟩ := left_told listening validate execute
  -- what dispatch does after the command is to take notes, which no channel carries
  obtain ⟨ns, rfl⟩ := h.left
  obtain ⟨still, same⟩ := (c.turn text (some ch) w).left.journal_noted ns
  refine ⟨own, events, ?_⟩
  show ((Workspace.noted _ ns).journal.publish ch last).on ch = _
  rw [Journal.on_publish (still.trans heard), same, events]

theorem Escapes.told {sink : Option Channel} {w w' : Workspace} {g : Failure}
    (h : Escapes sink (c.turn text sink w) g w') : Told c text sink w w' [] := by
  rintro listening validate execute ch rfl
  obtain ⟨-, own, events⟩ := left_told listening validate execute
  obtain ⟨ns, rfl⟩ := h.left
  refine ⟨own, events, ?_⟩
  rw [((c.turn text (some ch) w).left.journal_noted ns).2, events, List.append_nil]

/-- Whatever validating and executing a command come to: a text that no command is for is reported
to nobody and nothing is done about it. Any other text is dispatched to the command found, and the
sink of the dispatch, or else that of the commands, is told of it. Unless something escapes, the
last event and what the caller gets are those of the command's turn. If something does, the caller
gets that and the sink is not told how the command ended. -/
theorem process_reports (r : Registry) (text : String) (enabledOnly : Bool) (w : Workspace) :
    let sink := w.reach.dispatch.or w.reach.events
    let found := r.findMatching text enabledOnly
    let ready := w.noted found.2
    let result := ((r.process text enabledOnly).on w).1
    let final := ((r.process text enabledOnly).on w).2
    (ready.journal.listening = w.journal.listening ∧
      ∀ ch, ready.journal.on ch = w.journal.on ch) ∧
    (found.1 = none → result = .ok .nothing ∧ final = ready) ∧
    ∀ c, found.1 = some c →
      ((c.turn text sink ready).escape? sink = none → ∃ last,
        Reported c text sink (c.turn text sink ready) last result final ∧
          Told c text sink ready final [last]) ∧
      ∀ g, (c.turn text sink ready).escape? sink = some g →
        result = .error g ∧ Told c text sink ready final [] := by
  intro sink found ready result final
  have process := on_process r text enabledOnly w
  refine ⟨w.journal_noted found.2, fun unmatched => ?_, fun c chosen => ?_⟩
  · have ended : (r.process text enabledOnly).on w = (.ok .nothing, ready) := by
      rw [process, unmatched]
    exact ⟨congrArg Prod.fst ended, congrArg Prod.snd ended⟩
  · have ran : (r.process text enabledOnly).on w = (dispatch sink c text).on ready := by
      rw [process, chosen]
    rcases dispatch_concludes sink c text ready with
      ⟨last, outcome, w', ends, kept, dispatched⟩ | ⟨g, w', escapes, dispatched⟩
    · have value : result = outcome := congrArg Prod.fst (ran.trans dispatched)
      have state : final = w'.published sink last := congrArg Prod.snd (ran.trans dispatched)
      rw [value, state]
      refine ⟨fun _ => ⟨last, ends.reported, ends.told⟩, fun g escape => ?_⟩
      exact absurd (kept.symm.trans escape) (Option.some_ne_none g).symm
    · have value : result = .error g := congrArg Prod.fst (ran.trans dispatched)
      have state : final = w' := congrArg Prod.snd (ran.trans dispatched)
      rw [value, state]
      refine ⟨fun kept => ?_, fun g' escape => ?_⟩
      · exact absurd (escapes.escape?_eq.symm.trans kept) (Option.some_ne_none g)
      · obtain rfl : g = g' := Option.some.inj (escapes.escape?_eq.symm.trans escape)
        exact ⟨rfl, escapes.told⟩

/-- A command that tells what it is doing and then raises a bare value. -/
def stumbling : Command where
  name := "stumble"
  priority := 100
  description := ""
  id := 0
  accepts _ := .ok true
  execute text := do
    Act.publish (some .main) (.commandAction "stumble" text [])
    throw (.bare "lost")

/-- Its caller gets the value as the cause of a failed execution, and the sink hears of it last. -/
theorem process_reports_stumbling :
    let w : Workspace :=
      { screen := ⟨300, 300⟩, desktop := .centred ⟨300, 300⟩, now := ⟨2024, 6, 7, 8, 9, 10⟩ }
    let r : Registry := ⟨[stumbling]⟩
    w.journal.listening = true ∧ (stumbling.validate "go").Appends ∧
    (stumbling.execute "go").Appends ∧
    ((r.process "go").on w).1 =
      .error (.execution "stumble" "lost" (some (.plain "lost"))) ∧
    ∃ own, ((r.process "go").on w).2.journal.on .main =
      .commandDetected "stumble" "go" 100 :: own ++
        [.commandFailed "stumble" "go" .unexpectedError (some "stumble: lost")] := by
  intro w r
  have validate : (stumbling.validate "go").Appends := Act.appends_pure true
  have execute : (stumbling.execute "go").Appends :=
    (Act.appends_publish _ _).bind fun _ => Act.appends_throw _
  obtain ⟨last, reported, told⟩ := ((process_reports r "go" true w).2.2 stumbling rfl).1 rfl
  obtain ⟨e, read, result, ended, -⟩ := reported.raised (.bare "lost") rfl rfl
  obtain rfl : .plain "lost" = e := Except.ok.inj read
  obtain ⟨own, -, events⟩ := told rfl validate execute .main rfl
  rw [ended] at events
  exact ⟨rfl, validate, execute, result, own, events⟩

/-- A command that raises a value without a text. -/
def unspeaking : Command where
  name := "unspeaking"
  priority := 100
  description := ""
  id := 0
  accepts _ := .ok true
  execute _ := throw (.textless (.mistyped "Cannot convert object to primitive value"))

/-- Its caller gets no failed execution, and the sink hears of its detection and of nothing else. -/
theorem process_loses_textless_value :
    let w : Workspace :=
      { screen := ⟨300, 300⟩, desktop := .centred ⟨300, 300⟩, now := ⟨2024, 6, 7, 8, 9, 10⟩ }
    let ran := ((⟨[unspeaking]⟩ : Registry).process "go").on w
    (∀ command detail cause, ran.1 ≠ .error (.execution command detail cause)) ∧
      ran.2.journal.on .main = [.commandDetected "unspeaking" "go" 100] := by
  intro w ran
  have result : ran.1 = .error (.mistyped "Cannot convert object to primitive value") := rfl
  refine ⟨fun command detail cause failed => ?_, rfl⟩
  cases result.symm.trans failed

end Registry

end VoiceControl
