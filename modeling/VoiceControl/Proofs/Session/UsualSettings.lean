import VoiceControl.Proofs.Command.Effects
import VoiceControl.Proofs.Session.CommandWords
import VoiceControl.Proofs.Session.Sayings

/-!
# Plain words under the usual settings

Under the usual settings nothing on the way from speech to commands changes an utterance of plain
words. A session then does what the command does that the utterance is for. Before and after, it
only writes down what it does.

* `Session.Usual`: a session under the usual settings, and it stays one.
* `Session.Usual.next_command`: what it does with an utterance of plain words.
-/

namespace VoiceControl

open VoiceControl.Command

/-! ## Writing down -/

namespace Workspace

variable {w w' : Workspace}

/-- More was written down, and no source was asked for anything. -/
def Remarked (w w' : Workspace) : Prop :=
  ∃ journal, w' = { w with journal } ∧ journal.inquiries = w.journal.inquiries

theorem lasting_remarked : Lasting Remarked where
  refl w := ⟨w.journal, rfl, rfl⟩
  trans h h' := by
    obtain ⟨j, rfl, same⟩ := h
    obtain ⟨j', rfl, same'⟩ := h'
    exact ⟨j', rfl, same'.trans same⟩

theorem remarked_noted (w : Workspace) (ns : List Notice) : w.Remarked (w.noted ns) := by
  refine ⟨_, rfl, ?_⟩
  generalize w.journal = j
  induction ns generalizing j with
  | nil => rfl
  | cons n ns ih => exact ih (j.note n)

theorem remarked_published (w : Workspace) (sink : Option Channel) (e : Event) :
    w.Remarked (w.published sink e) := by
  cases sink with
  | none => exact lasting_remarked.refl w
  | some ch =>
      refine ⟨_, rfl, ?_⟩
      unfold Journal.publish
      split
      · cases ch <;> rfl
      · rfl

theorem Remarked.reach (h : w.Remarked w') : w'.reach = w.reach := by
  obtain ⟨j, rfl, -⟩ := h
  rfl

theorem Remarked.desktop (h : w.Remarked w') : w'.desktop = w.desktop := by
  obtain ⟨j, rfl, -⟩ := h
  rfl

theorem Remarked.overlays (h : w.Remarked w') : w'.overlays = w.overlays := by
  obtain ⟨j, rfl, -⟩ := h
  rfl

/-- What is written down is no action and changes no overlay. -/
theorem Remarked.became (h : w.Remarked w') : w.Became [] w.overlays w' := by
  obtain ⟨j, rfl, -⟩ := h
  exact w.became_refl.trans ⟨(List.append_nil _).symm, rfl, rfl, rfl⟩

end Workspace

/-- A command that was found and is valid is carried out, with more written down before and
after. -/
theorem Registry.remarked_process {r : Registry} {c : Command} {text : String} {w : Workspace}
    (found : r.findMatching text = (some c, []))
    (valid : ∀ w', w.Remarked w' → (c.validate text).on w' = (.ok true, w')) :
    ∃ w', w.Remarked w' ∧ ((c.execute text).on w').2.Remarked ((r.process text).on w).2 ∧
      ∀ result, ((r.process text).on w).1 = .ok result →
        ((c.execute text).on w').1 = .ok result.output := by
  let sink := w.reach.dispatch.or w.reach.events
  let told := w.published sink (.commandDetected c.name text c.priority)
  have concludes := dispatch_concludes sink c text w
  have ran : (r.process text).on w = (dispatch sink c text).on w := by
    rw [on_process, found]
    rfl
  rw [← ran] at concludes
  have before : w.Remarked told := w.remarked_published _ _
  have checked : (c.validate text).on told = (.ok true, told) := valid told before
  have valid' : (c.turn text sink w).valid = .ok true := congrArg Prod.fst checked
  have started : (c.turn text sink w).checked = told := congrArg Prod.snd checked
  have output : (c.turn text sink w).output = ((c.execute text).on told).1 := by
    rw [← started]
    rfl
  have done : (c.turn text sink w).left = ((c.execute text).on told).2 := by
    rw [CommandTurn.left, valid', ← started]
    rfl
  refine ⟨told, before, ?_, fun result same => ?_⟩
  · obtain ⟨ns, left | ⟨last, left⟩⟩ := concludes.left <;> rw [done] at left <;> rw [left]
    · exact Workspace.remarked_noted _ ns
    · exact Workspace.lasting_remarked.trans (Workspace.remarked_noted _ ns)
        (Workspace.remarked_published _ sink last)
  · -- of the ways to conclude, only one gives a result after a command that is valid
    generalize (r.process text).on w = reached at concludes same
    rcases concludes with ⟨_, _, _, ends, -, rfl⟩ | ⟨_, _, -, rfl⟩
    · obtain rfl := same
      cases ends with
      | executed _ gave => exact output.symm.trans gave
      | refused invalid | unclear invalid =>
          rw [valid'] at invalid
          cases invalid
    · cases same

namespace Session

/-! ## Sessions under the usual settings -/

/-- A session under the usual settings with the built-in commands. -/
structure Usual (s : Session) (o : BuiltinOptions) : Prop where
  registry : s.registry = (Registry.mk []).registerAll (builtins o)
  symbols : o.symbols = Symbols.bundled
  ignored : s.lexicon.ignored = usualIgnoredWords
  book : s.dictation.book = usualPhrasebook
  only : s.commandOnly = true

variable {s : Session} {o : BuiltinOptions} {x : Saying}

theorem Usual.of_workspace (h : s.Usual o) (w : Workspace) : { s with workspace := w }.Usual o :=
  ⟨h.registry, h.symbols, h.ignored, h.book, h.only⟩

/-- An utterance of plain words is read as it was said. -/
theorem Usual.read_saying (h : s.Usual o) (usual : x.isUsual = true) :
    s.read x.text = some (.text x.text) := by
  have filtered : String.ofList (s.lexicon.significant x.text.toList) = x.text := by
    rw [Saying.significant_text usual h.ignored]
    rfl
  rw [read, filtered, if_neg x.text_ne_empty, h.book, Saying.process_text usual]

theorem Settled.remarked {w w' : Workspace} {utterance : String} {f : Failure}
    {o : Except Failure Outcome} {tale : List Event} (h : Settled w utterance f o tale w') :
    w.Remarked w' := by
  cases h with
  | reported =>
      exact Workspace.lasting_remarked.trans (Workspace.remarked_noted _ _)
        (Workspace.remarked_published _ _ _)
  | raised => exact Workspace.lasting_remarked.refl w

/-- A session does with an utterance of plain words what its commands do, if they give nothing to
type. -/
theorem Usual.next_saying (h : s.Usual o) (usual : x.isUsual = true) :
    ∃ w, s.workspace.Remarked w ∧
      ((∀ result, ((s.registry.process x.text).on w).1 = .ok result → result.output = none) →
        ∃ w', ((s.registry.process x.text).on w).2.Remarked w' ∧
          s.next (.say x.text) = { s with workspace := w' }) := by
  refine ⟨s.heard x.text (some x.text) none, s.workspace.remarked_published _ _, fun silent => ?_⟩
  have reads {p : Processed} (read : s.read x.text = some p) : p = .text x.text :=
    (Option.some.inj ((h.read_saying usual).symm.trans read)).symm
  obtain ⟨tale, came⟩ := came_processText s x.text
  rw [show s.next (.say x.text) = ((processText x.text).run s).2 from rfl]
  generalize (processText x.text).run s = r at came
  obtain ⟨outcome, s'⟩ := r
  dsimp only at came ⊢
  cases came with
  | unheard read =>
      rw [h.read_saying usual] at read
      cases read
  | nothing read | word read | wordFailed read => cases reads read
  | blank read => exact absurd (Processed.text.inj (reads read)).symm x.text_ne_empty
  | commandFailed read _ ran settled =>
      obtain rfl := Processed.text.inj (reads read)
      rw [ran]
      exact ⟨_, settled.remarked, rfl⟩
  | command read _ ran | unmatched read _ ran =>
      obtain rfl := Processed.text.inj (reads read)
      rw [ran]
      exact ⟨_, Workspace.lasting_remarked.refl _, rfl⟩
  | output read _ ran =>
      obtain rfl := Processed.text.inj (reads read)
      rw [ran] at silent
      cases silent _ rfl
  | typed _ _ _ _ free =>
      rw [h.only] at free
      cases free
  | @unwritten _ r _ _ _ _ _ _ _ read _ ran typing =>
      obtain rfl := Processed.text.inj (reads read)
      rw [ran] at silent
      simp [typing?, silent r rfl, h.only] at typing

/-- A session does with an utterance of plain words what the command does that the utterance is
for, if that is valid and gives nothing to type. -/
theorem Usual.next_command (h : s.Usual o) (usual : x.isUsual = true) {c : Command}
    (found : s.registry.findMatching x.text = (some c, []))
    (valid : ∀ w, s.workspace.Remarked w → (c.validate x.text).on w = (.ok true, w))
    (silent : (c.execute x.text).Silent) :
    ∃ w w', s.workspace.Remarked w ∧ ((c.execute x.text).on w).2.Remarked w' ∧
      s.next (.say x.text) = { s with workspace := w' } := by
  obtain ⟨w₁, before, goOn⟩ := h.next_saying usual
  obtain ⟨w₂, told, done, gives⟩ := Registry.remarked_process found fun w' more =>
    valid w' (Workspace.lasting_remarked.trans before more)
  have started := Workspace.lasting_remarked.trans before told
  obtain ⟨w₃, after, said⟩ := goOn fun result same => silent w₂ _ (gives result same)
  exact ⟨w₂, w₃, started, Workspace.lasting_remarked.trans done after, said⟩

/-- In particular it does the actions that the commands give. -/
theorem Usual.run_saying (h : s.Usual o) (usual : x.isUsual = true) {done : List Action}
    {c : Coordinator}
    (given : ∀ w, s.workspace.Became [] s.workspace.overlays w →
      ∃ result, (s.registry.process x.text).Gives w result done c ∧ result.output = none) :
    ∃ w, s.next (.say x.text) = { s with workspace := w } ∧ s.workspace.Became done c w := by
  obtain ⟨w₁, before, goOn⟩ := h.next_saying usual
  obtain ⟨result, ⟨w₂, ran, became⟩, silent⟩ := given w₁ before.became
  rw [ran] at goOn
  obtain ⟨w₃, after, said⟩ := goOn fun result' same => Except.ok.inj same ▸ silent
  refine ⟨w₃, said, ?_⟩
  have all := (before.became.trans became).trans after.became
  rwa [List.nil_append, List.append_nil, became.overlays] at all

end Session

namespace SessionSetup

variable {u : SessionSetup} {screen : ScreenSettings} {grid : GridSettings}
  {overlays : OverlaySettings}

/-- The built-in commands of a session know the usual symbols, the session's lexicon and the
configured grid size. -/
def builtinOptions (u : SessionSetup) : BuiltinOptions where
  lexicon := u.lexicon.1
  gridSize := (u.settings.grid.defaultSize : Nat)
  screenshots := u.screenshots
  platform := u.platform

theorem usual_start (usual : u.settings = { screen, grid, overlays }) :
    u.start.Usual u.builtinOptions := by
  obtain ⟨settings, _⟩ := u
  obtain rfl : settings = _ := usual
  exact ⟨rfl, rfl, rfl, rfl, rfl⟩

theorem Reaches.after {s : Session} (reached : u.Reaches s) (hs : List Happening) :
    u.Reaches (s.after hs) := by
  induction hs generalizing s with
  | nil => exact reached
  | cons h hs ih => exact ih (.next h reached)

/-- Nothing that happens changes the settings of a session. -/
theorem usual_after (usual : u.settings = { screen, grid, overlays }) (hs : List Happening) :
    (u.start.after hs).Usual u.builtinOptions := by
  have reached : u.Reaches (u.start.after hs) := .after .start hs
  have start := usual_start usual
  have frame := reached.frame
  refine ⟨?_, start.symbols, ?_, ?_, ?_⟩
  · rw [frame]
    exact start.registry
  · rw [frame]
    exact start.ignored
  · rw [reached.book, ← start.book]
    rfl
  · rw [frame]
    exact start.only

end SessionSetup

end VoiceControl
