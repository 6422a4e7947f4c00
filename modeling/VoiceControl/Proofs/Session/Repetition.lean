import VoiceControl.Proofs.Command.Movements
import VoiceControl.Proofs.Session.Restraint

/-!
# Repeated movements

Over a whole run of a session, the movements that utterances are for are counted as they are made,
and nothing else comes near the counts. So each scroll and each nudge is as long as the row of equal
movements before it makes it, whatever other commands, texts and happenings came between.

* `Session.movements`: the movements of a run, by what its utterances are for.
* `Session.tallied_after`: the counts of a session are those of these movements.
* `SessionSetup.movement_grows_with_streak`: how far each movement goes.
-/

namespace VoiceControl

/-- The utterance that a happening brings, if it does. -/
def Happening.utterance? : Happening → Option String
  | .say utterance => some utterance
  | .hear length (some (.ok text)) =>
      if length = 0 ∨ Text.trimText text = "" then none else some (Text.trimText text)
  | _ => none

namespace Session

variable {s s' : Session} {utterance : String} {m : Movement}
  {o : Except Failure Outcome} {tale : List Event}

/-- The movement that an utterance is for. -/
def movementFor? (s : Session) (utterance : String) : Option Movement :=
  match s.read utterance with
  | some (.text t) =>
      if t = "" then none else (s.registry.findMatching t).1.bind (·.movement? t)
  | _ => none

/-- The movement that a happening is for, which it makes where nothing is refused. -/
def movement? (s : Session) (h : Happening) : Option Movement := h.utterance?.bind s.movementFor?

/-- The movements that happenings are for, one after the other. -/
def movements (s : Session) : List Happening → List Movement
  | [] => []
  | h :: hs => (s.movement? h).toList ++ (s.next h).movements hs

/-! ## Utterances -/

/-- Every command counts where it should, and finding out whether it is valid changes nothing. -/
def Accounted (s : Session) : Prop := ∀ c ∈ s.registry.commands, c.Accounted ∧ c.Discerns

theorem Accounted.of_findMatching (h : s.Accounted) {t : String} {c : Command}
    (found : (s.registry.findMatching t).1 = some c) : c.Accounted ∧ c.Discerns := by
  rw [Registry.findMatching_fst] at found
  exact h c (List.mem_of_find?_eq_some found)

theorem movementFor?_of_read {t : String} (read : s.read utterance = some (.text t))
    (full : t ≠ "") :
    s.movementFor? utterance = (s.registry.findMatching t).1.bind (·.movement? t) := by
  rw [movementFor?, read]
  exact if_neg full

/-- An utterance is for a movement if the command for its text is. -/
theorem exists_of_movementFor?_eq_some (moves : s.movementFor? utterance = some m) :
    ∃ t c, s.read utterance = some (.text t) ∧ t ≠ "" ∧
      (s.registry.findMatching t).1 = some c ∧ c.movement? t = some m := by
  rw [movementFor?] at moves
  split at moves
  · rename_i t read
    by_cases full : t = ""
    · rw [if_pos full] at moves
      cases moves
    · rw [if_neg full] at moves
      obtain ⟨c, found, makes⟩ := Option.bind_eq_some_iff.1 moves
      exact ⟨t, c, read, full, found, makes⟩
  · cases moves

/-- An utterance that is for a movement makes it. -/
theorem Came.moved (h : s.Came utterance o tale s') (accounted : s.Accounted)
    (granted : s.workspace.desktop.refuses = fun _ _ => none)
    (moves : s.movementFor? utterance = some m) : s.workspace.Moved m s'.workspace := by
  obtain ⟨t, c, read, full, found, makes⟩ := exists_of_movementFor?_eq_some moves
  obtain ⟨rfl, heard⟩ := (accounted.of_findMatching found).1.eq_command makes
  have told := s.workspace.unmoved_published (some .main) (.textProcessed utterance (some t) none)
  obtain ⟨w, ran, moved⟩ :=
    Registry.moved_process (w := s.heard utterance (some t) none) granted found heard
  have made := moved.of_unmoved told (Workspace.lasting_unmoved.refl _)
  cases h with
  | unheard read' | nothing read' | word read' | wordFailed read' =>
      rw [read] at read'
      cases read'
  | blank read' =>
      rw [read] at read'
      exact absurd (Processed.text.inj (Option.some.inj read')) full
  | commandFailed read' _ ran' | output read' _ ran' | unmatched read' _ ran'
  | typed read' _ ran' =>
      obtain rfl := Processed.text.inj (Option.some.inj (read.symm.trans read'))
      cases (Prod.mk.inj (ran.symm.trans ran')).1
  | unwritten read' _ ran' typing =>
      -- a movement gives no text
      obtain rfl := Processed.text.inj (Option.some.inj (read.symm.trans read'))
      obtain rfl := Except.ok.inj (Prod.mk.inj (ran.symm.trans ran')).1
      cases (typing?_executed.1 typing).1
  | command read' _ ran' =>
      obtain rfl := Processed.text.inj (Option.some.inj (read.symm.trans read'))
      rw [← (Prod.mk.inj (ran.symm.trans ran')).2]
      exact made

theorem typist_resting : Typist Workspace.Resting where
  lasting := Workspace.lasting_resting
  noted w ns := (w.unmoved_noted ns).resting
  published w e := (w.unmoved_published (some .main) e).resting
  type _ := Act.rests_act rfl

theorem rests_wordAct (n : Nat) (c : CommandWord) : (wordAct n c).Rests := by
  cases c with
  | undoLast =>
      induction n with
      | zero => exact Act.rests_pure _
      | succ n ih => exact (Act.rests_tap _).bind fun _ => ih
  | clearLine =>
      exact (Act.rests_tap _).bind fun _ => (Act.rests_pressCombo _ _).bind fun _ =>
        Act.rests_tap _

/-- An utterance that is for no movement makes none. -/
theorem Came.rests (h : s.Came utterance o tale s') (accounted : s.Accounted)
    (still : s.movementFor? utterance = none) : s.workspace.Resting s'.workspace := by
  refine h.keeps typist_resting rests_wordAct fun t read full => ?_
  refine Registry.rests_process fun c found => ?_
  obtain ⟨counts, discerns⟩ := accounted.of_findMatching found
  rw [movementFor?_of_read read full, found] at still
  refine ⟨fun w => ?_, counts.rests still⟩
  rw [← discerns t w]
  exact Workspace.lasting_resting.refl w

/-! ## Happenings -/

/-- Transcribing is written down. -/
theorem unmoved_transcribe (s : Session) (length : Nat)
    (transcriber : Option (Except Failure String)) :
    s.Unmoved ((transcribe length transcriber).run s).2 := by
  unfold transcribe
  by_cases silent : length = 0
  · rw [if_pos silent]
    exact ⟨_, rfl⟩
  · rw [if_neg silent]
    rcases transcriber with _ | f | _
    · exact ⟨_, rfl⟩
    · dsimp only
      rw [run_bind]
      cases f.asError <;> exact ⟨_, rfl⟩
    · exact ⟨_, rfl⟩

/-- A recording brings the utterance that it is transcribed to, unless that is blank. -/
theorem utterance?_hear (s : Session) (length : Nat)
    (transcriber : Option (Except Failure String)) :
    (Happening.hear length transcriber).utterance? =
      ((transcribe length transcriber).run s).1.toOption.join.filter (· ≠ "") := by
  unfold transcribe
  by_cases silent : length = 0
  · rw [if_pos silent]
    rcases transcriber with _ | _ | text
    · rfl
    · rfl
    · exact if_pos (.inl silent)
  · rw [if_neg silent]
    rcases transcriber with _ | f | text
    · rfl
    · dsimp only
      rw [run_bind]
      cases f.asError <;> rfl
    · show (if length = 0 ∨ Text.trimText text = "" then none else some (Text.trimText text)) =
        (some (Text.trimText text)).filter (· ≠ "")
      by_cases blank : Text.trimText text = ""
      · rw [if_pos (.inr blank), blank]
        rfl
      · rw [if_neg (not_or.2 ⟨silent, blank⟩)]
        exact (if_pos (by simpa using blank)).symm

theorem Unmoved.workspace (h : s.Unmoved s') : s.workspace.Unmoved s'.workspace := by
  obtain ⟨j, rfl⟩ := h
  exact ⟨j, rfl⟩

/-- A happening brings an utterance, which is processed once that was written down, or it does
nothing about movements. -/
theorem next_cases (s : Session) (h : Happening) :
    (∃ utterance s₁, h.utterance? = some utterance ∧ s.Unmoved s₁ ∧
      s.next h = ((processText utterance).run s₁).2) ∨
    h.utterance? = none ∧ s.workspace.Resting (s.next h).workspace := by
  cases h with
  | say utterance => exact .inl ⟨utterance, s, rfl, ⟨_, rfl⟩, rfl⟩
  | hear length transcriber =>
      have written := s.unmoved_transcribe length transcriber
      rw [s.utterance?_hear, next, handleAudio, run_bind]
      rcases ((transcribe length transcriber).run s).1 with _ | _ | text
      · exact .inr ⟨rfl, written.workspace.resting⟩
      · exact .inr ⟨rfl, written.workspace.resting⟩
      · by_cases blank : text = ""
        · dsimp only
          rw [if_pos blank]
          exact .inr ⟨by simp [blank, Except.toOption], written.workspace.resting⟩
        · dsimp only
          rw [if_neg blank]
          exact .inl ⟨text, _, by simp [blank, Except.toOption], written, rfl⟩
  | move m | flush | change files existing environment now sources =>
      exact .inr ⟨rfl, rfl, rfl, rfl⟩

/-- What an utterance is for does not depend on what was written down. -/
theorem Unmoved.movementFor?_eq (h : s.Unmoved s') (utterance : String) :
    s'.movementFor? utterance = s.movementFor? utterance := by
  obtain ⟨j, rfl⟩ := h
  simp only [movementFor?, read]

theorem Unmoved.accounted (h : s.Unmoved s') (accounted : s.Accounted) : s'.Accounted := by
  obtain ⟨j, rfl⟩ := h
  exact accounted

/-- A happening that makes a movement makes no other one. -/
theorem moved_next (accounted : s.Accounted)
    (granted : s.workspace.desktop.refuses = fun _ _ => none) {h : Happening}
    (moves : s.movement? h = some m) : s.workspace.Moved m (s.next h).workspace := by
  rw [movement?] at moves
  rcases s.next_cases h with ⟨utterance, s₁, brings, written, goes⟩ | ⟨brings, -⟩
  · rw [brings, Option.bind_some, ← written.movementFor?_eq] at moves
    have granted' : s₁.workspace.desktop.refuses = fun _ _ => none := by
      obtain ⟨j, rfl⟩ := written
      exact granted
    obtain ⟨tale, came⟩ := came_processText s₁ utterance
    rw [goes]
    exact (came.moved (written.accounted accounted) granted' moves).of_unmoved written.workspace
      (Workspace.lasting_unmoved.refl _)
  · rw [brings] at moves
    cases moves

/-- A happening that makes no movement leaves the counts and scrolls nothing. -/
theorem resting_next (accounted : s.Accounted) {h : Happening} (still : s.movement? h = none) :
    s.workspace.Resting (s.next h).workspace := by
  rw [movement?] at still
  rcases s.next_cases h with ⟨utterance, s₁, brings, written, goes⟩ | ⟨-, resting⟩
  · rw [brings, Option.bind_some, ← written.movementFor?_eq] at still
    obtain ⟨tale, came⟩ := came_processText s₁ utterance
    rw [goes]
    exact Workspace.lasting_resting.trans written.workspace.resting
      (came.rests (written.accounted accounted) still)
  · exact resting

/-! ## Runs -/

/-- A session in progress in which every command counts, on the screen of its settings, with the
counts of the movements that were made so far. -/
structure Tallied (u : SessionSetup) (past : List Movement) (s : Session) : Prop
    extends Underway u s where
  screen : s.workspace.screen = u.screen
  counts : s.workspace.Counts past

theorem Underway.accounted {u : SessionSetup} (h : Underway u s) : s.Accounted := by
  intro c hc
  rw [h.registry] at hc
  exact ⟨SessionSetup.forall_registry Command.accounted_builtins
    (fun first lx => Command.accounted_customs first _ lx) c hc, u.discerns_registry c hc⟩

theorem tallied_start (u : SessionSetup) : Tallied u [] u.start :=
  ⟨underway_start u, rfl, fun _ => rfl⟩

/-- Whatever happens, the counts remain those of the movements made. -/
theorem Tallied.next {u : SessionSetup} {past : List Movement} (h : Tallied u past s)
    (willing : u.refuses = fun _ _ => none) (happening : Happening) :
    Tallied u (past ++ (s.movement? happening).toList) (s.next happening) := by
  obtain ⟨tale, step⟩ := s.step_next happening
  have underway := h.toUnderway.step step
  cases moves : s.movement? happening with
  | some m =>
      have moved := moved_next h.toUnderway.accounted (h.refuses.trans willing) moves
      exact ⟨underway, moved.screen.trans h.screen, h.counts.moved moved⟩
  | none =>
      have resting := resting_next h.toUnderway.accounted moves
      refine ⟨underway, resting.screen.trans h.screen, ?_⟩
      rw [Option.toList_none, List.append_nil]
      exact h.counts.resting resting

theorem Tallied.after {u : SessionSetup} {past : List Movement} (h : Tallied u past s)
    (willing : u.refuses = fun _ _ => none) (hs : List Happening) :
    Tallied u (past ++ s.movements hs) (s.after hs) := by
  induction hs generalizing s past with
  | nil =>
      rw [movements, List.append_nil]
      exact h
  | cons happening hs ih =>
      rw [movements, ← List.append_assoc]
      exact ih (h.next willing happening)

/-- The counts of a session are those of the movements that were made. -/
theorem tallied_after {u : SessionSetup} (willing : u.refuses = fun _ _ => none)
    (hs : List Happening) : Tallied u (u.start.movements hs) (u.start.after hs) :=
  (tallied_start u).after willing hs

theorem mem_directions_of_movement? {h : Happening} (moves : s.movement? h = some m) :
    m.direction ∈ m.motion.directions := by
  obtain ⟨utterance, -, moves⟩ := Option.bind_eq_some_iff.1 moves
  obtain ⟨t, c, -, -, -, makes⟩ := exists_of_movementFor?_eq_some moves
  exact Command.mem_directions_of_movement? makes

end Session

/-- Where nothing is refused, and whatever a session went through: an utterance that is for a scroll
scrolls by 3 units, doubled for each scroll in the same direction that came immediately before among
the scrolls, up to 16 times as many. One that is for a nudge takes the pointer 50 pixels up or down,
doubled likewise for the nudges before, up to 800. Any other happening scrolls nothing. -/
theorem SessionSetup.movement_grows_with_streak (u : SessionSetup)
    (willing : u.refuses = fun _ _ => none) (hs : List Happening) (h : Happening) :
    let s := u.start.after hs
    let past := u.start.movements hs
    let k := s.workspace.desktop
    let k' := (s.next h).workspace.desktop
    (s.movement? h = none → k'.scrolls = k.scrolls) ∧
    (∀ d, s.movement? h = some ⟨.scroll, d⟩ →
      k.Scrolled d (3 * min (2 ^ Movement.streak past ⟨.scroll, d⟩) 16) k') ∧
    ∀ d, s.movement? h = some ⟨.nudge, d⟩ →
      k.Nudged u.screen.height d (min (50 * 2 ^ Movement.streak past ⟨.nudge, d⟩) 800) k' := by
  intro s past k k'
  have tallied := Session.tallied_after willing hs
  have accounted := tallied.toUnderway.accounted
  have made (m : Movement) (moves : s.movement? h = some m) :=
    Session.moved_next accounted (tallied.refuses.trans willing) moves
  refine ⟨fun still => (Session.resting_next accounted still).scrolls,
    fun d moves => (made _ moves).scrolled tallied.counts, fun d moves => ?_⟩
  rw [← tallied.screen]
  exact (made _ moves).nudged tallied.counts (Session.mem_directions_of_movement? moves)

/-- A third scroll down and a second nudge up, with a nudge and a click between. -/
theorem SessionSetup.movement_grows_with_streak_between_clicks :
    let u : SessionSetup := {
      settings := { text := { punctuationCommands := false } }, platform := "linux"
      files := .empty "/work", environment := [], now := ⟨2024, 6, 7, 8, 9, 10⟩ }
    let hs : List Happening :=
      [.say "scroll down", .say "move up", .say "scroll down", .say "click"]
    let scroll : Happening := .say "scroll down"
    let nudge : Happening := .say "move up"
    (u.refuses = fun _ _ => none) ∧
    ((u.start.after hs).movement? scroll = some ⟨.scroll, .down⟩ ∧
      (u.start.after hs).workspace.desktop.Scrolled .down 12
        ((u.start.after hs).next scroll).workspace.desktop) ∧
    (u.start.after hs).movement? nudge = some ⟨.nudge, .up⟩ ∧
      (u.start.after hs).workspace.desktop.pointer.y = .finite 490 ∧
      ((u.start.after hs).next nudge).workspace.desktop.pointer.y = .finite 390 := by
  intro u hs scroll nudge
  have facts : (u.start.after hs).movement? scroll = some ⟨.scroll, .down⟩ ∧
      (u.start.after hs).movement? nudge = some ⟨.nudge, .up⟩ ∧
      Movement.streak (u.start.movements hs) ⟨.scroll, .down⟩ = 2 ∧
      Movement.streak (u.start.movements hs) ⟨.nudge, .up⟩ = 1 ∧
      (u.start.after hs).workspace.desktop.pointer.y = .finite 490 ∧
      u.screen.height - 1 = .finite 1079 := by decide +kernel
  obtain ⟨scrolls, nudges, twice, once, here, last⟩ := facts
  have scrolled := (u.movement_grows_with_streak rfl hs scroll).2.1 .down scrolls
  have nudged := (u.movement_grows_with_streak rfl hs nudge).2.2 .up nudges
  rw [twice, show 3 * min (2 ^ 2) 16 = 12 by decide] at scrolled
  rw [once, show min (50 * 2 ^ 1) 800 = 100 by decide] at nudged
  have goes := (nudged.row 490 1079 here last (by norm_num) (by norm_num)).2
  have row : max (0 : Rat) (min 1079 (490 + (Command.scrollVector .up).2 * (100 : Nat))) =
      (390 : Nat) := by norm_num [Command.scrollVector]
  rw [row] at goes
  exact ⟨rfl, ⟨scrolls, scrolled⟩, nudges, here, goes (Number.fits_natCast (by decide))⟩

end VoiceControl
