import VoiceControl.Proofs.Command.Directions
import VoiceControl.Proofs.Command.Resting
import VoiceControl.Proofs.Number.Rounding

/-!
# Movements

Scrolls and nudges of the pointer are movements: they go into a direction, and go further the more
often they went into it. How often that was is counted for scrolls and for nudges separately, and
the count is that of the movements in a row at the end of those that were made so far.

* `Movement.streak`: this count, read off the movements that were made.
* `Workspace.Moved`: what a movement does to a workspace, and `Workspace.Counts`, which it keeps.
* `Desktop.Scrolled`, `Desktop.Nudged`: what is seen of it on the desktop.
-/

namespace VoiceControl

/-! ## Counting -/

/-- The movements that grow with repetition. -/
inductive Motion where
  | scroll
  | nudge
  deriving Repr, DecidableEq

namespace Motion

/-- The identity of the command that makes it, under which its repetitions are counted. -/
def counter : Motion → Nat
  | .scroll => 21
  | .nudge => 22

def command : Motion → Command
  | .scroll => .scroll 21
  | .nudge => .mouseMove 22

def directions : Motion → List Direction
  | .scroll => Command.scrollDirections
  | .nudge => Command.nudgeDirections

theorem counter_inj {m m' : Motion} (h : m.counter = m'.counter) : m = m' := by
  cases m <;> cases m' <;> first | rfl | cases h

end Motion

/-- A movement into a direction. -/
structure Movement where
  motion : Motion
  direction : Direction
  deriving Repr, DecidableEq

namespace Movement

/-- The directions of the movements of a sort, in order. -/
def directions (motion : Motion) (past : List Movement) : List Direction :=
  (past.filter (·.motion = motion)).map (·.direction)

/-- How many movements of the same sort, with none of that sort between, went into the same
direction immediately before. -/
def streak (past : List Movement) (m : Movement) : Nat :=
  ((directions m.motion past).reverse.takeWhile (· = m.direction)).length

theorem directions_concat (motion : Motion) (past : List Movement) (m : Movement) :
    directions motion (past ++ [m]) =
      if m.motion = motion then directions motion past ++ [m.direction]
      else directions motion past := by
  unfold directions
  rw [List.filter_append, List.map_append]
  split
  · rw [List.filter_cons_of_pos (by simpa)]
    rfl
  · rw [List.filter_cons_of_neg (by simpa)]
    exact List.append_nil _

end Movement

/-- The count of repetitions is the length of the run at the end. -/
theorem Repeats.count_next_foldl {D : Type} [DecidableEq D] (ds : List D) (d : D) :
    ((ds.foldl next {}).next d).count = (ds.reverse.takeWhile (· = d)).length := by
  -- the last direction that was gone into is the first of those in reverse
  induction ds using List.reverseRecOn generalizing d with
  | nil => rfl
  | append_singleton ds e ih =>
      rw [List.foldl_append, List.reverse_append, List.foldl_cons, List.foldl_nil,
        List.reverse_singleton, List.singleton_append]
      by_cases same : e = d
      · subst same
        rw [count_next_next, ih, List.takeWhile_cons_of_pos (by simp), List.length_cons]
      · rw [List.takeWhile_cons_of_neg (by simpa), List.length_nil]
        exact count_next_of_ne fun last => same (Option.some.inj ((last_next _ e).symm.trans last))

/-! ## Moving -/

/-- The action of a movement after so many repetitions, on a screen of some height with the pointer
at a point. -/
def Movement.action (m : Movement) (height : Number) (p : Point Number) (repetitions : Nat) :
    Action :=
  match m.motion with
  | .scroll =>
      let amount := Command.baseScroll * Command.scrollFactor repetitions
      .scroll (.ofInt ((Command.scrollVector m.direction).1 * amount))
        (.ofInt ((Command.scrollVector m.direction).2 * amount))
  | .nudge =>
      .movePointer ⟨p.x, Command.nudged height p.y (Command.nudgeStep repetitions) m.direction⟩

namespace Workspace

variable {w w' w'' : Workspace} {m : Movement} {past : List Movement}

/-- The action of a movement in a workspace as it is. -/
def actionOf (w : Workspace) (m : Movement) : Action :=
  m.action w.screen.height w.desktop.pointer
    ((w.repeats m.motion.counter).next m.direction).count

/-- The workspace once a movement was counted. -/
def counted (w : Workspace) (m : Movement) : Workspace :=
  { w with repeats := fun i =>
      if i = m.motion.counter then (w.repeats m.motion.counter).next m.direction else w.repeats i }

/-- A movement was counted and made. -/
structure Moved (m : Movement) (w w' : Workspace) : Prop where
  repeats : w'.repeats = (w.counted m).repeats
  screen : w'.screen = w.screen
  desktop : ∃ calls, w'.desktop = { w.desktop.perform (.act (w.actionOf m)) with calls }

/-- What is written down before and after does not count. -/
theorem Moved.of_unmoved {v v' : Workspace} (h : w.Moved m w') (before : v.Unmoved w)
    (after : w'.Unmoved v') : v.Moved m v' := by
  obtain ⟨j, rfl⟩ := before
  obtain ⟨j', rfl⟩ := after
  exact ⟨h.repeats, h.screen, h.desktop⟩

/-- The counts of a workspace are those of the movements that were made so far. -/
def Counts (w : Workspace) (past : List Movement) : Prop :=
  ∀ motion : Motion,
    w.repeats motion.counter = (Movement.directions motion past).foldl Repeats.next {}

theorem Counts.count_next (h : w.Counts past) (m : Movement) :
    ((w.repeats m.motion.counter).next m.direction).count = m.streak past := by
  rw [h m.motion]
  exact Repeats.count_next_foldl _ _

theorem Counts.moved (h : w.Counts past) (moved : w.Moved m w') : w'.Counts (past ++ [m]) := by
  intro motion
  rw [moved.repeats, Movement.directions_concat, Workspace.counted]
  dsimp only
  by_cases same : m.motion = motion
  · subst same
    rw [if_pos rfl, if_pos rfl, h m.motion, List.foldl_append]
    rfl
  · rw [if_neg fun counter => same (Motion.counter_inj counter).symm, if_neg same, h motion]

theorem Counts.resting (h : w.Counts past) (resting : w.Resting w') : w'.Counts past := by
  intro motion
  rw [resting.repeats, h motion]

end Workspace

/-! ## The commands that move -/

namespace Act

variable {w : Workspace}

/-- An action that is granted is done, and reporting it is only written down. -/
theorem on_act_report (granted : w.desktop.refuses = fun _ _ => none) (a : Action)
    (name text : String) (detail : Entries Tree) :
    ∃ w', (do Act.act a; Command.report name text detail; return none :
        Act (Option String)).on w = (.ok none, w') ∧
      { w with desktop :=
        { w.desktop.perform (.act a) with calls := .act a :: w.desktop.calls } }.Unmoved w' := by
  have called : w.desktop.call (.act a) =
      (.ok (), { w.desktop.perform (.act a) with calls := .act a :: w.desktop.calls }) := by
    have free : w.desktop.refuses w.desktop.calls (.act a) = none := by rw [granted]
    rw [Desktop.call, free]
    cases a <;> rfl
  refine ⟨_, ?_, Workspace.unmoved_published _ w.reach.events (.commandAction name text detail)⟩
  rw [on_bind, act, on_call, called]
  dsimp only
  rw [on_bind, on_report]
  rfl

/-- Where nothing is refused, a command that finds a direction moves into it. -/
theorem moved_execute (granted : w.desktop.refuses = fun _ _ => none) (m : Movement) (text : String)
    (found : Command.direction? m.motion.directions (Utterance.plain text.toList) =
      some m.direction) :
    ∃ w', (m.motion.command.execute text).on w = (.ok none, w') ∧ w.Moved m w' := by
  obtain ⟨motion, d⟩ := m
  cases motion with
  | scroll =>
      show ∃ w', ((Command.scroll 21).execute text).on w = (.ok none, w') ∧ _
      unfold Command.scroll
      dsimp only at found ⊢
      rw [show Command.direction? Command.scrollDirections _ = _ from found]
      dsimp only
      rw [on_bind, Command.on_repeated]
      dsimp only
      obtain ⟨w', ran, j, rfl⟩ := on_act_report (w := w.counted ⟨.scroll, d⟩) granted _ _ _ _
      exact ⟨_, ran, rfl, rfl, _, rfl⟩
  | nudge =>
      show ∃ w', ((Command.mouseMove 22).execute text).on w = (.ok none, w') ∧ _
      unfold Command.mouseMove
      dsimp only at found ⊢
      rw [show Command.direction? Command.nudgeDirections _ = _ from found]
      dsimp only
      rw [on_bind, Command.on_repeated]
      dsimp only
      rw [on_bind, Command.on_pointer]
      · dsimp only
        rw [on_bind, on_get]
        let asking := { w.counted ⟨.nudge, d⟩ with
          desktop := { w.desktop with calls := .askPointer :: w.desktop.calls } }
        obtain ⟨w', ran, j, rfl⟩ := on_act_report (w := asking) granted _ _ _ _
        exact ⟨_, ran, rfl, rfl, _, rfl⟩
      · dsimp only
        rw [granted]

end Act

namespace Command

/-- What a command moves by repetition, if it does. -/
def motion? (c : Command) : Option Motion :=
  if c.name = "ScrollCommand" then some .scroll
  else if c.name = "MouseMoveCommand" then some .nudge
  else none

/-- The movement that a command makes for a text. -/
def movement? (c : Command) (text : String) : Option Movement := do
  let motion ← c.motion?
  let d ← direction? motion.directions (Utterance.plain text.toList)
  return ⟨motion, d⟩

/-- A command is one of the two that move by repetition, or it has nothing to do with that. -/
def Accounted (c : Command) : Prop :=
  match c.motion? with
  | some motion => c = motion.command
  | none => c.Rests

theorem accounted_builtins (o : BuiltinOptions) : ∀ c ∈ builtins o, c.Accounted := by
  intro c hc
  have named {name : String} {d : Command} (all : (builtins o).filter (·.name = name) = [d])
      (same : c.name = name) : c = d := by
    have mem : c ∈ (builtins o).filter (·.name = name) :=
      List.mem_filter.2 ⟨hc, decide_eq_true same⟩
    rwa [all, List.mem_singleton] at mem
  unfold Accounted motion?
  by_cases scrolls : c.name = "ScrollCommand"
  · rw [if_pos scrolls]
    exact named (filter_builtins_scroll o) scrolls
  · rw [if_neg scrolls]
    by_cases nudges : c.name = "MouseMoveCommand"
    · rw [if_pos nudges]
      exact named (filter_builtins_mouseMove o) nudges
    · rw [if_neg nudges]
      exact rests_builtins o c hc scrolls nudges

theorem accounted_customs (first : Nat) (s : CustomSettings) (lx : Option Lexicon) :
    ∀ c ∈ (customs first s lx).1, c.Accounted := by
  intro c hc
  obtain ⟨⟨d, i⟩, -, rfl⟩ := List.mem_map.1 hc
  exact rests_custom _ d _

section Accounted

variable {c : Command} {text : String} {m : Movement}

theorem mem_directions_of_movement? (moves : c.movement? text = some m) :
    m.direction ∈ m.motion.directions := by
  obtain ⟨motion, -, moves⟩ := Option.bind_eq_some_iff.1 moves
  obtain ⟨d, found, made⟩ := Option.bind_eq_some_iff.1 moves
  obtain rfl := Option.some.inj made
  exact List.mem_of_find?_eq_some found

theorem Accounted.eq_command (h : c.Accounted) (moves : c.movement? text = some m) :
    c = m.motion.command ∧
      direction? m.motion.directions (Utterance.plain text.toList) = some m.direction := by
  obtain ⟨motion, which, moves⟩ := Option.bind_eq_some_iff.1 moves
  obtain ⟨d, found, made⟩ := Option.bind_eq_some_iff.1 moves
  obtain rfl := Option.some.inj made
  rw [Accounted, which] at h
  exact ⟨h, found⟩

/-- A command that finds no direction does nothing. -/
theorem Accounted.rests (h : c.Accounted) (still : c.movement? text = none) :
    (c.execute text).Rests := by
  rw [Accounted] at h
  rw [movement?] at still
  cases which : c.motion? with
  | none =>
      rw [which] at h
      exact h text
  | some motion =>
      rw [which] at h still
      obtain rfl : c = motion.command := h
      have nowhere : direction? motion.directions (Utterance.plain text.toList) = none := by
        cases found : direction? motion.directions (Utterance.plain text.toList) with
        | none => rfl
        | some d =>
            rw [Option.bind_eq_bind, Option.bind_some, found] at still
            cases still
      have idle : motion.command.execute text = pure none := by
        cases motion with
        | scroll =>
            show (Command.scroll 21).execute text = _
            rw [Command.scroll]
            dsimp only
            rw [show direction? scrollDirections _ = none from nowhere]
        | nudge =>
            show (Command.mouseMove 22).execute text = _
            rw [Command.mouseMove]
            dsimp only
            rw [show direction? nudgeDirections _ = none from nowhere]
      rw [idle]
      exact Act.rests_pure none

end Accounted

end Command

namespace Registry

open Act

variable {r : Registry} {text : String} {w : Workspace}

/-- Dispatching adds nothing but what is written down. -/
theorem rests_process (each : ∀ c, (r.findMatching text).1 = some c →
    (c.validate text).Rests ∧ (c.execute text).Rests) : (r.process text).Rests := by
  intro w
  have noted := (w.unmoved_noted (r.findMatching text).2).resting
  rw [on_process]
  cases found : (r.findMatching text).1 with
  | none => exact noted
  | some c =>
      obtain ⟨valid, works⟩ := each c found
      generalize w.noted (r.findMatching text).2 = w₁ at noted ⊢
      let sink := w.reach.dispatch.or w.reach.events
      obtain ⟨ns, left⟩ := (dispatch_concludes sink c text w₁).left
      have told := (w₁.unmoved_published sink (.commandDetected c.name text c.priority)).resting
      have lasting := Workspace.lasting_resting
      have checked := lasting.trans told (valid _)
      have turn : w₁.Resting (c.turn text sink w₁).left := by
        rw [CommandTurn.left]
        split
        · exact lasting.trans checked (works _)
        · exact checked
      have ended := lasting.trans (lasting.trans noted turn)
        (Workspace.unmoved_noted _ ns).resting
      show w.Resting ((dispatch sink c text).on w₁).2
      rcases left with left | ⟨last, left⟩ <;> rw [left]
      · exact ended
      · exact lasting.trans ended (Workspace.unmoved_published _ sink last).resting

/-- Where nothing is refused, a text that is for a movement makes it and gives nothing to type. -/
theorem moved_process {m : Movement} (granted : w.desktop.refuses = fun _ _ => none)
    (found : (r.findMatching text).1 = some m.motion.command)
    (heard : Command.direction? m.motion.directions (Utterance.plain text.toList) =
      some m.direction) :
    ∃ w', (r.process text).on w = (.ok ⟨none, true⟩, w') ∧ w.Moved m w' := by
  rw [on_process, found]
  dsimp only
  let sink := w.reach.dispatch.or w.reach.events
  let w₁ := w.noted (r.findMatching text).2
  let told := w₁.published sink
    (.commandDetected m.motion.command.name text m.motion.command.priority)
  have before : w.Unmoved told := Workspace.lasting_unmoved.trans (w.unmoved_noted _)
    (w₁.unmoved_published _ _)
  have granted' : told.desktop.refuses = fun _ _ => none := by
    obtain ⟨j, same⟩ := before
    rw [same]
    exact granted
  obtain ⟨w₂, ran, moved⟩ := moved_execute granted' m text heard
  have checked : (m.motion.command.validate text).on told = (.ok true, told) := by
    cases m.motion <;> rfl
  have valid : (m.motion.command.turn text sink w₁).valid = .ok true :=
    congrArg Prod.fst checked
  have started : (m.motion.command.turn text sink w₁).checked = told := congrArg Prod.snd checked
  have executed : (m.motion.command.execute text).on told =
      ((m.motion.command.turn text sink w₁).output, (m.motion.command.turn text sink w₁).done) := by
    rw [← started]
    rfl
  obtain ⟨output, done⟩ := Prod.mk.inj (ran.symm.trans executed)
  have dispatched :=
    (dispatch_concludes sink m.motion.command text w₁).of_executed valid output.symm
  rw [← done] at dispatched
  exact ⟨_, dispatched, moved.of_unmoved before (w₂.unmoved_published _ _)⟩

end Registry

/-! ## What is seen on the desktop -/

namespace Command

open Number

variable {height y : Number} {d : Direction} {step : Nat}

/-- The last row of a screen fits, unless it lies above the first one. -/
theorem fits_lastRow {b : Rat} (last : height - 1 = .finite b) (least : 0 ≤ b) : Fits b :=
  fits_of_add_eq (x := height) (y := (1 : Number).neg) last least

/-- A nudge from a row of the screen goes as far as the step, or to where the screen ends. -/
theorem nudged_eq_ofRat {a b : Rat} (last : height - 1 = .finite b) (least : 0 ≤ a) (most : a ≤ b)
    (short : step ≤ exactLimit) (vertical : d ∈ nudgeDirections) :
    nudged height (.finite a) (step : Number) d =
      ofRat (Max.max 0 (Min.min b (a + (scrollVector d).2 * step))) := by
  have moved : (0 : Rat) ≤ step := Nat.cast_nonneg _
  rw [natCast_eq_finite short]
  simp only [nudgeDirections, List.mem_cons, List.not_mem_nil, or_false] at vertical
  rcases vertical with rfl | rfl
  · have up : a + ((scrollVector .up).2 : Int) * (step : Rat) = a + -step := by
      norm_num [scrollVector]
    rw [up, min_eq_right (by linarith), ← max_zero_ofRat]
    rfl
  · have down : a + ((scrollVector .down).2 : Int) * (step : Rat) = a + step := by
      norm_num [scrollVector]
    have below : (0 : Rat) ≤ a + step := add_nonneg least moved
    rw [down, max_eq_right (le_min (least.trans most) below),
      ← min_ofRat (fits_lastRow last (least.trans most)) below, ← last]
    rfl

/-- On a screen without a last row there is nowhere to stop below. -/
theorem nudged_eq_ofRat_of_endless {a : Rat} (endless : height - 1 = .infinite false)
    (least : 0 ≤ a) (short : step ≤ exactLimit) (vertical : d ∈ nudgeDirections) :
    ∃ q, 0 ≤ q ∧ nudged height (.finite a) (step : Number) d = ofRat q := by
  rw [natCast_eq_finite short]
  simp only [nudgeDirections, List.mem_cons, List.not_mem_nil, or_false] at vertical
  rcases vertical with rfl | rfl
  · exact ⟨_, le_max_left 0 (a + -step), max_zero_ofRat _⟩
  · refine ⟨a + step, add_nonneg least (Nat.cast_nonneg _), ?_⟩
    show Number.min (height - 1) _ = _
    rw [endless]
    exact min_infinite _

/-- A nudge does not leave the screen. -/
theorem nudged_inside (least : Number.le 0 y = true) (most : y.le (height - 1) = true)
    (short : step ≤ exactLimit) (vertical : d ∈ nudgeDirections) :
    Number.le 0 (nudged height y (step : Number) d) = true ∧
      (nudged height y (step : Number) d).le (height - 1) = true := by
  rw [zero_eq_finite] at least ⊢
  cases y with
  | nan => cases least
  | infinite below =>
      cases below with
      | true => cases least
      | false =>
          -- only a screen without a last row has a point at infinity
          have endless : height - 1 = .infinite false := by
            cases last : height - 1 with
            | nan | finite _ =>
                rw [last] at most
                cases most
            | infinite negative =>
                rw [last] at most
                cases negative with
                | true => cases most
                | false => rfl
          have stays : nudged height (.infinite false) (step : Number) d = .infinite false := by
            rw [natCast_eq_finite short]
            simp only [nudgeDirections, List.mem_cons, List.not_mem_nil, or_false] at vertical
            rcases vertical with rfl | rfl
            · rfl
            · show Number.min (height - 1) _ = _
              rw [endless]
              rfl
          rw [stays, endless]
          exact ⟨rfl, rfl⟩
  | finite a =>
      rw [finite_le_iff] at least
      cases last : height - 1 with
      | nan =>
          rw [last] at most
          cases most
      | finite b =>
          rw [last, finite_le_iff] at most
          rw [nudged_eq_ofRat last least most short vertical]
          obtain ⟨r, least', most', same⟩ := ofRat_le (fits_lastRow last (least.trans most))
            (le_max_left 0 _) (max_le (least.trans most) (min_le_left _ _))
          rw [same, finite_le_iff, finite_le_iff]
          exact ⟨least', most'⟩
      | infinite negative =>
          cases negative with
          | true =>
              rw [last] at most
              cases most
          | false =>
              obtain ⟨q, least', same⟩ := nudged_eq_ofRat_of_endless last least short vertical
              rw [same]
              rcases le_ofRat fits_zero least' with infinite | ⟨r, least', finite⟩
              · rw [infinite]
                exact ⟨rfl, rfl⟩
              · rw [finite, finite_le_iff]
                exact ⟨least', rfl⟩

end Command

namespace Desktop

open Command

/-- The screen was scrolled by an amount into a direction. -/
structure Scrolled (d : Direction) (amount : Nat) (k k' : Desktop) : Prop where
  actions : k'.actions = k.actions ++ [.scroll (.ofInt ((scrollVector d).1 * amount))
    (.ofInt ((scrollVector d).2 * amount))]
  pointer : k'.pointer = k.pointer

/-- The pointer was nudged by a step, up or down a screen of some height. -/
structure Nudged (height : Number) (d : Direction) (step : Nat) (k k' : Desktop) : Prop where
  vertical : d = .up ∨ d = .down
  actions : k'.actions = k.actions ++ [.movePointer k'.pointer]
  across : k'.pointer.x = k.pointer.x
  along : k'.pointer.y = Command.nudged height k.pointer.y (step : Number) d
  /-- From a row of the screen it goes to one. -/
  inside : Number.le 0 k.pointer.y = true → k.pointer.y.le (height - 1) = true →
    Number.le 0 k'.pointer.y = true ∧ k'.pointer.y.le (height - 1) = true
  /-- This is the row as far away as the step, or else the one where the screen ends. Where that is
  no number itself, it is rounded to one. -/
  row : ∀ a b : Rat, k.pointer.y = .finite a → height - 1 = .finite b → 0 ≤ a → a ≤ b →
    let there := max 0 (min b (a + (scrollVector d).2 * step))
    k'.pointer.y = .ofRat there ∧ (Number.Fits there → k'.pointer.y = .finite there)

end Desktop

namespace Workspace.Moved

open Command

variable {w w' : Workspace} {d : Direction} {past : List Movement}

theorem scrolled (h : w.Moved ⟨.scroll, d⟩ w') (counts : w.Counts past) :
    w.desktop.Scrolled d (3 * min (2 ^ Movement.streak past ⟨.scroll, d⟩) 16) w'.desktop := by
  obtain ⟨calls, desktop⟩ := h.desktop
  rw [actionOf, counts.count_next] at desktop
  rw [desktop]
  exact ⟨rfl, rfl⟩

theorem nudged (h : w.Moved ⟨.nudge, d⟩ w') (counts : w.Counts past)
    (vertical : d ∈ nudgeDirections) :
    w.desktop.Nudged w.screen.height d
      (min (50 * 2 ^ Movement.streak past ⟨.nudge, d⟩) 800) w'.desktop := by
  obtain ⟨calls, desktop⟩ := h.desktop
  rw [actionOf, counts.count_next, Movement.action] at desktop
  dsimp only at desktop
  rw [nudgeStep_eq] at desktop
  generalize Movement.streak past ⟨.nudge, d⟩ = q at desktop ⊢
  have short : min (50 * 2 ^ q) 800 ≤ Number.exactLimit :=
    Nat.le_trans (Nat.min_le_right _ _) (by decide)
  rw [desktop]
  refine ⟨by simpa [nudgeDirections] using vertical, rfl, rfl, rfl, fun least most => ?_,
    fun a b here last least most => ?_⟩
  · exact nudged_inside least most short vertical
  · have goes := nudged_eq_ofRat last least most short vertical
    rw [← here] at goes
    exact ⟨goes, fun fits => goes.trans (Number.ofRat_of_fits fits)⟩

end Workspace.Moved

end VoiceControl
