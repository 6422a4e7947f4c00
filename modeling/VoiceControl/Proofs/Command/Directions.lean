import VoiceControl.Command.Mouse
import VoiceControl.Proofs.Command.Gestures
import VoiceControl.Proofs.Number.Natural
import VoiceControl.Proofs.Text.NumberReaders
import VoiceControl.Proofs.Text.Occurrences

/-!
# Spoken directions

A scroll and a nudge go into the first of their directions whose word occurs in what was said, be
it within another word. So a direction that was said as a word of its own is taken for another one
exactly if one of those looked for before it occurs inside some word.

* `direction?_eq_heardAs`: the direction found when one was said.
* `nudgeStep_eq`, `nudged_up`, `nudged_down`: where a nudge takes the pointer.
* `spoken_direction_obeyed_iff`: when scrolls and nudges go where they were told to.
-/

namespace VoiceControl

open VoiceControl.Text

namespace Command

/-! ## Hearing a direction -/

/-- The direction that a spoken one is taken for among some words: of those looked for before it,
the first whose word occurs inside one of them, or else itself. -/
def heardAs (directions : List Direction) (d : Direction) (ws : List (List Char)) : Direction :=
  ((directions.takeWhile (· ≠ d)).find? fun e => ws.any (mentions e.label)).getD d

section Hearing

variable {directions : List Direction} {d : Direction} {s : List Char} {ws : List (List Char)}

theorem smallWord_label (d : Direction) : SmallWord d.label.toList := by
  cases d <;> decide

theorem mentions_label (d : Direction) (s : List Char) :
    mentions d.label s = (words s).any (mentions d.label) := by
  rw [Bool.eq_iff_iff, List.any_eq_true]
  exact occursIn_iff_exists_mem_words (smallWord_label d).unbroken

/-- A direction is taken for itself exactly if none of those before it occurs inside a word. -/
theorem heardAs_eq_iff :
    heardAs directions d ws = d ↔
      ∀ e ∈ directions.takeWhile (· ≠ d), ∀ v ∈ ws, mentions e.label v = false := by
  have other : ∀ e ∈ directions.takeWhile (· ≠ d), e ≠ d := fun e he => by
    simpa using List.mem_takeWhile_imp he
  unfold heardAs
  constructor
  · intro same e he v hv
    cases found : (directions.takeWhile (· ≠ d)).find? fun e => ws.any (mentions e.label) with
    | none =>
        have unheard := List.find?_eq_none.1 found e he
        exact Bool.eq_false_iff.2 fun within => unheard (List.any_eq_true.2 ⟨v, hv, within⟩)
    | some f =>
        rw [found] at same
        exact absurd same (other f (List.mem_of_find?_eq_some found))
  · intro unheard
    have missed : (directions.takeWhile (· ≠ d)).find? (fun e => ws.any (mentions e.label)) =
        none := by
      refine List.find?_eq_none.2 fun e he said => ?_
      obtain ⟨v, hv, within⟩ := List.any_eq_true.1 said
      rw [unheard e he v hv] at within
      cases within
    rw [missed, Option.getD_none]

/-- The direction found when one was said as a word of its own. -/
theorem direction?_eq_heardAs (known : d ∈ directions) (spoken : d.label.toList ∈ words s) :
    direction? directions s = some (heardAs directions d (words s)) := by
  have said : (words s).any (mentions d.label) = true :=
    List.any_eq_true.2 ⟨_, spoken, occursIn_iff_isInfix.2 (List.infix_refl _)⟩
  unfold direction? heardAs
  simp only [mentions_label _ s]
  induction directions with
  | nil => cases known
  | cons e es ih =>
      by_cases same : e = d
      · subst same
        simp [said]
      · have later : d ∈ es := (List.mem_cons.1 known).resolve_left (Ne.symm same)
        cases heard : (words s).any (mentions e.label) <;> simp [same, heard, ih later]

end Hearing

/-! ## Nudges -/

/-- The steps of nudges double up to the longest. -/
theorem nudgeStep_eq (q : Nat) :
    nudgeStep q = ((Nat.min (baseNudge * 2 ^ q) maxNudge : Nat) : Number) := by
  have few : ∀ q < 5,
      nudgeStep q = ((Nat.min (baseNudge * 2 ^ q) maxNudge : Nat) : Number) := by decide +kernel
  by_cases growing : q < 5
  · exact few q growing
  · have power : 2 ^ 5 ≤ 2 ^ q := Nat.pow_le_pow_right (by decide) (by omega)
    have grown : maxNudge ≤ baseNudge * 2 ^ q := by
      unfold maxNudge baseNudge
      omega
    have most : Number.lt ((baseNudge : Number) * nudgeFactor q) (maxNudge : Number) = false := by
      show Number.lt ((baseNudge : Number) * ((2 ^ q : Nat) : Number)) _ = false
      rcases Number.natCast_mul (m := baseNudge) (by decide) (by decide) (2 ^ q) with
        infinite | ⟨k, product, least⟩
      · rw [infinite]
        decide +kernel
      · rw [product]
        have large : 2 ^ 5 ≤ k := Nat.le_trans (Nat.le_min_of_le_of_le power (by decide)) least
        refine Number.not_lt_natCast (by decide) ?_
        unfold maxNudge baseNudge
        omega
    rw [nudgeStep, Number.min, most, if_neg Bool.false_ne_true]
    exact congrArg (fun n : Nat => (n : Number)) (Nat.min_eq_right grown).symm

section Nudged

variable {height y step : Nat}

/-- A nudge up from a pixel stops at the first row. -/
theorem nudged_up (inside : y ≤ Number.exactLimit) (short : step ≤ Number.exactLimit) :
    nudged (height : Number) (y : Number) (step : Number) .up = ((y - step : Nat) : Number) := by
  show Number.max 0 ((y : Number) - (step : Number)) = _
  rw [Number.max]
  by_cases far : step ≤ y
  · have stays : Number.lt ((y - step : Nat) : Number) ((0 : Nat) : Number) = false :=
      Number.not_lt_natCast (Nat.zero_le _) (Nat.zero_le _)
    rw [Number.natCast_sub_of_le inside far, show (0 : Number) = ((0 : Nat) : Number) from rfl,
      stays, if_neg Bool.false_ne_true]
  · have beyond : ((y - step : Int) : Rat) < 0 := by
      exact_mod_cast (by omega : (y : Int) - step < 0)
    have left : Number.lt (.finite ((y - step : Int) : Rat)) (.finite 0) = true :=
      decide_eq_true beyond
    rw [Number.natCast_sub inside short, Number.zero_eq_finite, left, if_pos rfl,
      Nat.sub_eq_zero_of_le (by omega)]
    exact Number.zero_eq_finite.symm

/-- A nudge down from a pixel stops at the last row. -/
theorem nudged_down (inside : y < height) (small : height + step ≤ Number.exactLimit) :
    nudged (height : Number) (y : Number) (step : Number) .down =
      ((Nat.min (height - 1) (y + step) : Nat) : Number) := by
  have last : (height : Number) - 1 = ((height - 1 : Nat) : Number) :=
    Number.natCast_sub_of_le (n := 1) (by omega) (by omega)
  show Number.min ((height : Number) - 1) ((y : Number) + (step : Number)) = _
  rw [last, Number.natCast_add (by omega) (by omega), Number.natCast_min (by omega) (by omega)]

end Nudged

/-! ## Going there -/

/-- Carrying a command out, the next call is a scroll into a direction. -/
def ScrollsTowards (c : Command) (text : String) (d : Direction) (w : Workspace) : Prop :=
  ∃ amount : Nat, 0 < amount ∧ amount ≤ baseScroll * maxScrollFactor ∧
    ((c.execute text).on w).2.desktop.calls =
      .act (.scroll (.ofInt ((scrollVector d).1 * amount))
        (.ofInt ((scrollVector d).2 * amount))) :: w.desktop.calls

/-- Carrying a command out, the next call, once it was found out where the pointer is, takes the
pointer some way into a direction, as far as the screen goes. -/
def NudgesTowards (c : Command) (text : String) (d : Direction) (w : Workspace) : Prop :=
  ∃ step : Nat, 0 < step ∧ step ≤ maxNudge ∧
    ((c.execute text).on w).2.desktop.calls =
      .act (.movePointer ⟨w.desktop.pointer.x,
        nudged w.screen.height w.desktop.pointer.y (step : Number) d⟩) ::
        .askPointer :: w.desktop.calls

section Going

variable {c : Command} {id : Nat} {text : String} {d e : Direction} {w : Workspace}

/-- So many units into one direction are so many into another one only if it is the same. -/
theorem scrollVector_mul_inj {a b : Nat} (ha : 0 < a) (hb : 0 < b)
    (across : (scrollVector d).1 * (a : Int) = (scrollVector e).1 * b)
    (along : (scrollVector d).2 * (a : Int) = (scrollVector e).2 * b) : d = e := by
  cases d <;> cases e <;> simp only [scrollVector] at across along <;> first | rfl | omega

theorem scrollVector_mul_exact {a : Nat} (d : Direction) (most : a ≤ baseScroll * maxScrollFactor) :
    Number.ofInt ((scrollVector d).1 * a) = .finite (((scrollVector d).1 * a : Int) : Rat) ∧
      Number.ofInt ((scrollVector d).2 * a) = .finite (((scrollVector d).2 * a : Int) : Rat) := by
  have small : a ≤ Number.exactLimit := Nat.le_trans most (by decide)
  constructor <;> refine Number.ofInt_eq_finite ?_ <;> cases d <;> simp only [scrollVector] <;>
    omega

/-- A call scrolls into one direction only. -/
theorem ScrollsTowards.eq (h : c.ScrollsTowards text d w) (h' : c.ScrollsTowards text e w) :
    d = e := by
  obtain ⟨a, positive, most, calls⟩ := h
  obtain ⟨b, positive', most', calls'⟩ := h'
  have same := (List.cons.inj (calls.symm.trans calls')).1
  obtain ⟨across, along⟩ := scrollVector_mul_exact d most
  obtain ⟨across', along'⟩ := scrollVector_mul_exact e most'
  rw [across, along, across', along'] at same
  simp only [Call.act.injEq, Action.scroll.injEq, Number.finite.injEq, Rat.intCast_inj] at same
  exact scrollVector_mul_inj positive positive' same.1 same.2

/-- From a pixel of a screen, a nudge goes to a row ahead, unless the screen ends there. -/
theorem NudgesTowards.exists_row (h : c.NudgesTowards text d w) (height y : Nat)
    (rows : w.screen.height = (height : Number)) (here : w.desktop.pointer.y = (y : Number))
    (inside : y < height) (small : height + maxNudge ≤ Number.exactLimit)
    (vertical : d ∈ nudgeDirections) :
    ∃ row : Nat, row ≤ Number.exactLimit ∧
      ((c.execute text).on w).2.desktop.calls =
        .act (.movePointer ⟨w.desktop.pointer.x, (row : Number)⟩) :: .askPointer ::
          w.desktop.calls ∧
      (d = .up → row < y ∨ y = 0 ∧ row = 0) ∧
      (d = .down → y < row ∨ y + 1 = height ∧ row = y) := by
  obtain ⟨step, positive, short, calls⟩ := h
  rw [rows, here] at calls
  simp only [nudgeDirections, List.mem_cons, List.not_mem_nil, or_false] at vertical
  rcases vertical with rfl | rfl
  · rw [nudged_up (by omega) (by omega)] at calls
    exact ⟨y - step, by omega, calls, fun _ => by omega, nofun⟩
  · rw [nudged_down inside (by omega)] at calls
    have last : Nat.min (height - 1) (y + step) = min (height - 1) (y + step) := rfl
    exact ⟨_, by omega, calls, nofun, fun _ => by omega⟩

theorem on_repeated (id : Nat) (d : Direction) (w : Workspace) :
    (Act.repeated id d).on w =
      (.ok ((w.repeats id).next d).count,
        { w with repeats := fun i => if i = id then (w.repeats id).next d else w.repeats i }) := rfl

/-- A question for the pointer that is answered leaves no more than its trace. -/
theorem on_pointer (granted : w.desktop.refuses w.desktop.calls .askPointer = none) :
    Act.pointer.on w = (.ok w.desktop.pointer,
      { w with desktop := { w.desktop with calls := .askPointer :: w.desktop.calls } }) := by
  have asked : w.desktop.call .askPointer =
      (.ok (), { w.desktop with calls := .askPointer :: w.desktop.calls }) := by
    rw [Desktop.call, granted]
    rfl
  rw [Act.pointer, Act.on_bind, Act.on_call, asked]
  rfl

/-- Telling of it is no call, so an action that is reported is the last one, be it refused or
not. -/
theorem calls_act_report (a : Action) (name : String) (detail : Entries Tree) (w : Workspace) :
    ((do Act.act a; report name text detail; return none :
      Act (Option String)).on w).2.desktop.calls = .act a :: w.desktop.calls := by
  rw [Act.on_bind, Act.act, Act.on_call]
  cases outcome : (w.desktop.call (.act a)).1 with
  | error f => exact w.desktop.calls_call (.act a)
  | ok _ =>
      dsimp only
      rw [Act.on_bind, Act.on_report]
      let acted := { w with desktop := (w.desktop.call (.act a)).2 }
      have told : acted.Aside (acted.published _ (.commandAction name text detail)) :=
        acted.aside_published acted.reach.events rfl
      exact (congrArg Desktop.calls told.desktop).trans (w.desktop.calls_call (.act a))

theorem scrollsTowards_of_direction?
    (found : direction? scrollDirections (Utterance.plain text.toList) = some d) (w : Workspace) :
    (scroll id).ScrollsTowards text d w := by
  have factor (r : Nat) : 0 < scrollFactor r ∧ scrollFactor r ≤ maxScrollFactor :=
    ⟨Nat.lt_min.2 ⟨Nat.two_pow_pos r, by decide⟩, Nat.min_le_right _ _⟩
  obtain ⟨positive, most⟩ := factor ((w.repeats id).next d).count
  refine ⟨baseScroll * scrollFactor ((w.repeats id).next d).count,
    Nat.mul_pos (by decide) positive, Nat.mul_le_mul_left _ most, ?_⟩
  unfold scroll
  dsimp only
  rw [found]
  dsimp only
  rw [Act.on_bind, on_repeated]
  exact calls_act_report _ _ _ _

theorem nudgesTowards_of_direction?
    (found : direction? nudgeDirections (Utterance.plain text.toList) = some d)
    (granted : w.desktop.refuses w.desktop.calls .askPointer = none) :
    (mouseMove id).NudgesTowards text d w := by
  let q := ((w.repeats id).next d).count
  have positive : 0 < baseNudge * 2 ^ q := Nat.mul_pos (by decide) (Nat.two_pow_pos q)
  refine ⟨Nat.min (baseNudge * 2 ^ q) maxNudge, Nat.lt_min.2 ⟨positive, by decide⟩,
    Nat.min_le_right _ _, ?_⟩
  rw [← nudgeStep_eq]
  unfold mouseMove
  dsimp only
  rw [found]
  dsimp only
  rw [Act.on_bind, on_repeated]
  dsimp only
  rw [Act.on_bind, on_pointer]
  · exact calls_act_report _ _ _ _
  · exact granted

/-- When a direction is said as a word of its own, a scroll goes into it, and into no other, exactly
if none of the directions looked for before it occurs inside a word; if one does, it goes into the
first of these. The same holds of a nudge, once the pointer was found. -/
theorem spoken_direction_obeyed_iff (id : Nat) (text : String) (d : Direction) (w : Workspace)
    (spoken : d.label.toList ∈ words (Utterance.plain text.toList)) :
    let clean := Utterance.plain text.toList
    (leads "scroll" clean = true →
      (scroll id).accepts text = .ok true ∧
        ∀ e, (scroll id).ScrollsTowards text e w ↔
          e = heardAs scrollDirections d (words clean)) ∧
    (leads "move" clean = true → d ∈ nudgeDirections →
      (mouseMove id).accepts text = .ok true ∧
        (w.desktop.refuses w.desktop.calls .askPointer = none →
          (mouseMove id).NudgesTowards text (heardAs nudgeDirections d (words clean)) w)) ∧
    ∀ directions, heardAs directions d (words clean) = d ↔
      ∀ e ∈ directions.takeWhile (· ≠ d), ∀ v ∈ words clean, mentions e.label v = false := by
  intro clean
  refine ⟨fun scrolling => ?_, fun moving known => ?_, fun _ => heardAs_eq_iff⟩
  · have known : d ∈ scrollDirections := by cases d <;> decide
    have found : direction? scrollDirections clean = _ := direction?_eq_heardAs known spoken
    refine ⟨?_, fun e => ⟨fun goes => ?_, fun same => ?_⟩⟩
    · show Except.ok (leads "scroll" clean && (direction? scrollDirections clean).isSome) = _
      rw [scrolling, found]
      rfl
    · exact goes.eq (scrollsTowards_of_direction? found w)
    · subst same
      exact scrollsTowards_of_direction? found w
  · have found : direction? nudgeDirections clean = _ := direction?_eq_heardAs known spoken
    refine ⟨?_, fun granted => nudgesTowards_of_direction? found granted⟩
    show Except.ok (leads "move" clean && (direction? nudgeDirections clean).isSome) = _
    rw [moving, found]
    rfl

theorem spoken_direction_obeyed_down :
    let w : Workspace :=
      { screen := ⟨300, 300⟩, desktop := .centred ⟨300, 300⟩, now := ⟨2024, 6, 7, 8, 9, 10⟩ }
    ("down".toList ∈ words (Utterance.plain "scroll down".toList) ∧
      (scroll 0).ScrollsTowards "scroll down" .down w) ∧
    ("down".toList ∈ words (Utterance.plain "move down".toList) ∧
      (mouseMove 1).NudgesTowards "move down" .down w) := by
  intro w
  have said : "down".toList ∈ words (Utterance.plain "scroll down".toList) := by decide +kernel
  have said' : "down".toList ∈ words (Utterance.plain "move down".toList) := by decide +kernel
  obtain ⟨scrolls, -, -⟩ := spoken_direction_obeyed_iff 0 "scroll down" .down w said
  obtain ⟨-, nudges, -⟩ := spoken_direction_obeyed_iff 1 "move down" .down w said'
  exact ⟨⟨said, ((scrolls (by decide +kernel)).2 .down).2 (by decide +kernel)⟩, said',
    (nudges (by decide +kernel) (by decide)).2 rfl⟩

/-- The list that is to be scrolled down is an upper one, so it is scrolled up. "Group" sends the
pointer up as well. -/
theorem scroll_down_the_upper_list_goes_up :
    let text := "scroll down the upper list"
    let text' := "move down a group"
    let said (s : String) := (words (Utterance.plain s.toList)).filter fun v =>
      scrollDirections.any fun d => d.label.toList = v
    let w : Workspace :=
      { screen := ⟨300, 300⟩, desktop := .centred ⟨300, 300⟩, now := ⟨2024, 6, 7, 8, 9, 10⟩ }
    (leads "scroll" (Utterance.plain text.toList) = true ∧ said text = ["down".toList] ∧
      (scroll 0).ScrollsTowards text .up w ∧ ¬ (scroll 0).ScrollsTowards text .down w) ∧
    (leads "move" (Utterance.plain text'.toList) = true ∧ said text' = ["down".toList] ∧
      (mouseMove 1).NudgesTowards text' .up w ∧ ¬ (mouseMove 1).NudgesTowards text' .down w) := by
  intro text text' said w
  have found : direction? scrollDirections (Utterance.plain text.toList) = some .up := by
    decide +kernel
  have found' : direction? nudgeDirections (Utterance.plain text'.toList) = some .up := by
    decide +kernel
  have up : (scroll 0).ScrollsTowards text .up w := scrollsTowards_of_direction? found w
  have up' : (mouseMove 1).NudgesTowards text' .up w := nudgesTowards_of_direction? found' rfl
  refine ⟨⟨by decide +kernel, by decide +kernel, up, fun down => ?_⟩, by decide +kernel,
    by decide +kernel, up', fun down => ?_⟩
  · cases up.eq down
  · -- no row is both above and below the middle of the screen
    obtain ⟨row, exact_, calls, above, -⟩ :=
      up'.exists_row 300 150 rfl (by decide +kernel) (by decide) (by decide) (by decide)
    obtain ⟨row', exact_', calls', -, below⟩ :=
      down.exists_row 300 150 rfl (by decide +kernel) (by decide) (by decide) (by decide)
    have same := (List.cons.inj (calls.symm.trans calls')).1
    simp only [Call.act.injEq, Action.movePointer.injEq, Point.mk.injEq,
      Number.natCast_eq_finite exact_, Number.natCast_eq_finite exact_', Number.finite.injEq,
      Nat.cast_inj, true_and] at same
    have := above rfl
    have := below rfl
    omega

end Going

end Command

end VoiceControl
