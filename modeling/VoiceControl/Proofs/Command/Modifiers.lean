import VoiceControl.Proofs.Command.Gestures
import Mathlib.Data.List.TakeDrop

/-!
# Letting go of modifiers

The keys that are held during an act are released when it ends, in the reverse order of pressing,
whatever failed before. The releasing itself stops at the first release that is refused. So a key
stays down exactly if a release is refused while another key is still held.

* `Desktop.callEach`, `Desktop.grants`: calls one after the other, and how many of them succeed.
* `Act.pressEach_eq`, `Act.on_releaseEach`: pressing and releasing as such calls.
* `Act.withModifiers_releases`: which releases are attempted.
-/

namespace VoiceControl

namespace Desktop

/-- Makes calls in order, up to the first that is refused. -/
def callEach (d : Desktop) : List Call → Except Failure Unit × Desktop
  | [] => (.ok (), d)
  | c :: cs =>
      match d.call c with
      | (.ok (), d') => d'.callEach cs
      | (.error f, d') => (.error f, d')

/-- How many calls succeed when they are made in order, up to the first that is refused. -/
def grants (d : Desktop) : List Call → Nat
  | [] => 0
  | c :: cs =>
      match d.call c with
      | (.ok (), d') => d'.grants cs + 1
      | (.error _, _) => 0

variable {d : Desktop} {c : Call} {cs : List Call}

theorem call_of_refused {f : Failure} (h : d.refuses d.calls c = some f) :
    d.call c = (.error f, { d with calls := c :: d.calls }) := by
  rw [call, h]

theorem call_of_granted (h : d.refuses d.calls c = none) :
    d.call c = (.ok (), { d with calls := c :: d.calls }.perform c) := by
  rw [call, h]

theorem grants_le (d : Desktop) (cs : List Call) : d.grants cs ≤ cs.length := by
  induction cs generalizing d with
  | nil => exact Nat.le_refl 0
  | cons c cs ih =>
      rw [grants]
      split
      · exact Nat.succ_le_succ (ih _)
      · exact Nat.zero_le _

/-- The calls made are those that succeed and the first that is refused. -/
theorem calls_callEach (d : Desktop) (cs : List Call) :
    (d.callEach cs).2.calls = (cs.take (d.grants cs + 1)).reverse ++ d.calls := by
  induction cs generalizing d with
  | nil => rfl
  | cons c cs ih =>
      have noted := d.calls_call c
      rw [callEach, grants]
      rcases made : d.call c with ⟨f | ⟨⟩, d'⟩ <;> rw [made] at noted
      · simpa using noted
      · dsimp only at noted ⊢
        rw [ih, noted]
        simp

/-- The calls all succeed exactly if as many of them succeed as there are. -/
theorem callEach_eq_ok_iff (d : Desktop) (cs : List Call) :
    (d.callEach cs).1 = .ok () ↔ d.grants cs = cs.length := by
  induction cs generalizing d with
  | nil => exact iff_of_true rfl rfl
  | cons c cs ih =>
      rw [callEach, grants]
      rcases d.call c with ⟨f | ⟨⟩, d'⟩
      · exact iff_of_false nofun nofun
      · dsimp only
        rw [ih, List.length_cons, Nat.succ_inj]

/-- What is said of the first so many calls and those before each is said of the first call, before
which there is none, and of the others. -/
theorem forall_split_cons {n : Nat} {P : List Call → Call → Prop} :
    (∀ before c' rest, c :: cs = before ++ c' :: rest → before.length < n + 1 → P before c') ↔
      P [] c ∧
        ∀ before c' rest, cs = before ++ c' :: rest → before.length < n → P (c :: before) c' := by
  constructor
  · intro all
    refine ⟨all [] c cs rfl (Nat.zero_lt_succ n), fun before c' rest parts few => ?_⟩
    exact all (c :: before) c' rest (congrArg (c :: ·) parts) (Nat.succ_lt_succ few)
  · rintro ⟨first, others⟩ before c' rest parts few
    cases before with
    | nil =>
        obtain ⟨rfl, -⟩ := List.cons.inj parts
        exact first
    | cons x before =>
        obtain ⟨rfl, behind⟩ := List.cons.inj parts
        exact others before c' rest behind (Nat.lt_of_succ_lt_succ few)

/-- At least so many calls succeed exactly if none of the first so many is refused. -/
theorem le_grants_iff {n : Nat} (h : n ≤ cs.length) :
    n ≤ d.grants cs ↔ ∀ before c rest, cs = before ++ c :: rest → before.length < n →
      d.refuses (before.reverse ++ d.calls) c = none := by
  have none_ {d : Desktop} {cs : List Call} :
      0 ≤ d.grants cs ↔ ∀ before c rest, cs = before ++ c :: rest → before.length < 0 →
        d.refuses (before.reverse ++ d.calls) c = none :=
    iff_of_true (Nat.zero_le _) fun _ _ _ _ few => absurd few (Nat.not_lt_zero _)
  induction cs generalizing d n with
  | nil =>
      obtain rfl : n = 0 := Nat.le_zero.1 h
      exact none_
  | cons c cs ih =>
      cases n with
      | zero => exact none_
      | succ n =>
          rw [forall_split_cons, grants, List.reverse_nil, List.nil_append]
          cases refused : d.refuses d.calls c with
          | some f =>
              rw [call_of_refused refused]
              exact iff_of_false (Nat.not_succ_le_zero n) fun all => nomatch all.1
          | none =>
              have noted := d.calls_call c
              have settled := d.refuses_call c
              rw [call_of_granted refused] at noted settled ⊢
              dsimp only at noted settled ⊢
              rw [Nat.succ_le_succ_iff]
              refine (ih (Nat.le_of_succ_le_succ h)).trans ?_
              rw [noted, settled]
              simp only [List.reverse_cons, List.append_assoc, List.singleton_append, true_and]

/-- All calls are made exactly if none but the last is refused. -/
theorem take_grants_eq_iff (d : Desktop) (cs : List Call) :
    cs.take (d.grants cs + 1) = cs ↔ ∀ before c rest, cs = before ++ c :: rest → rest ≠ [] →
      d.refuses (before.reverse ++ d.calls) c = none := by
  have enough : cs.take (d.grants cs + 1) = cs ↔ cs.length - 1 ≤ d.grants cs := by
    rw [List.take_eq_self_iff]
    omega
  rw [enough, le_grants_iff (Nat.sub_le _ 1)]
  refine forall_congr' fun before => forall_congr' fun c => forall_congr' fun rest =>
    forall_congr' fun parts => ?_
  have length := congrArg List.length parts
  rw [List.length_append, List.length_cons] at length
  have more : before.length < cs.length - 1 ↔ rest ≠ [] := by
    rw [← List.length_pos_iff]
    omega
  rw [more]

end Desktop

namespace Act

/-- The calls that press keys. -/
def presses (keys : List String) : List Call := keys.map fun key => .act (.pressKey key)

/-- The calls that release keys. -/
def releases (keys : List String) : List Call := keys.map fun key => .act (.releaseKey key)

theorem on_releaseEach (keys : List String) (w : Workspace) :
    (releaseEach keys).on w =
      ((w.desktop.callEach (releases keys)).1,
        { w with desktop := (w.desktop.callEach (releases keys)).2 }) := by
  induction keys generalizing w with
  | nil => rfl
  | cons key keys ih =>
      rw [releaseEach, on_bind, act, on_call, releases, List.map_cons, Desktop.callEach]
      rcases w.desktop.call (.act (.releaseKey key)) with ⟨f | ⟨⟩, d⟩
      · rfl
      · exact ih { w with desktop := d }

/-- As many keys are held as could be pressed; the act follows if these are all. -/
theorem pressEach_eq (held keys : List String) (action : Act Unit) (w : Workspace) :
    pressEach held keys action w =
      let pressed := keys.take (w.desktop.grants (presses keys))
      let start := { w with desktop := (w.desktop.callEach (presses keys)).2 }
      match (w.desktop.callEach (presses keys)).1 with
      | .ok () => ((pressed.reverse ++ held, (action.on start).1), (action.on start).2)
      | .error f => ((pressed.reverse ++ held, .error f), start) := by
  induction keys generalizing held w with
  | nil => rfl
  | cons key keys ih =>
      rw [pressEach_cons, act, on_call, presses, List.map_cons, Desktop.callEach, Desktop.grants]
      rcases w.desktop.call (.act (.pressKey key)) with ⟨f | ⟨⟩, d⟩
      · rfl
      · dsimp only
        rw [ih, List.take_succ_cons, List.reverse_cons, List.append_assoc]
        rfl

/-- What is held once the pressing is over, and the workspace before the releasing. -/
theorem pressEach_ends (keys : List String) (action : Act Unit) (w : Workspace) :
    let pressed := keys.take (w.desktop.grants (presses keys))
    let start := { w with desktop := (w.desktop.callEach (presses keys)).2 }
    (pressEach [] keys action w).1.1 = pressed.reverse ∧
      (pressEach [] keys action w).2 = if pressed = keys then (action.on start).2 else start := by
  intro pressed start
  have all : (w.desktop.callEach (presses keys)).1 = .ok () ↔ pressed = keys := by
    rw [Desktop.callEach_eq_ok_iff, List.take_eq_self_iff, presses, List.length_map]
    have few := w.desktop.grants_le (presses keys)
    rw [presses, List.length_map] at few
    omega
  rw [pressEach_eq]
  dsimp only
  cases made : (w.desktop.callEach (presses keys)).1 with
  | ok done =>
      rw [if_pos (all.1 made)]
      exact ⟨List.append_nil _, rfl⟩
  | error f =>
      rw [if_neg fun same => by rw [all.2 same] at made; cases made]
      exact ⟨List.append_nil _, rfl⟩

/-- What `withModifiers` does: it presses the modifiers up to the first refused press, acts if none
was refused, and releases what it pressed in reverse order. Every release is attempted exactly if
none of them but the last is refused; otherwise the one that is refused is the last attempted. -/
theorem withModifiers_releases (modifiers : List String) (action : Act Unit) (w : Workspace) :
    let pressed := modifiers.take (w.desktop.grants (presses modifiers))
    let start := { w with desktop := (w.desktop.callEach (presses modifiers)).2 }
    let finish := if pressed = modifiers then (action.on start).2 else start
    let due := releases pressed.reverse
    let tried := due.take (finish.desktop.grants due + 1)
    start.desktop.calls =
        ((presses modifiers).take (pressed.length + 1)).reverse ++ w.desktop.calls ∧
      ((withModifiers modifiers action).on w).2.desktop.calls =
        tried.reverse ++ finish.desktop.calls ∧
      (tried = due ↔ ∀ before c rest, due = before ++ c :: rest → rest ≠ [] →
        finish.desktop.refuses (before.reverse ++ finish.desktop.calls) c = none) := by
  intro pressed start finish due tried
  obtain ⟨held, ended⟩ := pressEach_ends modifiers action w
  refine ⟨?_, ?_, finish.desktop.take_grants_eq_iff due⟩
  · have few := w.desktop.grants_le (presses modifiers)
    have length : pressed.length = w.desktop.grants (presses modifiers) :=
      List.length_take_of_le (Nat.le_trans few (Nat.le_of_eq (List.length_map _)))
    rw [length]
    exact w.desktop.calls_callEach (presses modifiers)
  · rw [on_withModifiers]
    dsimp only
    rw [held, ended, on_bind, on_releaseEach]
    have calls := finish.desktop.calls_callEach due
    cases (finish.desktop.callEach due).1 with
    | error f => exact calls
    | ok done => cases (pressEach [] modifiers action w).1.2 <;> exact calls

/-- When shift cannot be released, nobody releases ctrl, which was pressed before it. -/
theorem withModifiers_keeps_ctrl_down :
    let refuses : Refusal := fun _ c =>
      if c = .act (.releaseKey "shift") then some (.plain "jammed") else none
    let w : Workspace :=
      { screen := ⟨300, 300⟩, desktop := .centred ⟨300, 300⟩ refuses
        now := ⟨2024, 6, 7, 8, 9, 10⟩ }
    let ended := (withModifiers ["ctrl", "shift"] (tap "c")).on w
    ended.1 = .error (.plain "jammed") ∧ .pressKey "ctrl" ∈ ended.2.desktop.actions ∧
      .act (.releaseKey "ctrl") ∉ ended.2.desktop.calls := by
  intro refuses w ended
  exact ⟨rfl, by decide +kernel, by decide +kernel⟩

end Act

end VoiceControl
