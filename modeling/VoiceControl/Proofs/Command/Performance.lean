import VoiceControl.Proofs.Command.Repertoire
import VoiceControl.Proofs.Text.NumberReaders

/-!
# What is accepted is performed

A command reads an utterance twice: to tell whether it is for it, and to carry it out. What it looks
for when it is carried out it has found when it accepted, so it never stops short without having
done anything. This shows in a workspace where somebody listens to the commands: there a command
ends by a report, has made a call on the desktop or gives a text to type.

* `Act.EndsReporting`: an act that ends by a report unless it fails.
* `Command.Reports`, `Command.Stirs`: a command that does so, and one that does anything at all.
* `performable`: what every built-in command that accepts an utterance obtains and does.
-/

namespace VoiceControl

namespace Workspace

/-- Commands report to everybody, and somebody listens. -/
structure Attentive (w : Workspace) : Prop where
  reports : w.reach.events = some .main
  listening : w.journal.listening = true

/-- Besides, overlays are reached. -/
structure Overlaid (w : Workspace) : Prop extends w.Attentive where
  overlays : w.reach.overlays = true

/-- Reports go where they went, what was published stands, and no call is forgotten. -/
structure Keeps (w w' : Workspace) : Prop where
  reach : w'.reach = w.reach
  listening : w'.journal.listening = w.journal.listening
  events : w.journal.events <+: w'.journal.events
  calls : w.desktop.calls.length ≤ w'.desktop.calls.length

variable {w w' : Workspace}

theorem lasting_keeps : Lasting Keeps where
  refl _ := ⟨rfl, rfl, List.prefix_rfl, Nat.le_refl _⟩
  trans h h' := ⟨h'.reach.trans h.reach, h'.listening.trans h.listening, h.events.trans h'.events,
    Nat.le_trans h.calls h'.calls⟩

theorem Aside.keeps (h : w.Aside w') : w.Keeps w' := by
  obtain ⟨own, events, -⟩ := h.events
  exact ⟨h.reach, h.listening, ⟨own, events.symm⟩, by rw [h.desktop]⟩

theorem Keeps.attentive (h : w.Keeps w') (attentive : w.Attentive) : w'.Attentive where
  reports := (congrArg Reach.events h.reach).trans attentive.reports
  listening := h.listening.trans attentive.listening

end Workspace

/-! ## Acts that report and acts that call -/

namespace Command

/-- What is reported under a key. -/
def Telling (key : String) (value : Tree) (detail : Entries Tree) : Prop :=
  Entries.get? key detail = some value

/-- Nothing in particular is reported. -/
def TellingAnything (_ : Entries Tree) : Prop := True

end Command

namespace Act

open Workspace

variable {α β : Type} {name text : String} {told : Entries Tree → Prop}

theorem keeps_call (c : Call) : (call c).Within Keeps := by
  intro w
  rw [on_call]
  refine ⟨rfl, rfl, List.prefix_rfl, ?_⟩
  rw [Desktop.calls_call]
  exact Nat.le_succ _

/-- Nothing that commands do makes them unheard. -/
theorem Composed.keeps {x : Act α} (composed : x.Composed fun _ => True) : x.Within Keeps :=
  composed.within_of_call lasting_keeps Aside.keeps fun c _ => keeps_call c

/-- In a workspace, the last thing that an act does is to report, unless it fails. -/
def ReportsFrom (w : Workspace) (name text : String) (told : Entries Tree → Prop)
    (x : Act (Option String)) : Prop :=
  ∀ output w', x.on w = (.ok output, w') →
    ∃ own detail, told detail ∧
      w'.journal.events = w.journal.events ++ own ++ [.commandAction name text detail]

/-- Wherever somebody listens, an act ends by a report. -/
def EndsReporting (name text : String) (told : Entries Tree → Prop) (x : Act (Option String)) :
    Prop :=
  ∀ w, w.Attentive → x.ReportsFrom w name text told

theorem endsReporting_throw (f : Failure) :
    (throw f : Act (Option String)).EndsReporting name text told :=
  fun _ _ _ _ ran => by cases ran

theorem endsReporting_report {detail : Entries Tree} (h : told detail) (output : Option String) :
    (do Command.report name text detail; return output : Act (Option String)).EndsReporting
      name text told := by
  intro w attentive output' w' ran
  rw [on_bind, on_report, attentive.reports] at ran
  obtain ⟨-, rfl⟩ := Prod.mk.inj ran
  refine ⟨[], detail, h, ?_⟩
  rw [List.append_nil]
  exact Journal.on_publish attentive.listening .main _

theorem endsReporting_telling {key : String} {value : Tree} {more : Entries Tree}
    {output : Option String} :
    (do Command.report name text ((key, value) :: more); return output :
      Act (Option String)).EndsReporting name text (Command.Telling key value) := by
  refine endsReporting_report ?_ output
  exact if_pos rfl

/-- What goes before takes back nothing. -/
theorem EndsReporting.bind {x : Act α} {f : α → Act (Option String)}
    (first : x.Composed fun _ => True) (next : ∀ a, (f a).EndsReporting name text told) :
    (x >>= f).EndsReporting name text told := by
  intro w attentive output w' ran
  have kept := first.keeps w
  rw [on_bind] at ran
  rcases hr : x.on w with ⟨failure | a, w₁⟩ <;> rw [hr] at ran kept
  · cases ran
  · obtain ⟨before, events⟩ := kept.events
    obtain ⟨own, detail, h, last⟩ := next a w₁ (kept.attentive attentive) output w' ran
    -- what was published first stands in front of the rest
    refine ⟨before ++ own, detail, h, ?_⟩
    rw [last, ← events]
    simp only [List.append_assoc]

theorem EndsReporting.reading {f : Workspace → Act (Option String)}
    (each : ∀ w, (f w).EndsReporting name text told) : (get >>= f).EndsReporting name text told :=
  fun w attentive => each w w attentive

/-- Where overlays are reached, an act is not stopped for the want of them. -/
theorem reportsFrom_hasOverlays {w : Workspace} {f : Bool → Act (Option String)}
    (overlaid : w.Overlaid) (h : (f true).EndsReporting name text told) :
    (hasOverlays >>= f).ReportsFrom w name text told := by
  intro output w' ran
  rw [on_bind, on_hasOverlays overlaid.overlays] at ran
  exact h w overlaid.toAttentive output w' ran

/-- An act that makes a call on the desktop, whatever comes of it. -/
def Calls (x : Act α) : Prop := ∀ w, w.desktop.calls.length < (x.on w).2.desktop.calls.length

theorem calls_call (c : Call) : (call c).Calls := by
  intro w
  rw [on_call]
  dsimp only
  rw [Desktop.calls_call]
  exact Nat.lt_succ_self _

/-- What goes after forgets no call. -/
theorem Calls.bind {x : Act α} {f : α → Act β} (first : x.Calls)
    (next : ∀ a, (f a).Composed fun _ => True) : (x >>= f).Calls := by
  intro w
  have called := first w
  rw [on_bind]
  rcases hr : x.on w with ⟨failure | a, w₁⟩ <;> rw [hr] at called
  · exact called
  · exact Nat.lt_of_lt_of_le called ((next a).keeps w₁).calls

theorem calls_tap (key : String) : (tap key).Calls := by
  intro w
  have called := calls_call (.act (.pressKey key)) w
  rw [tap, on_bind, act]
  rcases hr : (call (.act (.pressKey key))).on w with ⟨failure | ⟨⟩, w₁⟩ <;> rw [hr] at called
  · exact called
  · exact Nat.lt_of_lt_of_le called (keeps_call _ w₁).calls

/-- A combination starts with its first modifier. -/
theorem calls_pressCombo (modifier key : String) (modifiers : List String) :
    (pressCombo (modifier :: modifiers) key).Calls := by
  intro w
  have keeps {c : Call} (_ : c.holds = true) := keeps_call c
  rw [pressCombo, on_withModifiers]
  dsimp only
  -- the first press counts, and neither the rest of the combination nor letting go undoes it
  have pressed : w.desktop.calls.length <
      (pressEach [] (modifier :: modifiers) (tap key) w).2.desktop.calls.length := by
    have called := calls_call (.act (.pressKey modifier)) w
    rw [pressEach_cons]
    rcases hr : (act (.pressKey modifier)).on w with ⟨failure | ⟨⟩, w₁⟩ <;> rw [act] at hr <;>
      rw [hr] at called
    · exact called
    · refine Nat.lt_of_lt_of_le called (Workspace.Keeps.calls ?_)
      exact within_pressEach lasting_keeps keeps (within_tap lasting_keeps keeps key) _ _ w₁
  refine Nat.lt_of_lt_of_le pressed (Workspace.Keeps.calls ?_)
  exact (within_releaseEach lasting_keeps keeps _).bind lasting_keeps
    (fun _ => within_conclude lasting_keeps _) _

end Act

/-! ## Commands -/

namespace Command

open Act Utterance Text

variable {text : String} {told : Entries Tree → Prop}

/-- Somebody listens to a command, and it may be carried out. -/
structure Ready (c : Command) (text : String) (w : Workspace) : Prop extends w.Attentive where
  valid : ((c.validate text).on w).1 = .ok true

/-- A command that does something about a text, or fails, wherever it is ready. -/
def Stirs (c : Command) (text : String) : Prop :=
  ∀ w, c.Ready text w → (c.execute text).on w ≠ (.ok none, w)

/-- A command that ends by a report about a text, or fails, wherever it is heard. -/
def Reports (c : Command) (text : String) (told : Entries Tree → Prop) : Prop :=
  (c.execute text).EndsReporting c.name text told

/-- A command that does so where overlays are reached, too. -/
def ReportsOverlaid (c : Command) (text : String) (told : Entries Tree → Prop) : Prop :=
  ∀ w, w.Overlaid → (c.execute text).ReportsFrom w c.name text told

section Ways

variable {c : Command}

/-- A report is something done. -/
theorem stirs_of_reportsFrom
    (h : ∀ w, c.Ready text w → (c.execute text).ReportsFrom w c.name text told) :
    c.Stirs text := by
  intro w ready same
  obtain ⟨own, detail, -, events⟩ := h w ready none w same
  have length := congrArg List.length events
  simp only [List.length_append, List.length_singleton] at length
  omega

theorem Reports.stirs (h : c.Reports text told) : c.Stirs text :=
  stirs_of_reportsFrom fun w ready => h w ready.toAttentive

theorem ReportsOverlaid.stirs (h : c.ReportsOverlaid text told)
    (overlays : ∀ w, ((c.validate text).on w).1 = .ok true → w.reach.overlays = true) :
    c.Stirs text :=
  stirs_of_reportsFrom fun w ready => h w ⟨ready.toAttentive, overlays w ready.valid⟩

theorem stirs_of_calls (h : (c.execute text).Calls) : c.Stirs text := by
  intro w _ same
  have called := h w
  rw [same] at called
  exact Nat.lt_irrefl _ called

theorem stirs_of_gives {output : String} (h : c.execute text = pure (some output)) :
    c.Stirs text := by
  intro w _ same
  rw [h] at same
  cases congrArg Prod.fst same

end Ways

/-! ### Text to type -/

section Typing

/-- The symbol that is given is one of the table. -/
theorem exists_symbol {id : Nat} {symbols : Symbols}
    (accepted : (typeSymbol id symbols).accepts text = .ok true) :
    ∃ e ∈ symbols, (typeSymbol id symbols).execute text = pure (some e.2) := by
  obtain ⟨s, spoken⟩ := Option.isSome_iff_exists.1 (Except.ok.inj accepted)
  exact ⟨_, Entries.mem_of_get? spoken, congrArg pure spoken⟩

/-- What is left of a trimmed text behind "type " is not blank. -/
theorem dictated?_ne_nil {s rest : List Char} (trimmed : trim s = s)
    (dictated : dictated? s = some rest) : rest ≠ [] := by
  rintro rfl
  obtain ⟨r, lead, blank⟩ := Option.map_eq_some_iff.1 dictated
  rw [after?_eq_some_iff] at lead
  have all : ∀ c ∈ ' ' :: r, isBlank c = true := by
    obtain ⟨a, b, split, front, back⟩ := exists_eq_append_trimBy isBlank r
    change r = a ++ trim r ++ b at split
    rw [blank, List.append_nil] at split
    rw [split]
    refine List.forall_mem_cons.2 ⟨by decide, fun c hc => ?_⟩
    exact (List.mem_append.1 hc).elim (front c) (back c)
  have short : trim s = "type".toList := by
    rw [lead]
    exact trimBy_append_of_all all "type".toList
  rw [trimmed, lead] at short
  cases short

/-- A text that is to be typed is dictated, and what is dictated is no symbol name. -/
theorem exists_dictated {id : Nat} {symbols : Symbols}
    (accepted : (typeText id symbols).accepts text = .ok true) :
    ∃ rest, dictated? (plain text.toList) = some rest ∧
      Entries.get? (String.ofList rest) symbols = none := by
  unfold typeText plainly at accepted
  have heard := Except.ok.inj accepted
  dsimp only at heard
  split at heard
  · cases heard
  · rename_i rest dictated
    exact ⟨rest, dictated, by simpa [Entries.has] using heard⟩

/-- The text that is given is not empty. -/
theorem exists_typed {id : Nat} {symbols : Symbols}
    (accepted : (typeText id symbols).accepts text = .ok true) :
    ∃ s : String, s ≠ "" ∧ (typeText id symbols).execute text = pure (some s) := by
  obtain ⟨rest, dictated, -⟩ := exists_dictated accepted
  have some_ := dictated?_ne_nil (trimBy_trimBy _ _) dictated
  refine ⟨String.ofList rest, by simpa using some_, ?_⟩
  show (pure (if ((dictated? _).getD _).isEmpty then none else some _) : Act _) = _
  rw [dictated, Option.getD_some, if_neg (by simpa using some_)]

/-- What is dictated is no symbol. -/
theorem not_symbol_of_dictated {id id' : Nat} {symbols : Symbols}
    (accepted : (typeText id symbols).accepts text = .ok true) :
    (typeSymbol id' symbols).accepts text = .ok false := by
  obtain ⟨rest, dictated, unknown⟩ := exists_dictated accepted
  obtain ⟨r, lead, rfl⟩ := Option.map_eq_some_iff.1 dictated
  have name : Symbols.nameIn text = String.ofList (trim r) := by
    rw [Symbols.nameIn, lead]
  show Except.ok (Symbols.spoken? symbols text).isSome = _
  rw [Symbols.spoken?, name, unknown]
  rfl

end Typing

/-! ### Keys -/

section Keyboard

theorem stirs_keyPress (id : Nat) (name : String) (triggers : List String)
    (key description : String) (priority : Number) (text : String) :
    (keyPress id name triggers key description priority).Stirs text :=
  stirs_of_calls ((calls_tap key).bind fun _ => composed_pure none)

theorem stirs_keyboardShortcut (id : Nat) (name : String) (triggers : List String)
    (key description : String) (priority : Number) (modifier text : String) :
    (keyboardShortcut id name triggers key description priority modifier).Stirs text :=
  stirs_of_calls ((calls_pressCombo modifier key []).bind fun _ => composed_pure none)

theorem stirs_deleteWord (id : Nat) (text : String) : (deleteWord id).Stirs text :=
  stirs_of_calls ((calls_pressCombo _ _ []).bind fun _ => composed_pure none)

theorem stirs_deleteLine (id : Nat) (text : String) : (deleteLine id).Stirs text :=
  stirs_of_calls ((calls_tap _).bind fun _ => (composed_pressCombo _ _).bind fun _ =>
    (Act.Composed.tap _).bind fun _ => composed_pure none)

/-- The operation is the one that was said. -/
theorem reports_clipboard {id : Nat} (accepted : (clipboard id).accepts text = .ok true) :
    plainText text ∈ clipboardKeys.keys ∧
      (clipboard id).Reports text (Telling "operation" (.text (plainText text))) := by
  have operation : plainText text ∈ clipboardKeys.keys :=
    List.contains_iff_mem.1 (Except.ok.inj accepted)
  refine ⟨operation, ?_⟩
  have found : ∃ key, Entries.answer? (plainText text) clipboardKeys = some key := by
    have all : ∀ w ∈ clipboardKeys.keys, (Entries.answer? w clipboardKeys).isSome = true := by
      decide
    exact Option.isSome_iff_exists.1 (all _ operation)
  obtain ⟨key, found⟩ := found
  unfold Reports clipboard
  dsimp only
  rw [found]
  exact .bind (composed_pressCombo _ _) fun _ => endsReporting_telling

end Keyboard

/-! ### The pointer -/

section Mouse

theorem reports_fixedClick (id : Nat) (name : String) (triggers : List String)
    (button : MouseButton) (count : Nat) (description : String) (priority : Number)
    (text : String) :
    (fixedClick id name triggers button count description priority).Reports text TellingAnything :=
  .bind (composed_act rfl fun _ _ => trivial) fun _ =>
    endsReporting_report trivial none

theorem of_direction? {ds : List Direction} {s : List Char} {d : Direction}
    (found : direction? ds s = some d) : d ∈ ds ∧ mentions d.label s = true :=
  ⟨List.mem_of_find?_eq_some found,
    List.find?_some (p := fun d : Direction => mentions d.label s) found⟩

/-- The direction is one that was said. -/
theorem reports_scroll {id : Nat} (accepted : (scroll id).accepts text = .ok true) :
    ∃ d ∈ scrollDirections, mentions d.label (plain text.toList) = true ∧
      (scroll id).Reports text (Telling "direction" (.text d.label)) := by
  have heard : (leads "scroll" (plain text.toList) &&
      (direction? scrollDirections (plain text.toList)).isSome) = true := Except.ok.inj accepted
  obtain ⟨d, found⟩ := Option.isSome_iff_exists.1 (Bool.and_eq_true_iff.1 heard).2
  obtain ⟨known, said⟩ := of_direction? found
  refine ⟨d, known, said, ?_⟩
  unfold Reports scroll
  dsimp only
  rw [found]
  exact .bind (composed_repeated _ _) fun _ => .bind (composed_act rfl fun _ _ => trivial) fun _ =>
    endsReporting_telling

theorem reports_mouseMove {id : Nat} (accepted : (mouseMove id).accepts text = .ok true) :
    ∃ d ∈ nudgeDirections, mentions d.label (plain text.toList) = true ∧
      (mouseMove id).Reports text (Telling "direction" (.text d.label)) := by
  have heard : (leads "move" (plain text.toList) &&
      (direction? nudgeDirections (plain text.toList)).isSome) = true := Except.ok.inj accepted
  obtain ⟨d, found⟩ := Option.isSome_iff_exists.1 (Bool.and_eq_true_iff.1 heard).2
  obtain ⟨known, said⟩ := of_direction? found
  refine ⟨d, known, said, ?_⟩
  unfold Reports mouseMove
  dsimp only
  rw [found]
  exact .bind (composed_repeated _ _) fun _ => .bind composed_pointer fun _ => .reading fun _ =>
    .bind (composed_act rfl fun _ _ => trivial) fun _ => endsReporting_telling

end Mouse

/-! ### Navigation and windows -/

section Navigation

/-- The arrow is the one that was said. -/
theorem reports_arrowKey {id : Nat} (accepted : (arrowKey id).accepts text = .ok true) :
    plainText text ∈ arrowWords ∧
      (arrowKey id).Reports text (Telling "direction" (.text (plainText text))) := by
  have heard : arrowWords.contains (plainText text) = true := Except.ok.inj accepted
  refine ⟨List.contains_iff_mem.1 heard, ?_⟩
  unfold Reports arrowKey
  dsimp only
  rw [if_pos heard]
  exact .bind (.tap _) fun _ => endsReporting_telling

theorem reports_pageNavigation (id : Nat) (text : String) :
    (pageNavigation id).Reports text TellingAnything :=
  .bind (.tap _) fun _ => endsReporting_report trivial none

theorem reports_homeEnd {id : Nat} (accepted : (homeEnd id).accepts text = .ok true) :
    ∃ target, jumpTarget? (plain text.toList) = some target ∧
      (homeEnd id).Reports text (Telling "action" (.text target.label)) := by
  obtain ⟨target, found⟩ := Option.isSome_iff_exists.1 (Except.ok.inj accepted)
  refine ⟨target, found, ?_⟩
  unfold Reports homeEnd
  dsimp only
  rw [found]
  exact .bind (composed_press target) fun _ => endsReporting_telling

end Navigation

section Windows

/-- A combination of keys, and a report of it. -/
theorem endsReporting_combo {name key : String} {modifiers : List String} {detail : Entries Tree} :
    (do pressCombo modifiers key; report name text detail; return none :
      Act (Option String)).EndsReporting name text TellingAnything :=
  .bind (composed_pressCombo _ _) fun _ => endsReporting_report trivial none

theorem reports_moveWindow (id : Nat) (text : String) :
    (moveWindow id).Reports text TellingAnything :=
  .bind (composed_pressCombo _ _) fun _ => .bind (.tap _) fun _ =>
    endsReporting_report trivial none

theorem reports_minimize (id : Nat) (platform text : String) :
    (minimize id platform).Reports text TellingAnything :=
  endsReporting_combo

theorem reports_maximize (id : Nat) (text : String) :
    (maximize id).Reports text TellingAnything :=
  endsReporting_combo

theorem reports_closeWindow (id : Nat) (text : String) :
    (closeWindow id).Reports text TellingAnything :=
  endsReporting_combo

theorem reports_switchWindow (id : Nat) (text : String) :
    (switchWindow id).Reports text TellingAnything :=
  endsReporting_combo

end Windows

/-! ### Overlays -/

section Overlays

theorem reports_showOverlay (id : Nat) (name : String) (kind : OverlayKind)
    (phrases : List String) (description : String) (options : Option Tree) (text : String) :
    (showOverlay id name kind phrases description options).Reports text TellingAnything :=
  
    .bind (composed_ask (.reveal kind options) (fun _ => rfl) fun c =>
      c.events_reveal kind options) fun _ => endsReporting_report trivial none

/-- The overlays that a command was checked against are reached when it is carried out. -/
theorem reached_of_hasOverlays {w : Workspace} (valid : (hasOverlays.on w).1 = .ok true) :
    w.reach.overlays = true :=
  Except.ok.inj valid

theorem reached_of_look {w : Workspace} {query : Coordinator → Bool}
    (valid : ((look query false).on w).1 = .ok true) : w.reach.overlays = true := by
  cases reached : w.reach.overlays with
  | true => rfl
  | false =>
      have found : (if w.reach.overlays then query w.overlays else false) = true :=
        Except.ok.inj valid
      rw [reached] at found
      cases found

theorem reports_hideOverlay (id : Nat) (text : String) :
    (hideOverlay id).ReportsOverlaid text TellingAnything := by
  refine fun w overlaid => reportsFrom_hasOverlays overlaid ?_
  refine .bind (composed_look _ _) fun current =>
    .bind (composed_ask (.handleInput _) (fun _ => rfl) fun c => c.events_handleInput _)
      fun taken => ?_
  split
  · exact endsReporting_report trivial none
  · exact .bind (composed_ask .hideCurrent (fun _ => rfl) fun c => c.events_hideCurrent) fun _ =>
      endsReporting_report trivial none

end Overlays

/-! ### Numbered targets -/

section Targets

variable {lx : Lexicon}

/-- Where there is a number, there is a first one. -/
theorem exists_head?_numbers {s : List Char} (numbered : lx.hasNumber s = true) :
    ∃ n, (lx.numbers s).head? = some n := by
  have some_ := (Lexicon.hasNumber_iff lx s).1 numbered
  exact ⟨_, List.head?_eq_some_head some_⟩

theorem endsReporting_goToNumber {name : String} {n : Number} {andThen : Act Unit}
    (first : (lx.numbers (plain text.toList)).head? = some n)
    (h : andThen.Composed fun _ => True) :
    (goToNumber lx name text andThen).EndsReporting name text (Telling "number" (.number n)) := by
  unfold goToNumber
  rw [first]
  refine .bind (composed_look _ _) fun position => ?_
  cases position with
  | none => exact endsReporting_telling
  | some p =>
      exact .bind (composed_act rfl fun _ _ => trivial) fun _ => .bind h fun _ =>
        endsReporting_telling

/-- The number is the first one that was said. -/
theorem reports_clickNumber {id : Nat} (accepted : (clickNumber id lx).accepts text = .ok true) :
    ∃ n, (lx.numbers (plain text.toList)).head? = some n ∧
      (clickNumber id lx).Reports text (Telling "number" (.number n)) := by
  have heard : (leads "click" (plain text.toList) && lx.hasNumber (plain text.toList)) = true :=
    Except.ok.inj accepted
  obtain ⟨n, first⟩ := exists_head?_numbers (Bool.and_eq_true_iff.1 heard).2
  exact ⟨n, first, 
    endsReporting_goToNumber first (composed_act rfl fun _ _ => trivial)⟩

theorem reports_moveToNumber {id : Nat} (accepted : (moveToNumber id lx).accepts text = .ok true) :
    ∃ n, (lx.numbers (plain text.toList)).head? = some n ∧
      (moveToNumber id lx).Reports text (Telling "number" (.number n)) := by
  have heard : (!(commandLeads.any fun w => leads w (plain text.toList)) &&
      lx.hasNumber (plain text.toList)) = true := Except.ok.inj accepted
  obtain ⟨n, first⟩ := exists_head?_numbers (Bool.and_eq_true_iff.1 heard).2
  exact ⟨n, first, endsReporting_goToNumber first (composed_pure ())⟩

theorem reports_refineGrid {id : Nat} (accepted : (refineGrid id lx).accepts text = .ok true) :
    ∃ n, (lx.numbers (plain text.toList)).head? = some n ∧
      (refineGrid id lx).Reports text (Telling "cell" (.number n)) := by
  have heard : (leads "refine" (plain text.toList) && lx.hasNumber (plain text.toList)) = true :=
    Except.ok.inj accepted
  obtain ⟨n, first⟩ := exists_head?_numbers (Bool.and_eq_true_iff.1 heard).2
  refine ⟨n, first, ?_⟩
  unfold Reports refineGrid
  dsimp only
  rw [first]
  exact .bind (composed_ask (.refine _) (fun _ => rfl) fun c => by simp [c.events_refine]) fun _ =>
    endsReporting_telling

/-- Both ends of a drag are said. -/
theorem reports_dragBetweenNumbers {id : Nat}
    (accepted : (dragBetweenNumbers id lx).accepts text = .ok true) :
    ∃ start finish, dragTargets? lx text = some (start, finish) ∧
      (dragBetweenNumbers id lx).Reports text fun detail =>
        Telling "start" (.number start) detail ∧ Telling "end" (.number finish) detail := by
  obtain ⟨⟨start, finish⟩, found⟩ := Option.isSome_iff_exists.1 (Except.ok.inj accepted)
  refine ⟨start, finish, found, ?_⟩
  unfold Reports dragBetweenNumbers
  dsimp only
  rw [found]
  refine .bind (composed_look _ _) fun a => .bind (composed_look _ _) fun b => ?_
  split
  · exact .bind (.drag _ _) fun _ => endsReporting_report ⟨rfl, rfl⟩ none
  · exact endsReporting_report ⟨rfl, rfl⟩ none

/-- The number is the last one that was said. -/
theorem reports_switchToWindowNumber {id : Nat}
    (accepted : (switchToWindowNumber id lx).accepts text = .ok true) :
    ∃ n, switchTarget? lx (plain text.toList) = some n ∧
      (switchToWindowNumber id lx).ReportsOverlaid text (Telling "number" (.number n)) := by
  have heard : (leads "switch" (plain text.toList) &&
      (switchTarget? lx (plain text.toList)).isSome) = true := Except.ok.inj accepted
  obtain ⟨n, found⟩ := Option.isSome_iff_exists.1 (Bool.and_eq_true_iff.1 heard).2
  unfold ReportsOverlaid switchToWindowNumber
  dsimp only
  rw [found]
  refine ⟨n, rfl, fun w overlaid => reportsFrom_hasOverlays overlaid ?_⟩
  refine .bind (composed_activate n) fun focused => ?_
  split
  · exact .bind (composed_ask (.hide .windows) (fun _ => rfl) fun c => c.events_hide .windows)
      fun _ => endsReporting_telling
  · exact endsReporting_telling

end Targets

/-! ### Screenshots -/

section Screenshots

theorem reports_screenshot (id : Nat) (store : ScreenshotStore) (moment : Option Moment)
    (text : String) : (screenshot id store moment).Reports text TellingAnything := by
  unfold Reports screenshot
  dsimp only
  refine .reading fun w => .bind (.attempt ?_) fun outcome => ?_
  · refine .reading (fun _ _ => rfl) fun w' => (composed_conclude _).bind fun files =>
      (composed_filed files).bind fun _ => composed_hasSystem.bind fun reached => ?_
    split
    · exact composed_act rfl fun _ h => by cases h
    · exact composed_pure _
  · split
    · exact .bind (composed_conclude _) fun _ => endsReporting_throw _
    · exact endsReporting_report trivial none

theorem reports_referenceScreenshot {id : Nat} {store : ScreenshotStore}
    (accepted : (referenceScreenshot id store).accepts text = .ok true) :
    ∃ request, ScreenshotRequest.of? text = some request ∧
      (referenceScreenshot id store).Reports text TellingAnything := by
  obtain ⟨request, found⟩ := Option.isSome_iff_exists.1 (Except.ok.inj accepted)
  refine ⟨request, found, ?_⟩
  unfold Reports referenceScreenshot
  dsimp only
  rw [found]
  refine .reading fun w => .bind (composed_conclude _) fun files => ?_
  split
  · exact .bind (composed_note _) fun _ => endsReporting_report trivial none
  · cases request with
    | newest count =>
        dsimp only
        split
        · exact .bind (composed_note _) fun _ => endsReporting_report trivial _
        · exact endsReporting_report trivial _
    | single index =>
        dsimp only
        split
        · exact .bind (composed_note _) fun _ => endsReporting_report trivial none
        · exact endsReporting_report trivial _

end Screenshots

/-! ### All commands -/

/-- A built-in command does something about what it accepts. -/
theorem stirs_builtins (o : BuiltinOptions) (first : Nat) (text : String) :
    ∀ c ∈ builtins o first, c.accepts text = .ok true → c.Stirs text := by
  simp only [builtins, numbered, List.zipIdx_cons, List.zipIdx_nil, List.map_cons, List.map_nil,
    List.forall_mem_cons]
  -- most commands do something about any text whatever
  have does {c : Command} (h : c.Stirs text) : c.accepts text = .ok true → c.Stirs text :=
    fun _ => h
  have tells {c : Command} {told : Entries Tree → Prop} (h : c.Reports text told) :
      c.accepts text = .ok true → c.Stirs text := does h.stirs
  refine ⟨fun h => ?typeText, does (stirs_deleteWord _ _), does (stirs_deleteLine _ _),
    fun h => (reports_clipboard h).2.stirs, does (stirs_keyboardShortcut _ _ _ _ _ _ _ _),
    does (stirs_keyboardShortcut _ _ _ _ _ _ _ _), does (stirs_keyboardShortcut _ _ _ _ _ _ _ _),
    does (stirs_keyboardShortcut _ _ _ _ _ _ _ _), does (stirs_keyPress _ _ _ _ _ _ _),
    does (stirs_keyPress _ _ _ _ _ _ _), does (stirs_keyPress _ _ _ _ _ _ _),
    does (stirs_keyPress _ _ _ _ _ _ _), does (stirs_keyPress _ _ _ _ _ _ _),
    fun h => ?typeSymbol, fun h => ?clickNumber, fun h => ?drag, fun h => ?refineGrid,
    tells (reports_fixedClick _ _ _ _ _ _ _ _), tells (reports_fixedClick _ _ _ _ _ _ _ _),
    tells (reports_fixedClick _ _ _ _ _ _ _ _), tells (reports_fixedClick _ _ _ _ _ _ _ _),
    fun h => ?scroll, fun h => ?mouseMove, tells (reports_pageNavigation _ _), fun h => ?homeEnd,
    fun h => (reports_arrowKey h).2.stirs, fun h => ?switch, tells (reports_moveWindow _ _),
    tells (reports_minimize _ _ _), tells (reports_maximize _ _), tells (reports_closeWindow _ _),
    tells (reports_switchWindow _ _), tells (reports_showOverlay _ _ _ _ _ _ _),
    tells (reports_showOverlay _ _ _ _ _ _ _), tells (reports_showOverlay _ _ _ _ _ _ _),
    tells (reports_showOverlay _ _ _ _ _ _ _),
    fun _ => (reports_hideOverlay _ _).stirs fun _ => reached_of_hasOverlays,
    fun h => ?reference, tells (reports_screenshot _ _ _ _), fun h => ?moveToNumber, by simp⟩
  case typeText =>
    obtain ⟨_, -, gives⟩ := exists_typed h
    exact stirs_of_gives gives
  case typeSymbol =>
    obtain ⟨_, -, gives⟩ := exists_symbol h
    exact stirs_of_gives gives
  case clickNumber =>
    obtain ⟨_, -, reports⟩ := reports_clickNumber h
    exact reports.stirs
  case drag =>
    obtain ⟨_, _, -, reports⟩ := reports_dragBetweenNumbers h
    exact reports.stirs
  case refineGrid =>
    obtain ⟨_, -, reports⟩ := reports_refineGrid h
    exact reports.stirs
  case scroll =>
    obtain ⟨_, -, -, reports⟩ := reports_scroll h
    exact reports.stirs
  case mouseMove =>
    obtain ⟨_, -, -, reports⟩ := reports_mouseMove h
    exact reports.stirs
  case homeEnd =>
    obtain ⟨_, -, reports⟩ := reports_homeEnd h
    exact reports.stirs
  case switch =>
    obtain ⟨_, -, reports⟩ := reports_switchToWindowNumber h
    exact reports.stirs fun _ => reached_of_look
  case reference =>
    obtain ⟨_, -, reports⟩ := reports_referenceScreenshot h
    exact reports.stirs
  case moveToNumber =>
    obtain ⟨_, -, reports⟩ := reports_moveToNumber h
    exact reports.stirs

/-- What the built-in commands that accept a text find in it, and what they do about it. -/
structure Performable (o : BuiltinOptions) (text : String) : Prop where
  /-- No command stops short without having done anything. -/
  stirs (first : Nat) : ∀ c ∈ builtins o first, c.accepts text = .ok true → c.Stirs text
  click (id : Nat) : (clickNumber id o.lexicon).accepts text = .ok true →
    ∃ n, (o.lexicon.numbers (plain text.toList)).head? = some n ∧
      (clickNumber id o.lexicon).Reports text (Telling "number" (.number n))
  moveTo (id : Nat) : (moveToNumber id o.lexicon).accepts text = .ok true →
    ∃ n, (o.lexicon.numbers (plain text.toList)).head? = some n ∧
      (moveToNumber id o.lexicon).Reports text (Telling "number" (.number n))
  refine (id : Nat) : (refineGrid id o.lexicon).accepts text = .ok true →
    ∃ n, (o.lexicon.numbers (plain text.toList)).head? = some n ∧
      (refineGrid id o.lexicon).Reports text (Telling "cell" (.number n))
  switch (id : Nat) : (switchToWindowNumber id o.lexicon).accepts text = .ok true →
    ∃ n, switchTarget? o.lexicon (plain text.toList) = some n ∧
      (switchToWindowNumber id o.lexicon).ReportsOverlaid text (Telling "number" (.number n))
  drag (id : Nat) : (dragBetweenNumbers id o.lexicon).accepts text = .ok true →
    ∃ start finish, dragTargets? o.lexicon text = some (start, finish) ∧
      (dragBetweenNumbers id o.lexicon).Reports text fun detail =>
        Telling "start" (.number start) detail ∧ Telling "end" (.number finish) detail
  scroll (id : Nat) : (Command.scroll id).accepts text = .ok true →
    ∃ d ∈ scrollDirections, mentions d.label (plain text.toList) = true ∧
      (Command.scroll id).Reports text (Telling "direction" (.text d.label))
  nudge (id : Nat) : (mouseMove id).accepts text = .ok true →
    ∃ d ∈ nudgeDirections, mentions d.label (plain text.toList) = true ∧
      (mouseMove id).Reports text (Telling "direction" (.text d.label))
  arrow (id : Nat) : (arrowKey id).accepts text = .ok true →
    plainText text ∈ arrowWords ∧
      (arrowKey id).Reports text (Telling "direction" (.text (plainText text)))
  jump (id : Nat) : (homeEnd id).accepts text = .ok true →
    ∃ target, jumpTarget? (plain text.toList) = some target ∧
      (homeEnd id).Reports text (Telling "action" (.text target.label))
  clipboard (id : Nat) : (Command.clipboard id).accepts text = .ok true →
    plainText text ∈ clipboardKeys.keys ∧
      (Command.clipboard id).Reports text (Telling "operation" (.text (plainText text)))
  reference (id : Nat) : (referenceScreenshot id o.screenshots).accepts text = .ok true →
    ∃ request, ScreenshotRequest.of? text = some request ∧
      (referenceScreenshot id o.screenshots).Reports text TellingAnything
  /-- The text that a symbol name gives is in the table. -/
  symbol (id : Nat) : (typeSymbol id o.symbols).accepts text = .ok true →
    ∃ e ∈ o.symbols, (typeSymbol id o.symbols).execute text = pure (some e.2)
  typed (id : Nat) : (typeText id o.symbols).accepts text = .ok true →
    ∃ s : String, s ≠ "" ∧ (typeText id o.symbols).execute text = pure (some s)
  /-- Nobody is in doubt whether a symbol or its name is to be typed. -/
  apart (id id' : Nat) : (typeText id o.symbols).accepts text = .ok true →
    (typeSymbol id' o.symbols).accepts text = .ok false

/-- What a built-in command accepts, it can carry out, whatever number words and symbols there
are. -/
theorem performable (o : BuiltinOptions) (text : String) : Performable o text where
  stirs first := stirs_builtins o first text
  click _ := reports_clickNumber
  moveTo _ := reports_moveToNumber
  refine _ := reports_refineGrid
  switch _ := reports_switchToWindowNumber
  drag _ := reports_dragBetweenNumbers
  scroll _ := reports_scroll
  nudge _ := reports_mouseMove
  arrow _ := reports_arrowKey
  jump _ := reports_homeEnd
  clipboard _ := reports_clipboard
  reference _ := reports_referenceScreenshot
  symbol _ := exists_symbol
  typed _ := exists_typed
  apart _ _ := not_symbol_of_dictated

/-- "Click sixty nine!" is for the click, which finds number 69 in it. -/
example :
    (clickNumber 0 (.make .bundled [] 0)).accepts "Click sixty nine!" = .ok true ∧
      ((Lexicon.make .bundled [] 0).numbers (plain "Click sixty nine!".toList)).head? = some 69 :=
  ⟨by cbv, by decide +kernel⟩

end Command

end VoiceControl
