import Mathlib.Data.List.TakeDrop
import VoiceControl.Proofs.Command.Precedence
import VoiceControl.Proofs.Text.PlainForm

/-!
# Marks attached to an utterance

Recognisers attach marks to words. Every built-in command but the drag takes an utterance by its
plain form, which has none, so marks matter only through the drag. It separates its sides before it
leaves out marks, and a mark next to the separator hides it. So an utterance that is meant for the
drag is taken for a bare number, and one that is not may be taken for a drag. Utterances whose
plain form has no separator are safe.

* `hearsPlain_of_mem_builtins`: which commands take the plain form.
* `dragSeparator?_plain_of_drags`: what a drag leaves in the plain form.
* `builtinFor_plainText`: when the marks of an utterance do not matter.
-/

namespace VoiceControl.Command

open VoiceControl.Text VoiceControl.Utterance

variable {o : BuiltinOptions} {lx : Lexicon} {text : String} {s : List Char}

/-! ## Commands that take the plain form -/

/-- A command that accepts an utterance if it accepts the plain form of it. -/
def HearsPlain (c : Command) : Prop := ∀ text, c.accepts (plainText text) = c.accepts text

/-- The drag is the only built-in command that looks at more than the plain form. -/
theorem hearsPlain_of_mem_builtins :
    ∀ c ∈ builtins o, c = dragBetweenNumbers 15 o.lexicon ∨ c.HearsPlain := by
  unfold builtins numbered
  simp only [List.zipIdx_cons, List.zipIdx_nil, List.map_cons, List.map_nil, List.forall_mem_cons]
  and_intros
  all_goals first
    | exact .inl trivial
    | -- every other recogniser comes down to a test on the plain form
      refine .inr fun text => ?_
      simp only [typeText, deleteWord, deleteLine, clipboard, selectAll, undo, redo, save, enter,
        tab, escape, space, backspace, typeSymbol, clickNumber, refineGrid, rightClick, doubleClick,
        middleClick, click, scroll, mouseMove, pageNavigation, homeEnd, arrowKey,
        switchToWindowNumber, moveWindow, minimize, maximize, closeWindow, switchWindow, showGrid,
        showElements, showWindows, showHelp, hideOverlay, referenceScreenshot, screenshot,
        moveToNumber, keyPress, keyboardShortcut, fixedClick, showOverlay, plainly, Symbols.spoken?,
        Symbols.nameIn, ScreenshotRequest.of?, plain_plainText]
    | exact List.forall_mem_nil _

theorem HearsPlain.eligible {c : Command} (h : c.HearsPlain) (text : String) (enabledOnly : Bool) :
    c.eligible (plainText text) enabledOnly = c.eligible text enabledOnly := by
  rw [Command.eligible, Command.eligible, h text]

theorem find?_plainText {cs : List Command} (hear : ∀ c ∈ cs, c.HearsPlain) (text : String)
    (enabledOnly : Bool) :
    cs.find? (·.eligible (plainText text) enabledOnly) =
      cs.find? (·.eligible text enabledOnly) := by
  induction cs with
  | nil => rfl
  | cons c cs ih =>
      rw [List.find?_cons, List.find?_cons, (hear c List.mem_cons_self).eligible,
        ih fun d hd => hear d (List.mem_cons_of_mem c hd)]

/-! ## Around the drag -/

theorem enabled_of_mem_beforeDrag {c : Command} (h : c ∈ beforeDrag o) : c.enabled = true := by
  simp only [beforeDrag, List.mem_cons, List.not_mem_nil, or_false] at h
  rcases h with rfl | rfl | rfl | rfl <;> rfl

theorem mem_afterDrag {c : Command} (h : c ∈ afterDrag o) :
    c = refineGrid 16 o.lexicon ∨ c = switchToWindowNumber 26 o.lexicon ∨
      c ∈ builtins o ∧ c.priority ≠ Priority.high := by
  rcases List.mem_append.1 h with high | low
  · simp only [List.mem_cons, List.not_mem_nil, or_false] at high
    exact high.imp_right .inl
  · have known := (Registry.mem_registerAll.1 low).resolve_left List.not_mem_nil
    obtain ⟨mem, rank⟩ := List.mem_filter.1 known
    exact .inr (.inr ⟨mem, of_decide_eq_true rank⟩)

theorem drag_notMem_afterDrag : dragBetweenNumbers 15 o.lexicon ∉ afterDrag o := by
  intro mem
  rcases mem_afterDrag mem with same | same | ⟨-, rank⟩
  · have equal : 15 = 16 := congrArg Command.id same
    omega
  · have equal : 15 = 26 := congrArg Command.id same
    omega
  · exact rank rfl

theorem hearsPlain_of_mem_beforeDrag {c : Command} (h : c ∈ beforeDrag o) : c.HearsPlain := by
  intro text
  simp only [beforeDrag, List.mem_cons, List.not_mem_nil, or_false] at h
  rcases h with rfl | rfl | rfl | rfl <;>
    simp only [typeText, deleteWord, deleteLine, clickNumber, plainly, plain_plainText]

theorem hearsPlain_of_mem_afterDrag {c : Command} (h : c ∈ afterDrag o) : c.HearsPlain := by
  rcases mem_afterDrag h with rfl | rfl | ⟨mem, rank⟩
  · intro text
    simp only [refineGrid, plainly, plain_plainText]
  · intro text
    simp only [switchToWindowNumber, plainly, plain_plainText]
  · rcases hearsPlain_of_mem_builtins c mem with rfl | hears
    · exact absurd rfl rank
    · exact hears

/-! ## What the drag leaves in the plain form -/

/-- Whether an utterance is for the drag. -/
def drags (lx : Lexicon) (text : String) : Bool := (dragTargets? lx text).isSome

theorem plain_ne_nil_of_dragSide? {n : Number} (h : dragSide? lx s = some n) : plain s ≠ [] := by
  intro nothing
  rw [dragSide?, nothing] at h
  cases h

theorem eq_true_or_mem_dropWhile {p : Char → Bool} {c : Char} (h : c ∈ s) :
    p c = true ∨ c ∈ s.dropWhile p := by
  have whole : s.takeWhile p ++ s.dropWhile p = s := List.takeWhile_append_dropWhile
  rw [← whole] at h
  exact (List.mem_append.1 h).imp_left List.mem_takeWhile_imp

/-- A span of digits has no marks. -/
theorem isMark_of_mem_digitSpan {c : Char} (span : isDigitSpan s = true) (h : c ∈ s) :
    isMark c = false := by
  have parts : c.isDigit = true ∨ isBlank c = true ∨ c = '-' := by
    rw [isDigitSpan, List.span_eq_takeWhile_dropWhile] at span
    dsimp only at span
    rcases eq_true_or_mem_dropWhile h with digit | h
    · exact .inl digit
    rcases eq_true_or_mem_dropWhile h with blank | h
    · exact .inr (.inl blank)
    split at span
    · rename_i t hyphen
      rw [hyphen] at h
      rcases List.mem_cons.1 h with rfl | h
      · exact .inr (.inr rfl)
      rcases eq_true_or_mem_dropWhile h with blank | h
      · exact .inr (.inl blank)
      · simp only [Bool.and_eq_true] at span
        exact .inl (List.all_eq_true.1 span.2 c h)
    · cases span
  refine Bool.eq_false_iff.2 fun mark => ?_
  obtain ⟨digit, hyphen⟩ : c.isDigit = false ∧ c ≠ '-' :=
    of_contains (P := fun d => d.isDigit = false ∧ d ≠ '-') (by decide) mark
  have blank := isBlank_of_isMark mark
  rw [digit, blank] at parts
  rcases parts with no | no | no
  · cases no
  · cases no
  · exact hyphen no

/-- A text in which a separating word occurs has a separator. -/
theorem dragSeparator?_of_mentions {w : String} (known : w ∈ dragSeparators)
    (h : mentions w s = true) : dragSeparator? s ≠ none := by
  have found : (dragSeparators.find? fun w => mentions w s).isSome = true :=
    List.find?_isSome.2 ⟨w, known, h⟩
  obtain ⟨v, hv⟩ := Option.isSome_iff_exists.1 found
  rw [dragSeparator?, hv]
  exact Option.some_ne_none _

/-- A separating word between two sides that mean something is in the plain form too. -/
theorem mentions_plain {w : String} {first second : List Char} (known : w ∈ dragSeparators)
    (split : splitAt? w.toList (trim (lower s)) = some (first, second)) (said : plain first ≠ [])
    (said' : plain second ≠ []) : mentions w (plain s) = true := by
  obtain ⟨x, y, whole, -, -⟩ := exists_eq_append_trimBy isBlank (lower s)
  change lower s = x ++ trim (lower s) ++ y at whole
  obtain ⟨c, hc, front⟩ := exists_of_plain_ne_nil said
  obtain ⟨d, hd, back⟩ := exists_of_plain_ne_nil said'
  have parts : lower s = x ++ first ++ w.toList ++ (second ++ y) := by
    rw [whole, eq_of_splitAt? split]
    simp only [List.append_assoc]
  have letters : (dragSeparators.all fun v => v.toList.all fun e =>
      decide (isMark e = false ∧ e ≠ '\u03C3' ∧ e ≠ '\u03C2')) = true := by decide
  have unmarked := List.all_iff_forall_prop.1 (List.all_eq_true.1 letters w known)
  exact occursIn_plain parts ⟨c, List.mem_append_right x hc, front⟩
    ⟨d, List.mem_append_left y hd, back⟩ unmarked

/-- A mark of a text is in it when it is in lower case and trimmed. -/
theorem mem_trim_lower_of_isMark {c : Char} (h : c ∈ s) (mark : isMark c = true) :
    c ∈ trim (lower s) := by
  obtain ⟨x, y, whole, front, back⟩ := exists_eq_append_trimBy isBlank (lower s)
  have here : c ∈ lower s := mem_lowerFrom_of_isLowered h (isLowered_of_isMark mark)
  have solid := isBlank_of_isMark mark
  rw [whole] at here
  rcases List.mem_append.1 here with here | here
  · rcases List.mem_append.1 here with here | here
    · rw [front c here] at solid
      cases solid
    · exact here
  · rw [back c here] at solid
    cases solid

/-- An utterance for the drag has a separator in its plain form too. -/
theorem dragSeparator?_plain_of_drags (h : drags lx text = true) :
    dragSeparator? (plain text.toList) ≠ none := by
  obtain ⟨targets, h⟩ := Option.isSome_iff_exists.1 h
  simp only [dragTargets?, Option.bind_eq_bind, Option.bind_eq_some_iff] at h
  obtain ⟨separator, hs, ⟨first, second⟩, split, a, ha, b, hb, -⟩ := h
  unfold dragSeparator? at hs
  split at hs
  · -- a word between two sides
    rename_i w found
    obtain rfl := Option.some.inj hs
    have known := List.mem_of_find?_eq_some found
    exact dragSeparator?_of_mentions known (mentions_plain known split
      (plain_ne_nil_of_dragSide? ha) (plain_ne_nil_of_dragSide? hb))
  · split at hs
    · -- a span of digits, which is its own plain form
      rename_i none_ span
      have unmarked : ∀ c ∈ text.toList, isMark c = false := by
        intro c hc
        refine Bool.eq_false_iff.2 fun mark => ?_
        rw [isMark_of_mem_digitSpan span (mem_trim_lower_of_isMark hc mark)] at mark
        cases mark
      rw [plain_of_unmarked unmarked, dragSeparator?, none_, if_pos span]
      exact Option.some_ne_none _
    · cases hs

/-! ## Dispatch -/

/-- The command that the built-in commands take an utterance for. -/
def builtinFor (o : BuiltinOptions) (text : String) (enabledOnly : Bool) : Option Command :=
  (((Registry.mk []).registerAll (builtins o)).findMatching text enabledOnly).1

theorem builtinFor_eq (o : BuiltinOptions) (text : String) (enabledOnly : Bool) :
    builtinFor o text enabledOnly =
      ((beforeDrag o).find? (·.eligible text enabledOnly)).or
        (if drags o.lexicon text then some (dragBetweenNumbers 15 o.lexicon)
        else (afterDrag o).find? (·.eligible text enabledOnly)) := by
  have accepts : (dragBetweenNumbers 15 o.lexicon).eligible text enabledOnly =
      drags o.lexicon text := by
    show ((!enabledOnly || true) && drags o.lexicon text) = _
    rw [Bool.or_true, Bool.true_and]
  rw [builtinFor, Registry.findMatching_fst, commands_builtins, List.find?_append,
    List.find?_cons, accepts]
  cases drags o.lexicon text <;> rfl

/-- An utterance that no built-in command accepts goes to none. -/
theorem builtinFor_eq_none (refuse : ∀ c ∈ builtins o, c.accepts text = .ok false)
    (enabledOnly : Bool) : builtinFor o text enabledOnly = none := by
  rw [builtinFor, Registry.findMatching_fst, List.find?_eq_none]
  intro c hc
  have known := (Registry.mem_registerAll.1 hc).resolve_left List.not_mem_nil
  rw [Command.eligible, refuse c known, Bool.and_false]
  exact Bool.false_ne_true

/-- A command that is asked before the drag takes an utterance if it accepts it. -/
theorem find?_beforeDrag_isSome_iff (text : String) (enabledOnly : Bool) :
    ((beforeDrag o).find? (·.eligible text enabledOnly)).isSome = true ↔
      ∃ c ∈ beforeDrag o, c.accepts text = .ok true := by
  rw [List.find?_isSome]
  refine exists_congr fun c => and_congr_right fun mem => ?_
  rw [Command.eligible, enabled_of_mem_beforeDrag mem, Bool.or_true, Bool.true_and]
  cases c.accepts text <;> simp

/-- Of two utterances with one plain form, both go to one command if one of the commands takes them
that are asked before the drag, or if the drag takes both or neither. Otherwise they do not. -/
theorem builtinFor_eq_iff {text' : String} (same : plain text.toList = plain text'.toList)
    (enabledOnly : Bool) :
    builtinFor o text enabledOnly = builtinFor o text' enabledOnly ↔
      (drags o.lexicon text = drags o.lexicon text' ∨
        ∃ c ∈ beforeDrag o, c.accepts text' = .ok true) := by
  have clean : plainText text = plainText text' := congrArg String.ofList same
  have heard {cs : List Command} (hear : ∀ c ∈ cs, c.HearsPlain) :
      cs.find? (·.eligible text enabledOnly) = cs.find? (·.eligible text' enabledOnly) := by
    rw [← find?_plainText hear, clean, find?_plainText hear]
  rw [builtinFor_eq, builtinFor_eq, heard fun c hc => hearsPlain_of_mem_beforeDrag hc,
    heard fun c hc => hearsPlain_of_mem_afterDrag hc,
    ← find?_beforeDrag_isSome_iff text' enabledOnly]
  cases (beforeDrag o).find? (·.eligible text' enabledOnly) with
  | some c => simp
  | none =>
      -- the drag is not among the commands that are asked after it
      have other : (afterDrag o).find? (·.eligible text' enabledOnly) ≠
          some (dragBetweenNumbers 15 o.lexicon) := fun found =>
        drag_notMem_afterDrag (List.mem_of_find?_eq_some found)
      cases drags o.lexicon text <;> cases drags o.lexicon text' <;> simp [other, other.symm]

/-- Two utterances whose plain form has no separator go to one command if it is the same form. -/
theorem builtinFor_eq_of_no_separator {text' : String}
    (same : plain text.toList = plain text'.toList)
    (none_ : dragSeparator? (plain text'.toList) = none) (enabledOnly : Bool) :
    builtinFor o text enabledOnly = builtinFor o text' enabledOnly := by
  have refused {t : String} (h : dragSeparator? (plain t.toList) = none) :
      drags o.lexicon t = false :=
    Bool.eq_false_iff.2 fun accepted => dragSeparator?_plain_of_drags accepted h
  refine (builtinFor_eq_iff same enabledOnly).2 (.inl ?_)
  rw [refused none_, refused (same ▸ none_)]

/-- An utterance goes where its plain form goes if one of the commands takes it that are asked
before the drag, or if it is for the drag exactly when its plain form is. Otherwise it goes
elsewhere than its plain form. It never does if the plain form has no separator of a drag. -/
theorem builtinFor_plainText (o : BuiltinOptions) (text : String) (enabledOnly : Bool) :
    (builtinFor o (plainText text) enabledOnly = builtinFor o text enabledOnly ↔
      (drags o.lexicon (plainText text) = drags o.lexicon text ∨
        ∃ c ∈ beforeDrag o, c.accepts text = .ok true)) ∧
    (dragSeparator? (plain text.toList) = none →
      builtinFor o (plainText text) enabledOnly = builtinFor o text enabledOnly) :=
  ⟨builtinFor_eq_iff (plain_plainText text) enabledOnly,
    fun none_ => builtinFor_eq_of_no_separator (plain_plainText text) none_ enabledOnly⟩

/-- The built-in commands with the bundled number words and symbols. -/
def bundledOptions : BuiltinOptions where
  lexicon := ⟨NumberWords.bundled, [], 0⟩
  screenshots := ⟨"/shots"⟩
  platform := "linux"

/-- A click at a number has no separator and takes any marks. -/
theorem builtinFor_plainText_click :
    plainText "Click, \"five\"." = "click five" ∧
      dragSeparator? (plain "Click, \"five\".".toList) = none ∧
      (builtinFor bundledOptions "click five" true).map (·.name) = some "ClickNumberCommand" ∧
      builtinFor bundledOptions "click five" true =
        builtinFor bundledOptions "Click, \"five\"." true := by
  have clean : plainText "Click, \"five\"." = "click five" := by decide
  have none_ : dragSeparator? (plain "Click, \"five\".".toList) = none := by decide
  refine ⟨clean, none_, by decide, ?_⟩
  rw [← clean]
  exact (builtinFor_plainText bundledOptions "Click, \"five\"." true).2 none_

/-- A full stop after two numbers around a hyphen hides that they are meant for the drag. -/
theorem builtinFor_stop_ne_plain :
    builtinFor bundledOptions "3-7." true ≠ builtinFor bundledOptions (plainText "3-7.") true := by
  have stop : (builtinFor bundledOptions "3-7." true).map (·.name) =
      some "MoveToNumberCommand" := by decide
  have clean : (builtinFor bundledOptions (plainText "3-7.") true).map (·.name) =
      some "DragBetweenNumbersCommand" := by decide
  intro same
  rw [same, clean] at stop
  exact absurd stop (by decide)

end VoiceControl.Command
