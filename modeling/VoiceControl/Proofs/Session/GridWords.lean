import VoiceControl.Proofs.Command.Order
import VoiceControl.Proofs.Session.Sayings
import VoiceControl.Proofs.Text.Numerals

/-!
# Utterances about the grid

The six forms of utterance that address the screen through the grid, and the built-in commands
that they are for. Forty commands compete for every utterance. Nearly all of them look for phrases
with letters that these utterances do not have, and the rest stand behind in priority.
-/

namespace VoiceControl

open VoiceControl.Text VoiceControl.Command

/-- An utterance about the grid. -/
inductive GridWord where
  | grid
  | hide
  | refine (k : Numeral)
  | point (k : Numeral)
  | click (k : Numeral)
  | drag (a b : Numeral)

namespace GridWord

/-- The words of an utterance. -/
def words : GridWord → List (List Char)
  | .grid => ["grid".toList]
  | .hide => ["hide".toList]
  | .refine k => ["refine".toList, k.digits]
  | .point k => [k.digits]
  | .click k => ["click".toList, k.digits]
  | .drag a b => [a.digits, "to".toList, b.digits]

/-- The characters of an utterance. -/
def spoken (w : GridWord) : List Char := unwords w.words

/-- An utterance as text. -/
def text (w : GridWord) : String := String.ofList w.spoken

/-- The built-in command that an utterance is for. -/
def command (o : BuiltinOptions) : GridWord → Command
  | .grid => showGrid 32 o.gridSize
  | .hide => hideOverlay 36
  | .refine _ => refineGrid 16 o.lexicon
  | .point _ => moveToNumber 39 o.lexicon
  | .click _ => clickNumber 14 o.lexicon
  | .drag _ _ => dragBetweenNumbers 15 o.lexicon

theorem plainWord_of_mem {w : GridWord} {v : List Char} (h : v ∈ w.words) : PlainWord v := by
  have plain : PlainWord "grid".toList ∧ PlainWord "hide".toList ∧ PlainWord "refine".toList ∧
      PlainWord "click".toList ∧ PlainWord "to".toList := by
    refine ⟨?_, ?_, ?_, ?_, ?_⟩ <;> exact ⟨by decide, List.all_eq_true.1 rfl⟩
  obtain ⟨grid, hide, refine, click, between⟩ := plain
  cases w <;> simp only [words, List.mem_cons, List.not_mem_nil, or_false] at h
  case grid => exact h ▸ grid
  case hide => exact h ▸ hide
  case refine k => exact h.elim (· ▸ refine) (· ▸ k.plainWord)
  case point k => exact h ▸ k.plainWord
  case click k => exact h.elim (· ▸ click) (· ▸ k.plainWord)
  case drag a b =>
    rcases h with rfl | rfl | rfl
    · exact a.plainWord
    · exact between
    · exact b.plainWord

theorem words_ne_nil (w : GridWord) : w.words ≠ [] := by
  cases w <;> exact List.cons_ne_nil _ _

/-! ## Letters -/

/-- The decimal digits. -/
def digits : List Char := "0123456789".toList

theorem mem_digits {c : Char} (h : c.isDigit = true) : c ∈ digits := by
  have bounds : 48 ≤ c.toNat ∧ c.toNat ≤ 57 := by
    simpa [Char.isDigit, UInt32.le_iff_toNat_le] using h
  have known : c = Char.ofNat c.toNat := (Char.ofNat_toNat c).symm
  rw [known]
  generalize c.toNat = n at bounds
  obtain ⟨low, high⟩ := bounds
  have cases_ : n = 48 ∨ n = 49 ∨ n = 50 ∨ n = 51 ∨ n = 52 ∨ n = 53 ∨ n = 54 ∨ n = 55 ∨ n = 56 ∨
      n = 57 := by omega
  rcases cases_ with rfl | rfl | rfl | rfl | rfl | rfl | rfl | rfl | rfl | rfl <;> decide

/-- The characters of an utterance other than the digits of its numbers. -/
def letters : GridWord → List Char
  | .grid => "grid".toList
  | .hide => "hide".toList
  | .refine _ => "refine ".toList
  | .point _ => []
  | .click _ => "click ".toList
  | .drag _ _ => " to ".toList

/-- The characters that an utterance is made of. -/
def alphabet (w : GridWord) (c : Char) : Bool := (digits ++ w.letters).contains c

theorem spoken_refine (k : Numeral) : (refine k).spoken = "refine ".toList ++ k.digits := by
  rw [spoken, words, unwords_cons_cons, unwords_singleton]
  rfl

theorem spoken_point (k : Numeral) : (point k).spoken = k.digits := unwords_singleton _

theorem spoken_click (k : Numeral) : (click k).spoken = "click ".toList ++ k.digits := by
  rw [spoken, words, unwords_cons_cons, unwords_singleton]
  rfl

theorem spoken_drag (a b : Numeral) :
    (drag a b).spoken = a.digits ++ (" to ".toList ++ b.digits) := by
  rw [spoken, words, unwords_cons_cons, unwords_cons_cons, unwords_singleton]
  rfl

theorem alphabet_of_letter (w : GridWord) {c : Char} (h : c ∈ w.letters) : w.alphabet c = true :=
  List.contains_iff_mem.2 (List.mem_append_right _ h)

theorem alphabet_of_digit (w : GridWord) {k : Numeral} {c : Char} (h : c ∈ k.digits) :
    w.alphabet c = true :=
  List.contains_iff_mem.2 (List.mem_append_left _ (mem_digits (k.all_digit c h)))

/-- An utterance is written in its alphabet. -/
theorem alphabet_of_mem (w : GridWord) {c : Char} (h : c ∈ w.spoken) : w.alphabet c = true := by
  have letter := fun mem => w.alphabet_of_letter (c := c) mem
  have digit := fun (k : Numeral) (mem : c ∈ k.digits) => w.alphabet_of_digit mem
  cases w with
  | grid | hide =>
      rw [spoken, words, unwords_singleton] at h
      exact letter h
  | refine k =>
      rw [spoken_refine] at h
      exact (List.mem_append.1 h).elim letter (digit k)
  | point k =>
      rw [spoken_point] at h
      exact digit k h
  | click k =>
      rw [spoken_click] at h
      exact (List.mem_append.1 h).elim letter (digit k)
  | drag a b =>
      rw [spoken_drag] at h
      rcases List.mem_append.1 h with first | h
      · exact digit a first
      · exact (List.mem_append.1 h).elim letter (digit b)

/-- An utterance about the grid is one of plain words. -/
def saying (w : GridWord) : Saying where
  words := w.words
  letters := digits ++ w.letters
  plain _ h := plainWord_of_mem h
  ne_nil := w.words_ne_nil
  written _ h := List.contains_iff_mem.1 (w.alphabet_of_mem h)

theorem text_saying (w : GridWord) : w.saying.text = w.text := rfl

/-- Commands see an utterance as it is. -/
theorem plain_spoken (w : GridWord) : Utterance.plain w.spoken = w.spoken := w.saying.plain_spoken

theorem trim_lower_spoken (w : GridWord) : trim (lower w.spoken) = w.spoken :=
  w.saying.trim_lower_spoken

/-! ## Recognition -/

theorem ranked_of_mem_builtins {o : BuiltinOptions} : ∀ d ∈ builtins o, d.Ranked := by
  unfold builtins numbered
  simp only [List.zipIdx_cons, List.zipIdx_nil, List.map_cons, List.map_nil, List.forall_mem_cons]
  and_intros
  all_goals first | exact ⟨_, rfl⟩ | exact nofun

/-- What holds of the commands below the highest priority and of those that have it holds of all
built-in commands. -/
theorem forall_mem_builtins_of_high {o : BuiltinOptions} {P : Command → Prop}
    (below : ∀ d, d.priority.lt Priority.high = true → P d) (typeText : P (typeText 0 o.symbols))
    (deleteWord : P (deleteWord 1)) (deleteLine : P (deleteLine 2))
    (clickNumber : P (clickNumber 14 o.lexicon)) (drag : P (dragBetweenNumbers 15 o.lexicon))
    (refineGrid : P (refineGrid 16 o.lexicon)) (switch : P (switchToWindowNumber 26 o.lexicon)) :
    ∀ d ∈ builtins o, P d := by
  unfold builtins numbered
  simp only [List.zipIdx_cons, List.zipIdx_nil, List.map_cons, List.map_nil, List.forall_mem_cons]
  and_intros
  all_goals first | exact below _ rfl | assumption | exact nofun

/-- A command accepts the utterance, or stands behind the one that the utterance is for. -/
def Yields (o : BuiltinOptions) (w : GridWord) (d : Command) : Prop :=
  d = w.command o ∨ d.accepts w.text = .ok false ∨
    d.priority.lt (w.command o).priority = true

section Recognition

variable {o : BuiltinOptions}

/-- An utterance that no other command of the highest priority is written like goes to the one of
that priority that it is for. -/
theorem yields_of_high (w : GridWord) (high : (w.command o).priority = Priority.high)
    (foreign : ["type ", "delete word", "delete line", "switch"].all (isForeign w.alphabet) = true)
    (click : Yields o w (clickNumber 14 o.lexicon))
    (drag : Yields o w (dragBetweenNumbers 15 o.lexicon))
    (refine_ : Yields o w (refineGrid 16 o.lexicon)) : ∀ d ∈ builtins o, Yields o w d := by
  have written := fun c hc => w.alphabet_of_mem (c := c) hc
  have plain := w.plain_spoken
  simp only [List.all_cons, List.all_nil, Bool.and_true, Bool.and_eq_true] at foreign
  obtain ⟨type, word, line, switch⟩ := foreign
  refine forall_mem_builtins_of_high ?_ ?_ ?_ ?_ click drag refine_ ?_
  · intro d below
    rw [← high] at below
    exact .inr (.inr below)
  · exact .inr (.inl (typeText_refuses written plain type _ _))
  · refine .inr (.inl ?_)
    unfold deleteWord
    exact plainly_eq_false plain (isOneOf_eq_false written (by simpa using word))
  · refine .inr (.inl ?_)
    unfold deleteLine
    exact plainly_eq_false plain (isOneOf_eq_false written (by simpa using line))
  · refine .inr (.inl ?_)
    unfold switchToWindowNumber
    dsimp only
    exact plainly_leads_eq_false written plain switch _

theorem yields_refine (k : Numeral) : ∀ d ∈ builtins o, Yields o (refine k) d :=
  yields_of_high (refine k) rfl rfl
    (.inr (.inl ((refine k).saying.clickNumber_refuses rfl 14 o.lexicon)))
    (.inr (.inl ((refine k).saying.drag_refuses rfl rfl 15 o.lexicon))) (.inl rfl)

theorem yields_click (k : Numeral) : ∀ d ∈ builtins o, Yields o (click k) d :=
  yields_of_high (click k) rfl rfl (.inl rfl)
    (.inr (.inl ((click k).saying.drag_refuses rfl rfl 15 o.lexicon)))
    (.inr (.inl ((click k).saying.refineGrid_refuses rfl 16 o.lexicon)))

theorem yields_drag (a b : Numeral) : ∀ d ∈ builtins o, Yields o (drag a b) d :=
  yields_of_high (drag a b) rfl rfl
    (.inr (.inl ((drag a b).saying.clickNumber_refuses rfl 14 o.lexicon))) (.inl rfl)
    (.inr (.inl ((drag a b).saying.refineGrid_refuses rfl 16 o.lexicon)))

/-- The two fixed utterances are told apart from all phrases by evaluation. -/
theorem yields_grid : ∀ d ∈ builtins o, Yields o .grid d := by
  unfold builtins numbered
  simp only [List.zipIdx_cons, List.zipIdx_nil, List.map_cons, List.map_nil, List.forall_mem_cons]
  and_intros
  all_goals
    first | exact .inl rfl | exact .inr (.inr rfl) | exact .inr (.inl rfl) | exact nofun

theorem yields_hide : ∀ d ∈ builtins o, Yields o .hide d := by
  unfold builtins numbered
  simp only [List.zipIdx_cons, List.zipIdx_nil, List.map_cons, List.map_nil, List.forall_mem_cons]
  and_intros
  all_goals
    first | exact .inl rfl | exact .inr (.inr rfl) | exact .inr (.inl rfl) | exact nofun

section Point

variable (k : Numeral)

theorem point_refuses_movement :
    (scroll 21).accepts (point k).text = .ok false ∧
      (mouseMove 22).accepts (point k).text = .ok false ∧
      (pageNavigation 23).accepts (point k).text = .ok false := by
  have written := fun c hc => (point k).alphabet_of_mem (c := c) hc
  have plain := (point k).plain_spoken
  refine ⟨?_, ?_, ?_⟩
  · unfold scroll
    dsimp only
    exact plainly_leads_eq_false written plain rfl _
  · unfold mouseMove
    dsimp only
    exact plainly_leads_eq_false written plain rfl _
  · unfold pageNavigation
    dsimp only
    refine plainly_eq_false plain ?_
    rw [mentions_eq_false written rfl, mentions_eq_false written rfl, Bool.or_false]

theorem point_refuses_windows (lx : Lexicon) :
    (switchToWindowNumber 26 lx).accepts (point k).text = .ok false ∧
      (closeWindow 30).accepts (point k).text = .ok false ∧
      (switchWindow 31).accepts (point k).text = .ok false := by
  have written := fun c hc => (point k).alphabet_of_mem (c := c) hc
  have plain := (point k).plain_spoken
  refine ⟨?_, ?_, ?_⟩
  · unfold switchToWindowNumber
    dsimp only
    exact plainly_leads_eq_false written plain rfl _
  · unfold closeWindow
    exact plainly_eq_false plain (mentions_eq_false written rfl)
  · have other : (point k).spoken ≠ "switch".toList := fun equal =>
      ne_of_isForeign written (show isForeign _ "switch" = true from rfl)
        (by rw [equal, String.ofList_toList])
    unfold switchWindow
    dsimp only
    refine plainly_eq_false plain ?_
    rw [mentions_eq_false written rfl, decide_eq_false other, Bool.or_false]

theorem point_refuses_hide : (hideOverlay 36).accepts (point k).text = .ok false := by
  have written := fun c hc => (point k).alphabet_of_mem (c := c) hc
  have phrase : HelpPanel.isClosePhrase (String.ofList (point k).spoken) = false := by
    rw [HelpPanel.isClosePhrase, lowerText, trimText, String.toList_ofList,
      String.toList_ofList, trim_lower_spoken]
    show isOneOf HelpPanel.closePhrases _ = false
    exact isOneOf_eq_false written rfl
  unfold hideOverlay
  dsimp only
  refine plainly_eq_false (point k).plain_spoken ?_
  rw [isOneOf_eq_false written rfl, phrase, Bool.or_false]

end Point

/-- Nothing but the command for bare numbers takes a bare number. -/
theorem yields_point (bundled : o.symbols = Symbols.bundled) (k : Numeral) :
    ∀ d ∈ builtins o, Yields o (point k) d := by
  have written := fun c hc => (point k).alphabet_of_mem (c := c) hc
  have plain := (point k).plain_spoken
  have names : o.symbols.keys.all (isForeign (point k).alphabet) = true := by
    rw [bundled]
    rfl
  have drag := (point k).saying.drag_refuses rfl rfl 15 o.lexicon
  have click := (point k).saying.clickNumber_refuses rfl 14 o.lexicon
  have refine_ := (point k).saying.refineGrid_refuses rfl 16 o.lexicon
  have typing := typeText_refuses written plain rfl 0 o.symbols
  have symbol := typeSymbol_refuses written plain rfl names 13
  have jump := homeEnd_refuses written plain rfl 24
  have reference := referenceScreenshot_refuses written plain rfl 37 o.screenshots
  have hide := point_refuses_hide k
  obtain ⟨scroll, nudge, page⟩ := point_refuses_movement k
  obtain ⟨switchTo, close, switch⟩ := point_refuses_windows k o.lexicon
  have refuses {d : Command} (h : d.accepts (point k).text = .ok false) : Yields o (point k) d :=
    .inr (.inl h)
  have key {triggers : List String} (id : Nat) (name key description : String)
      (foreign : (triggers.map lowerText).all (isForeign (point k).alphabet) = true) :
      Yields o (point k) (keyPress id name triggers key description Priority.normal) :=
    refuses (keyPress_refuses written plain foreign id name key description _)
  have shortcut {triggers : List String} (id : Nat) (name key description : String)
      (foreign : (triggers.map lowerText).all (isForeign (point k).alphabet) = true) :
      Yields o (point k)
        (keyboardShortcut id name triggers key description Priority.medium "ctrl") :=
    refuses (keyboardShortcut_refuses written plain foreign id name key description _ _)
  -- one part for every command, in the order of their registration
  unfold builtins numbered
  simp only [List.zipIdx_cons, List.zipIdx_nil, List.map_cons, List.map_nil, List.forall_mem_cons]
  refine ⟨refuses typing, ?_, ?_, ?_, shortcut _ _ _ _ rfl, shortcut _ _ _ _ rfl,
    shortcut _ _ _ _ rfl, shortcut _ _ _ _ rfl, key _ _ _ _ rfl, key _ _ _ _ rfl,
    key _ _ _ _ rfl, key _ _ _ _ rfl, key _ _ _ _ rfl, refuses symbol, refuses click,
    refuses drag, refuses refine_, ?_, ?_, ?_, ?_, refuses scroll, refuses nudge, refuses page,
    refuses jump, ?_, refuses switchTo, ?_, ?_, ?_, refuses close, refuses switch, ?_, ?_, ?_, ?_,
    refuses hide, refuses reference, ?_, .inl rfl, fun d hd => absurd hd List.not_mem_nil⟩
  all_goals refine refuses ?_
  · unfold deleteWord
    exact plainly_eq_false plain (isOneOf_eq_false written rfl)
  · unfold deleteLine
    exact plainly_eq_false plain (isOneOf_eq_false written rfl)
  · unfold clipboard
    exact plainly_eq_false plain (isOneOf_eq_false written rfl)
  · exact fixedClick_refuses written plain rfl _ _ _ _ _ _
  · exact fixedClick_refuses written plain rfl _ _ _ _ _ _
  · exact fixedClick_refuses written plain rfl _ _ _ _ _ _
  · exact fixedClick_refuses written plain rfl _ _ _ _ _ _
  · unfold arrowKey
    exact plainly_eq_false plain (isOneOf_eq_false written rfl)
  · unfold moveWindow
    exact plainly_eq_false plain (any_mentions_eq_false written rfl)
  · unfold minimize
    exact plainly_eq_false plain (any_mentions_eq_false written rfl)
  · unfold maximize
    exact plainly_eq_false plain (any_mentions_eq_false written rfl)
  · exact showOverlay_refuses written plain rfl _ _ _ _ _
  · exact showOverlay_refuses written plain rfl _ _ _ _ _
  · exact showOverlay_refuses written plain rfl _ _ _ _ _
  · exact showOverlay_refuses written plain rfl _ _ _ _ _
  · unfold screenshot
    exact plainly_eq_false plain (isOneOf_eq_false written rfl)

theorem numbers_refine (lx : Lexicon) (k : Numeral) :
    lx.numbers (refine k).spoken = [(k.value : Number)] := by
  rw [spoken_refine]
  exact k.numbers_append lx rfl

theorem numbers_point (lx : Lexicon) (k : Numeral) :
    lx.numbers (point k).spoken = [(k.value : Number)] := by
  rw [spoken_point, ← List.nil_append k.digits]
  exact k.numbers_append lx rfl

theorem numbers_click (lx : Lexicon) (k : Numeral) :
    lx.numbers (click k).spoken = [(k.value : Number)] := by
  rw [spoken_click]
  exact k.numbers_append lx rfl

/-- A drag is read as its two numbers. -/
theorem dragTargets?_text (lx : Lexicon) (a b : Numeral) :
    dragTargets? lx (drag a b).text = some ((a.value : Number), (b.value : Number)) := by
  have split : splitAt? " to ".toList (drag a b).spoken = some (a.digits, b.digits) := by
    rw [spoken_drag]
    exact a.splitAt?_of_digits "to ".toList b.digits
  have separator : dragSeparator? (drag a b).spoken = some " to ".toList := by
    have found : mentions " to " (drag a b).spoken = true := by
      rw [mentions, occursIn, split]
      rfl
    rw [dragSeparator?, dragSeparators, List.find?_cons, found]
  rw [dragTargets?, text, String.toList_ofList, trim_lower_spoken]
  dsimp only
  rw [separator]
  show (splitAt? " to ".toList (drag a b).spoken).bind _ = _
  rw [split]
  show (dragSide? lx a.digits).bind _ = _
  rw [a.dragSide?_digits]
  show (dragSide? lx b.digits).bind _ = _
  rw [b.dragSide?_digits]
  rfl

theorem accepts_command (w : GridWord) : (w.command o).accepts w.text = .ok true := by
  have plain := w.plain_spoken
  have written := fun c hc => w.alphabet_of_mem (c := c) hc
  cases w with
  | grid => rfl
  | hide => rfl
  | refine k =>
      have lead : leads "refine" (refine k).spoken = true := by
        rw [spoken_refine]
        rfl
      have number := k.hasNumber_append o.lexicon "refine ".toList
      rw [← spoken_refine] at number
      unfold command refineGrid
      dsimp only
      rw [plainly, text, String.toList_ofList, plain, lead, number]
      rfl
  | point k =>
      have other : (commandLeads.any fun v => leads v (point k).spoken) = false := by
        refine List.any_eq_false.2 fun v hv => ?_
        have foreign : commandLeads.all (isForeign (point k).alphabet) = true := rfl
        rw [leads_eq_false written (List.all_eq_true.1 foreign v hv)]
        exact Bool.false_ne_true
      have number := k.hasNumber_append o.lexicon []
      rw [List.nil_append, ← spoken_point] at number
      unfold command moveToNumber
      dsimp only
      rw [plainly, text, String.toList_ofList, plain, other, number]
      rfl
  | click k =>
      have lead : leads "click" (click k).spoken = true := by
        rw [spoken_click]
        rfl
      have number := k.hasNumber_append o.lexicon "click ".toList
      rw [← spoken_click] at number
      unfold command clickNumber
      dsimp only
      rw [plainly, text, String.toList_ofList, plain, lead, number]
      rfl
  | drag a b =>
      unfold command dragBetweenNumbers
      dsimp only
      rw [dragTargets?_text]
      rfl

/-- The command that an utterance is for is one of the built-in ones. -/
theorem command_mem_builtins (w : GridWord) : w.command o ∈ builtins o := by
  have place (i : Nat) (d : Command) (here : (builtins o)[i]? = some d) : d ∈ builtins o :=
    List.mem_of_getElem? here
  cases w with
  | grid => exact place 32 _ rfl
  | hide => exact place 36 _ rfl
  | refine k => exact place 16 _ rfl
  | point k => exact place 39 _ rfl
  | click k => exact place 14 _ rfl
  | drag a b => exact place 15 _ rfl

/-- Every utterance about the grid goes to its own command. -/
theorem findMatching_builtins (bundled : o.symbols = Symbols.bundled) (w : GridWord) :
    ((Registry.mk []).registerAll (builtins o)).findMatching w.text = (some (w.command o), []) := by
  have yields : ∀ d ∈ builtins o, Yields o w d := by
    cases w with
    | grid => exact yields_grid
    | hide => exact yields_hide
    | refine k => exact yields_refine k
    | point k => exact yields_point bundled k
    | click k => exact yields_click k
    | drag a b => exact yields_drag a b
  refine Registry.findMatching_of_highest ranked_of_mem_builtins w.command_mem_builtins ?_
    (accepts_command w) yields
  cases w <;> rfl

end Recognition

end GridWord

end VoiceControl
