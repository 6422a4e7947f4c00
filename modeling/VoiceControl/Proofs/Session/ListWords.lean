import VoiceControl.Proofs.Session.GridWords

/-!
# Utterances about windows and elements

The utterances that put up the list of windows and the numbered elements, and the one that switches
to a numbered window, with the built-in commands that they are for. The number to switch to is the
last one said; it is the only one here.
-/

namespace VoiceControl

open VoiceControl.Text VoiceControl.Command

/-- An utterance about windows or elements. -/
inductive ListWord where
  | windows
  | numbers
  | switch (k : Numeral)

namespace ListWord

/-- The words of an utterance. -/
def words : ListWord → List (List Char)
  | .windows => ["windows".toList]
  | .numbers => ["numbers".toList]
  | .switch k => ["switch".toList, k.digits]

/-- The characters that an utterance may be written in. -/
def letters : ListWord → List Char
  | .windows => "windows".toList
  | .numbers => "numbers".toList
  | .switch _ => GridWord.digits ++ "switch ".toList

theorem spoken_switch (k : Numeral) :
    unwords (switch k).words = "switch ".toList ++ k.digits := by
  rw [words, unwords_cons_cons, unwords_singleton]
  rfl

theorem plainWord_of_mem {w : ListWord} {v : List Char} (h : v ∈ w.words) : PlainWord v := by
  have plain : PlainWord "windows".toList ∧ PlainWord "numbers".toList ∧
      PlainWord "switch".toList := by
    refine ⟨?_, ?_, ?_⟩ <;> exact ⟨by decide, List.all_eq_true.1 rfl⟩
  obtain ⟨windows, numbers, switch⟩ := plain
  cases w <;> simp only [words, List.mem_cons, List.not_mem_nil, or_false] at h
  case windows => exact h ▸ windows
  case numbers => exact h ▸ numbers
  case switch k => exact h.elim (· ▸ switch) (· ▸ k.plainWord)

theorem mem_letters {w : ListWord} {c : Char} (h : c ∈ unwords w.words) : c ∈ w.letters := by
  cases w with
  | windows | numbers =>
      rw [words, unwords_singleton] at h
      exact h
  | switch k =>
      rw [spoken_switch] at h
      rcases List.mem_append.1 h with lead | digit
      · exact List.mem_append_right _ lead
      · exact List.mem_append_left _ (GridWord.mem_digits (k.all_digit c digit))

/-- An utterance about windows or elements is one of plain words. -/
def saying (w : ListWord) : Saying where
  words := w.words
  letters := w.letters
  plain _ h := plainWord_of_mem h
  ne_nil := by cases w <;> exact List.cons_ne_nil _ _
  written _ h := mem_letters h

/-- An utterance as text. -/
abbrev text (w : ListWord) : String := w.saying.text

/-- None of the utterances has anything that the usual settings look for. -/
theorem isUsual_saying (w : ListWord) : w.saying.isUsual = true := by
  cases w <;> rfl

/-- The built-in command that an utterance is for. -/
def command (o : BuiltinOptions) : ListWord → Command
  | .windows => showWindows 34
  | .numbers => showElements 33
  | .switch _ => switchToWindowNumber 26 o.lexicon

/-! ## Recognition -/

section Recognition

variable {o : BuiltinOptions}

/-- A command is the one that an utterance is for, does not accept it or stands behind that one. -/
def Yields (o : BuiltinOptions) (w : ListWord) (d : Command) : Prop :=
  d = w.command o ∨ d.accepts w.text = .ok false ∨ d.priority.lt (w.command o).priority = true

/-- The two fixed utterances are told apart from all phrases by evaluation. -/
theorem yields_of_fixed {w : ListWord} (fixed : ∀ k, w ≠ switch k) :
    ∀ d ∈ builtins o, Yields o w d := by
  unfold builtins numbered
  simp only [List.zipIdx_cons, List.zipIdx_nil, List.map_cons, List.map_nil, List.forall_mem_cons]
  cases w with
  | switch k => exact absurd rfl (fixed k)
  | windows | numbers =>
      and_intros
      all_goals
        first | exact .inl rfl | exact .inr (.inr rfl) | exact .inr (.inl rfl) | exact nofun

/-- No other command of the highest priority is written like a switch to a number. -/
theorem yields_switch (k : Numeral) : ∀ d ∈ builtins o, Yields o (switch k) d := by
  have written := fun c hc => (switch k).saying.alphabet_of_mem (c := c) hc
  have plain := (switch k).saying.plain_spoken
  refine GridWord.forall_mem_builtins_of_high (fun d below => .inr (.inr below)) ?_ ?_ ?_ ?_ ?_ ?_
    (.inl rfl)
  all_goals refine .inr (.inl ?_)
  · exact typeText_refuses written plain rfl _ _
  · unfold deleteWord
    exact plainly_eq_false plain (isOneOf_eq_false written rfl)
  · unfold deleteLine
    exact plainly_eq_false plain (isOneOf_eq_false written rfl)
  · exact (switch k).saying.clickNumber_refuses rfl 14 o.lexicon
  · exact (switch k).saying.drag_refuses rfl rfl 15 o.lexicon
  · exact (switch k).saying.refineGrid_refuses rfl 16 o.lexicon

/-- The number to switch to is the one that was said. -/
theorem switchTarget?_switch (lx : Lexicon) (k : Numeral) :
    switchTarget? lx (Utterance.plain (switch k).text.toList) = some (k.value : Number) := by
  have lead : after? "switch".toList ("switch ".toList ++ k.digits) = some (' ' :: k.digits) :=
    after?_eq_some_iff.2 rfl
  have number := k.numbers_append lx (s := []) rfl
  rw [List.nil_append] at number
  have plain : Utterance.plain (switch k).text.toList = "switch ".toList ++ k.digits := by
    rw [text, Saying.toList_text, Saying.plain_spoken]
    exact spoken_switch k
  rw [switchTarget?, plain, lead]
  dsimp only
  rw [List.dropWhile_cons_of_pos (by decide), k.dropWhile_isBlank_digits, number]
  rfl

theorem accepts_command (w : ListWord) : (w.command o).accepts w.text = .ok true := by
  cases w with
  | windows => rfl
  | numbers => rfl
  | switch k =>
      have lead : leads "switch" (Utterance.plain (switch k).text.toList) = true := by
        rw [text, Saying.toList_text, Saying.plain_spoken]
        show leads "switch" (unwords (switch k).words) = true
        rw [spoken_switch]
        rfl
      unfold command switchToWindowNumber
      dsimp only
      rw [plainly, lead, switchTarget?_switch]
      rfl

/-- The command that an utterance is for is one of the built-in ones. -/
theorem command_mem_builtins (w : ListWord) : w.command o ∈ builtins o := by
  have place (i : Nat) (d : Command) (here : (builtins o)[i]? = some d) : d ∈ builtins o :=
    List.mem_of_getElem? here
  cases w with
  | windows => exact place 34 _ rfl
  | numbers => exact place 33 _ rfl
  | switch k => exact place 26 _ rfl

/-- Every utterance about windows or elements goes to its own command. -/
theorem findMatching_builtins (w : ListWord) :
    ((Registry.mk []).registerAll (builtins o)).findMatching w.text = (some (w.command o), []) := by
  have yields : ∀ d ∈ builtins o, Yields o w d := by
    cases w with
    | windows | numbers => exact yields_of_fixed nofun
    | switch k => exact yields_switch k
  refine Registry.findMatching_of_highest GridWord.ranked_of_mem_builtins w.command_mem_builtins ?_
    (accepts_command w) yields
  cases w <;> rfl

end Recognition

end ListWord

end VoiceControl
