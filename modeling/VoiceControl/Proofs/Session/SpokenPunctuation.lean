import VoiceControl.Proofs.Command.AttachedMarks
import VoiceControl.Proofs.Session.CommandWords
import VoiceControl.Proofs.Session.GridTurns
import VoiceControl.Proofs.Text.SpokenMarks

/-!
# Spoken punctuation in a session

Under the usual settings some words are words for marks, and an utterance gets its marks before it
goes to the commands. These leave marks out, so of the words for marks nothing is left: a command
with a spoken mark behind it is still the command, and a symbol whose name is that of a mark cannot
be asked for.

* `process_unwords_letters`: what an utterance of letters becomes.
* `process_symbol`: what the name of a symbol becomes.
* `SessionSetup.spoken_marks_go_unheard`: what commands get of an utterance.
-/

namespace VoiceControl

open VoiceControl.Text VoiceControl.Command

/-! ## The usual marks -/

/-- The spoken marks of the usual settings, the longest phrase first. -/
def usualMarks : List SpokenMark := [
  ⟨["exclamation".toList, "point".toList], ['!']⟩, ⟨["question".toList, "mark".toList], ['?']⟩,
  ⟨["new".toList, "paragraph".toList], ['\n', '\n']⟩, ⟨["new".toList, "line".toList], ['\n']⟩,
  ⟨["period".toList], ['.']⟩, ⟨["comma".toList], [',']⟩]

theorem punctuation_usual : usualPhrasebook.punctuation = [("period", "."), ("comma", ","),
    ("question mark", "?"), ("exclamation point", "!"), ("new line", "\n"),
    ("new paragraph", "\n\n")] := by
  decide

theorem markWords_usual : usualPhrasebook.markWords = phrases usualMarks := by
  rw [Phrasebook.markWords, punctuation_usual]
  simp [Entries.keys, List.mergeSort, unitCount, units, unitsOf, phrases, usualMarks, unwords]

theorem pronounceable_usual : Pronounceable usualMarks := by
  show ∀ m ∈ usualMarks, m.words ≠ [] ∧ ∀ v ∈ m.words, Lettered v
  decide

/-- The characters of the words for marks. -/
def smallLetters : List Char := "abcdefghijklmnopqrstuvwxyz ".toList

/-- A character of a text of words that is the same as a small letter up to case becomes this letter
in lower case. -/
theorem lowerChar_of_caseKey {a c : Char} (small : a ∈ smallLetters)
    (hc : isWordChar c = true ∨ c = ' ') (same : caseKey c = caseKey a) : lowerChar c = [a] := by
  have all : (smallLetters.all fun b => caseKey c = caseKey b → lowerChar c = [b]) = true := by
    rcases hc with letter | rfl
    · exact of_isWordChar (P := fun c =>
        (smallLetters.all fun b => caseKey c = caseKey b → lowerChar c = [b]) = true)
        (by decide +kernel) letter
    · decide
  exact List.all_iff_forall_prop.1 all a small same

theorem lower_of_map_caseKey {s p : List Char} (small : ∀ a ∈ p, a ∈ smallLetters)
    (letters : ∀ c ∈ s, isWordChar c = true ∨ c = ' ') (same : s.map caseKey = p.map caseKey) :
    lower s = p := by
  have noSigma : ∀ c ∈ s, c ≠ '\u03A3' := by
    intro c hc
    rcases letters c hc with letter | rfl
    · exact ne_sigma_of_isWordChar letter
    · decide
  rw [lower, lowerFrom_of_no_sigma noSigma]
  clear noSigma
  induction s generalizing p with
  | nil => simpa using same.symm
  | cons c s ih =>
      cases p with
      | nil => simp at same
      | cons a p =>
          rw [List.map_cons, List.map_cons, List.cons.injEq] at same
          have first := lowerChar_of_caseKey (small a List.mem_cons_self)
            (letters c List.mem_cons_self) same.1
          rw [List.flatMap_cons, first, ih (fun b hb => small b (List.mem_cons_of_mem a hb))
            (fun d hd => letters d (List.mem_cons_of_mem c hd)) same.2]
          rfl

theorem speaks_usual : Speaks usualMarks usualPhrasebook.mark := by
  intro m hm said lettered whole
  have found := afterCaseless?_of_afterWords? (pronounceable_usual m hm).1 whole
  have all : unwords (said.take m.words.length) = unwords said := by
    simpa [spaced] using (eq_append_of_afterCaseless? found).symm
  have keys := map_caseKey_of_afterCaseless? found
  rw [all] at keys
  have small : (usualMarks.all fun n => (unwords n.words).all smallLetters.contains) = true := by
    decide
  have case := lower_of_map_caseKey
    (fun a ha => List.contains_iff_mem.1 (List.all_eq_true.1 (List.all_eq_true.1 small m hm) a ha))
    (fun c hc => isWordChar_or_space lettered hc) keys
  have listed : ∀ n ∈ usualMarks,
      (Entries.get? (String.ofList (unwords n.words)) [("period", "."), ("comma", ","),
        ("question mark", "?"), ("exclamation point", "!"), ("new line", "\n"),
        ("new paragraph", "\n\n")]) = some (String.ofList n.mark) := by decide
  rw [Phrasebook.mark, case, punctuation_usual, listed m hm]
  exact String.toList_ofList

/-! ## What becomes of an utterance -/

/-- An utterance that is no command word gets its marks and is spaced. -/
theorem process_usual {text : String} (said : text ≠ "")
    (word : ∀ w, usualPhrasebook.process text ≠ .commandWord w) :
    usualPhrasebook.process text = .text (String.ofList
      (Spacing.tidy (Phrase.replace (phrases usualMarks) usualPhrasebook.mark text.toList))) := by
  have listed : usualPhrasebook.punctuation ≠ [] := by
    rw [punctuation_usual]
    exact List.cons_ne_nil _ _
  rw [Phrasebook.process_of_plain rfl listed rfl said word, markWords_usual]

/-- An utterance that is no command word is left as it is if its words are between single spaces, no
word starts with a closing mark and no spoken mark is found in it. -/
theorem process_of_unfound {text : String} (said : text ≠ "")
    (word : ∀ w, usualPhrasebook.process text ≠ .commandWord w)
    (even : squeeze text.toList = text.toList)
    (open_ : ∀ w ∈ words text.toList, opensClosed w = false)
    (unfound : ∀ a b, text.toList = a ++ b →
      Phrase.first? (phrases usualMarks) a.getLast? b = none) :
    usualPhrasebook.process text = .text text := by
  have spaced : Spacing.tidy text.toList = text.toList := by
    calc Spacing.tidy text.toList
        = Spacing.tidy (unwords (words text.toList)) := congrArg Spacing.tidy even.symm
      _ = glue (words text.toList) := tidy_unwords_eq_glue fun _ hw => unbroken_of_mem_words hw
      _ = unwords (words text.toList) := glue_eq_unwords open_
      _ = text.toList := even
  rw [process_usual said word, replace_of_unfound unfound, spaced, String.ofList_toList]

/-- An utterance of letters that is no command word is read for spoken marks. -/
theorem process_unwords_letters {ws : List (List Char)} (some_ : ws ≠ [])
    (lettered : ∀ w ∈ ws, Lettered w)
    (word : ∀ w, usualPhrasebook.process (String.ofList (unwords ws)) ≠ .commandWord w) :
    usualPhrasebook.process (String.ofList (unwords ws)) =
      .text (String.ofList (Spacing.tidy (unwords ((pieces usualMarks 0 ws).map Piece.text)))) := by
  have said : String.ofList (unwords ws) ≠ "" := by
    obtain ⟨w, tail, rfl⟩ := List.exists_cons_of_ne_nil some_
    obtain ⟨c, r, rfl⟩ := List.exists_cons_of_ne_nil (lettered w List.mem_cons_self).ne
    rw [unwords_cons]
    simp
  rw [process_usual said word, String.toList_ofList, Phrase.replace,
    replaceFrom_unwords pronounceable_usual speaks_usual lettered rfl]

/-- An utterance of letters in which no line break is spoken stays in a line. -/
theorem inLine_of_mem_pieces {ws : List (List Char)} (lettered : ∀ w ∈ ws, Lettered w) {p : Piece}
    (h : p ∈ pieces usualMarks 0 ws) (noBreak : '\n' ∉ p.text) : p.InLine := by
  rcases mem_pieces h with ⟨w, hw, rfl⟩ | ⟨m, hm, rfl⟩
  · exact .word (lettered w hw)
  · have mark : m.mark ∈ [['!'], ['?'], ['\n', '\n'], ['\n'], ['.'], [',']] :=
      List.mem_map_of_mem (f := SpokenMark.mark) hm
    have closing : ∀ s ∈ [['!'], ['?'], ['\n', '\n'], ['\n'], ['.'], [',']], '\n' ∉ s →
        s = [s.headD ' '] ∧ Spacing.isClosingMark (s.headD ' ') = true := by decide
    obtain ⟨one, closes⟩ := closing m.mark mark noBreak
    exact .mark one closes

/-! ## Words with marks -/

/-- What is written of words, some of which may be spoken marks. -/
def withMarks (ws : List (List Char)) : String :=
  String.ofList (glue ((pieces usualMarks 0 ws).map Piece.text))

/-- What remains of words when the spoken marks are left out. -/
def withoutMarks (ws : List (List Char)) : String :=
  String.ofList (unwords (unspoken (pieces usualMarks 0 ws)))

section Letters

variable {ws : List (List Char)}

/-- An utterance of letters that is no command word is written with its marks. -/
theorem process_letters (some_ : ws ≠ []) (lettered : ∀ w ∈ ws, Lettered w)
    (word : ∀ w, usualPhrasebook.process (String.ofList (unwords ws)) ≠ .commandWord w)
    (inLine : ∀ p ∈ pieces usualMarks 0 ws, '\n' ∉ p.text) :
    usualPhrasebook.process (String.ofList (unwords ws)) = .text (withMarks ws) := by
  have unbroken : ∀ t ∈ (pieces usualMarks 0 ws).map Piece.text, Unbroken t := by
    intro t ht
    obtain ⟨p, hp, rfl⟩ := List.mem_map.1 ht
    exact (inLine_of_mem_pieces lettered hp (inLine p hp)).text_word
  rw [process_unwords_letters some_ lettered word, tidy_unwords_eq_glue unbroken, withMarks]

/-- Commands see the words with marks and the words without them alike. -/
theorem plain_withMarks (lettered : ∀ w ∈ ws, Lettered w)
    (inLine : ∀ p ∈ pieces usualMarks 0 ws, '\n' ∉ p.text) :
    Utterance.plain (withMarks ws).toList = Utterance.plain (withoutMarks ws).toList := by
  rw [withMarks, withoutMarks, String.toList_ofList, String.toList_ofList]
  exact plain_glue fun p hp => inLine_of_mem_pieces lettered hp (inLine p hp)

/-- Words of letters are written as they are if no mark is spoken. -/
theorem withMarks_of_unspoken (lettered : ∀ w ∈ ws, Lettered w)
    (none_ : (pieces usualMarks 0 ws).map Piece.text = ws) :
    withMarks ws = String.ofList (unwords ws) := by
  have open_ : ∀ w ∈ ws, opensClosed w = false := by
    intro w hw
    exact (Piece.InLine.word (lettered w hw)).opensClosed_text
  rw [withMarks, none_, glue_eq_unwords open_]

end Letters

/-! ## Symbol names -/

/-- Nothing, or the word that asks for typing. -/
def symbolLeads : List (List (List Char)) := [[], ["type".toList]]

/-- What is said for a symbol is plain words and no command word. -/
theorem symbol_words : ∀ n ∈ Symbols.bundled.keys,
    words n.toList ≠ [] ∧ unwords (words n.toList) = n.toList ∧ ∀ lead ∈ symbolLeads,
      (∀ w ∈ lead ++ words n.toList, PlainWord w) ∧
        ∀ key ∈ usualPhrasebook.commandWords.keys,
          unwords (lead ++ words n.toList) ≠ key.toList := by
  decide +kernel

/-- Two symbols have the name of a spoken mark; in the other names no mark is spoken. -/
theorem symbol_marks : ∀ n ∈ Symbols.bundled.keys, ∀ lead ∈ symbolLeads,
    if n = "comma" ∨ n = "period" then
      (∀ p ∈ pieces usualMarks 0 (lead ++ words n.toList), '\n' ∉ p.text) ∧
        unspoken (pieces usualMarks 0 (lead ++ words n.toList)) = lead
    else
      (pieces usualMarks 0 (lead ++ words n.toList)).map Piece.text = lead ++ words n.toList := by
  decide +kernel

section SymbolNames

variable {n : String} {lead : List (List Char)}

/-- A symbol is asked for by its name, or by its name after the word for typing. -/
theorem exists_lead_of_symbol {text : String} (known : n ∈ Symbols.bundled.keys)
    (said : text ∈ [n, "type " ++ n]) :
    ∃ lead ∈ symbolLeads, text = String.ofList (unwords (lead ++ words n.toList)) := by
  obtain ⟨some_, name, -⟩ := symbol_words n known
  rcases List.mem_cons.1 said with rfl | said
  · exact ⟨[], by decide, by rw [List.nil_append, name, String.ofList_toList]⟩
  · obtain rfl := List.mem_singleton.1 said
    refine ⟨["type".toList], by decide, ?_⟩
    obtain ⟨w, ws, split⟩ := List.exists_cons_of_ne_nil some_
    rw [List.singleton_append, split, unwords_cons_cons, ← split, name]
    apply String.toList_inj.1
    simp

theorem plainWord_of_symbol (known : n ∈ Symbols.bundled.keys) (led : lead ∈ symbolLeads) :
    ∀ w ∈ lead ++ words n.toList, PlainWord w :=
  ((symbol_words n known).2.2 lead led).1

theorem append_words_ne_nil_of_symbol (known : n ∈ Symbols.bundled.keys)
    (lead : List (List Char)) : lead ++ words n.toList ≠ [] :=
  List.append_ne_nil_of_right_ne_nil lead (symbol_words n known).1

/-- What is said for a symbol is no command word. -/
theorem process_symbol_ne (known : n ∈ Symbols.bundled.keys) (led : lead ∈ symbolLeads)
    (w : CommandWord) :
    usualPhrasebook.process (String.ofList (unwords (lead ++ words n.toList))) ≠
      .commandWord w := by
  obtain ⟨plain, other⟩ := (symbol_words n known).2.2 lead led
  intro found
  have listed := (Phrasebook.process_eq_commandWord_iff.1 found).2
  rw [Phrasebook.wordKey_unwords plain (append_words_ne_nil_of_symbol known lead)] at listed
  exact other _ (Entries.mem_keys_of_get? listed) String.toList_ofList.symm

/-- A symbol whose name is that of a spoken mark is not asked for by the name, since commands get
the mark. All the other names are left as they are. -/
theorem process_symbol {text : String} (known : n ∈ Symbols.bundled.keys)
    (said : text ∈ [n, "type " ++ n]) :
    ∃ heard, usualPhrasebook.process text = .text heard ∧
      if n = "comma" ∨ n = "period" then Utterance.plainText heard ∈ ["", "type"]
      else heard = text := by
  obtain ⟨lead, led, rfl⟩ := exists_lead_of_symbol known said
  have lettered : ∀ w ∈ lead ++ words n.toList, Lettered w :=
    fun w hw => (plainWord_of_symbol known led w hw).lettered
  have some_ := append_words_ne_nil_of_symbol known lead
  have marks := symbol_marks n known lead led
  split at marks
  · rename_i named
    obtain ⟨inLine, rest⟩ := marks
    refine ⟨_, process_letters some_ lettered (process_symbol_ne known led) inLine, ?_⟩
    rw [if_pos named, Utterance.plainText, plain_withMarks lettered inLine, withoutMarks, rest]
    have leads : ∀ lead ∈ symbolLeads,
        String.ofList (Utterance.plain (String.ofList (unwords lead)).toList) ∈ ["", "type"] := by
      decide
    exact leads lead led
  · rename_i named
    have inLine : ∀ p ∈ pieces usualMarks 0 (lead ++ words n.toList), '\n' ∉ p.text := by
      intro p hp mem
      have word : p.text ∈ lead ++ words n.toList := marks ▸ List.mem_map_of_mem hp
      exact absurd ((lettered _ word).letters _ mem) (by decide)
    refine ⟨_, process_letters some_ lettered (process_symbol_ne known led) inLine, ?_⟩
    rw [if_neg named, withMarks_of_unspoken lettered marks]

end SymbolNames

/-! ## Dispatch -/

namespace Command

variable {o : BuiltinOptions}

theorem accepts_eq_false_of_no_name (symbols : o.symbols = Symbols.bundled) :
    ∀ t ∈ ["", "type"], ∀ c ∈ builtins o, c.accepts t = .ok false := by
  unfold builtins numbered
  simp only [List.zipIdx_cons, List.zipIdx_nil, List.map_cons, List.map_nil, List.forall_mem_cons,
    symbols]
  and_intros
  all_goals first | rfl | exact List.forall_mem_nil _

/-- The word for typing is no command without something to type, whatever marks it has. -/
theorem builtinFor_eq_none_of_no_name (symbols : o.symbols = Symbols.bundled) {text : String}
    (plain : Utterance.plainText text ∈ ["", "type"]) (enabledOnly : Bool) :
    builtinFor o text enabledOnly = none := by
  have separators : ∀ t ∈ ["", "type"], dragSeparator? (Utterance.plain t.toList) = none := by
    decide
  rw [builtinFor_eq_of_no_separator (Utterance.plain_plainText text).symm
    (separators _ plain)]
  exact builtinFor_eq_none (accepts_eq_false_of_no_name symbols _ plain) enabledOnly

end Command

namespace SessionSetup

variable {u : SessionSetup}

/-- Without commands of the user's own, an utterance goes to the built-in commands. -/
theorem findMatching_start (own : u.settings.custom.enabled = false) (text : String)
    (enabledOnly : Bool) :
    (u.start.registry.findMatching text enabledOnly).1 =
      builtinFor u.builtinOptions text enabledOnly := by
  have none_ : (Command.customs (u.builtins u.lexicon.1).length u.settings.custom
      (some u.lexicon.1)).1 = [] := by
    rw [Command.customs, Command.definitions, own]
    rfl
  have registry : u.start.registry = (Registry.mk []).registerAll
      ((Command.customs (u.builtins u.lexicon.1).length u.settings.custom
        (some u.lexicon.1)).1 ++ u.builtins u.lexicon.1) := rfl
  rw [registry, none_]
  rfl

/-- What becomes of an utterance that is no command word under the usual settings. An evenly spaced
one in which no mark is spoken stays as it is. One of letters in which no line break is spoken gets
its marks, and commands take it as they take the words that are left without the marks, unless a
mark hides the separator of a drag. So a symbol name that is the name of a mark reaches no command;
the others stay as they are. -/
theorem spoken_marks_go_unheard (usual : u.settings = {}) (enabledOnly : Bool) :
    let process := u.start.dictation.book.process
    let found := fun text => (u.start.registry.findMatching text enabledOnly).1
    (∀ text, text ≠ "" → (∀ w, process text ≠ .commandWord w) →
      squeeze text.toList = text.toList → (∀ w ∈ words text.toList, opensClosed w = false) →
      (∀ a b, text.toList = a ++ b → Phrase.first? (phrases usualMarks) a.getLast? b = none) →
      process text = .text text) ∧
    (∀ ws ≠ [], (∀ w ∈ ws, Lettered w) →
      (∀ w, process (String.ofList (unwords ws)) ≠ .commandWord w) →
      (∀ p ∈ pieces usualMarks 0 ws, '\n' ∉ p.text) →
      process (String.ofList (unwords ws)) = .text (withMarks ws) ∧
      (found (withMarks ws) = found (withoutMarks ws) ↔
        drags u.lexicon.1 (withMarks ws) = drags u.lexicon.1 (withoutMarks ws) ∨
          ∃ c ∈ beforeDrag u.builtinOptions, c.accepts (withoutMarks ws) = .ok true) ∧
      (dragSeparator? (Utterance.plain (withoutMarks ws).toList) = none →
        found (withMarks ws) = found (withoutMarks ws))) ∧
    ∀ n ∈ Symbols.bundled.keys, ∀ text ∈ [n, "type " ++ n],
      ∃ heard, process text = .text heard ∧
        if n = "comma" ∨ n = "period" then found heard = none else heard = text := by
  have book : u.start.dictation.book = usualPhrasebook := by
    show Phrasebook.ofTree u.settings.tree = _
    rw [usual]
    rfl
  have own : u.settings.custom.enabled = false := by
    rw [usual]
  intro process found
  have dispatch (text : String) : found text = builtinFor u.builtinOptions text enabledOnly :=
    findMatching_start own text enabledOnly
  simp only [process, book, dispatch]
  refine ⟨fun text => process_of_unfound, fun ws some_ lettered word inLine => ?_, ?_⟩
  · have same := plain_withMarks lettered inLine
    exact ⟨process_letters some_ lettered word inLine, builtinFor_eq_iff same enabledOnly,
      fun none_ => builtinFor_eq_of_no_separator same none_ enabledOnly⟩
  · intro n known text said
    obtain ⟨heard, processed, reached⟩ := process_symbol known said
    refine ⟨heard, processed, ?_⟩
    by_cases named : n = "comma" ∨ n = "period"
    · rw [if_pos named] at reached ⊢
      exact builtinFor_eq_none_of_no_name rfl reached enabledOnly
    · rw [if_neg named] at reached ⊢
      exact reached

/-- A question mark after the word for a key is no matter: the key is pressed. -/
theorem spoken_marks_go_unheard_enter :
    let u : SessionSetup := {
      settings := {}, platform := "linux", files := .empty "/work", environment := []
      now := ⟨2024, 6, 7, 8, 9, 10⟩ }
    let found := fun text => (u.start.registry.findMatching text).1
    u.settings = {} ∧ u.start.dictation.book.process "enter question mark" = .text "enter?" ∧
      found "enter?" = found "enter" ∧ (found "enter").map (·.name) = some "EnterCommand" := by
  intro u found
  let ws := ["enter".toList, "question".toList, "mark".toList]
  have lettered : ∀ w ∈ ws, Lettered w := by decide
  have word : ∀ w, u.start.dictation.book.process "enter question mark" ≠ .commandWord w := by
    intro w same
    have none_ : Entries.get? (Phrasebook.wordKey "enter question mark")
        u.start.dictation.book.commandWords = none := by decide
    rw [(Phrasebook.process_eq_commandWord_iff.1 same).2] at none_
    cases none_
  have inLine : ∀ p ∈ pieces usualMarks 0 ws, '\n' ∉ p.text := by decide
  have none_ : dragSeparator? (Utterance.plain (withoutMarks ws).toList) = none := by
    decide
  obtain ⟨processed, -, alike⟩ :=
    (spoken_marks_go_unheard (u := u) rfl true).2.1 ws (List.cons_ne_nil _ _) lettered word inLine
  exact ⟨rfl, processed, alike none_, by decide +kernel⟩

/-- The name of the comma is for the symbols, but the comma that is heard for it is for no
command. -/
theorem comma_unheard :
    let u : SessionSetup := {
      settings := {}, platform := "linux", files := .empty "/work", environment := []
      now := ⟨2024, 6, 7, 8, 9, 10⟩ }
    let found := fun text => (u.start.registry.findMatching text).1
    u.start.lexicon.significant "comma".toList = "comma".toList ∧
      u.start.dictation.book.process "comma" = .text "," ∧
      (found "comma").map (·.name) = some "TypeSymbolCommand" ∧ found "," = none := by
  intro u found
  have known : "comma" ∈ Symbols.bundled.keys := by decide
  have led : [] ∈ symbolLeads := by decide
  have processed : usualPhrasebook.process "comma" = .text (withMarks ["comma".toList]) :=
    process_letters (List.cons_ne_nil _ _)
      (fun w hw => (plainWord_of_symbol known led w hw).lettered)
      (process_symbol_ne known led) (by decide)
  have dispatch : found "," = builtinFor u.builtinOptions "," true :=
    findMatching_start rfl "," true
  refine ⟨by decide +kernel, processed, by decide +kernel, ?_⟩
  rw [dispatch]
  exact builtinFor_eq_none_of_no_name rfl (by decide +kernel) true

end SessionSetup

end VoiceControl
