import VoiceControl.Proofs.Data.Listing
import VoiceControl.Proofs.Session.Politeness
import VoiceControl.Proofs.Text.TrailingMarks

/-!
# Marks after a command word

A whole utterance may be a command word. It is compared with the configured phrases after its words
that mean nothing were dropped, but with the marks that are attached to its end. So a command word
with marks attached is one no more, unless the marks are attached to a word that means nothing and
go with it, or the phrase is configured with the marks.

* `Lexicon.significant_append`: what remains of an utterance with marks attached.
* `SessionSetup.Reaches.book`: the phrases of a session are those of its configuration.
* `SessionSetup.marked_command_word_iff`: when a command word with marks attached is still one.
-/

namespace VoiceControl

open VoiceControl.Text

/-! ## Configured phrases -/

namespace Phrasebook

theorem wordEntries_label (es : Entries CommandWord) :
    wordEntries (es.map fun (k, w) => (k, .text w.label)) = es := by
  rw [wordEntries, List.filterMap_map]
  simp

theorem commandWords_ofTree (s : Settings) :
    (ofTree s.tree).commandWords =
      Entries.ofPairs (s.text.commandWords.map fun (p, w) => (wordKey p, w)) := by
  show Entries.ofPairs ((wordEntries (s.text.commandWords.map fun (k, w) =>
    (k, .text w.label))).map fun (p, w) => (wordKey p, w)) = _
  rw [wordEntries_label]

theorem process_eq_commandWord_iff {b : Phrasebook} {text : String} {w : CommandWord} :
    b.process text = .commandWord w ↔
      text ≠ "" ∧ Entries.get? (wordKey text) b.commandWords = some w := by
  rw [process]
  by_cases blank : text = ""
  · simp [blank]
  · rw [if_neg blank]
    cases Entries.get? (wordKey text) b.commandWords <;> simp [blank]

/-- Spoken punctuation with its spacing is all that is done to a text without a vocabulary. -/
theorem process_of_plain {b : Phrasebook} (on : b.punctuationEnabled = true)
    (listed : b.punctuation ≠ []) (plain : b.vocabulary = []) {text : String} (said : text ≠ "")
    (word : ∀ w, b.process text ≠ .commandWord w) :
    b.process text =
      .text (String.ofList (Spacing.tidy (Phrase.replace b.markWords b.mark text.toList))) := by
  have none_ : Entries.get? (wordKey text) b.commandWords = none :=
    Option.eq_none_iff_forall_ne_some.2 fun w found =>
      word w (process_eq_commandWord_iff.2 ⟨said, found⟩)
  have full : b.punctuation.isEmpty = false := by simpa using listed
  rw [process, if_neg said, none_]
  dsimp only
  rw [if_pos on, applyVocabulary, plain, punctuate, full, if_neg Bool.false_ne_true]
  rfl

/-- A phrase that ends in a mark is compared with the mark. -/
theorem getLast?_wordKey {c : Char} (mark : Lexicon.isEdgeMark c = true) (t : List Char) :
    (wordKey (String.ofList (t ++ [c]))).toList.getLast? = some c := by
  obtain ⟨a, lowered⟩ := exists_lower_concat t (Lexicon.isLowered_of_isEdgeMark mark)
  rw [wordKey, trimText, lowerText, String.toList_ofList, String.toList_ofList,
    String.toList_ofList, lowered]
  exact getLast?_trimBy_concat (Lexicon.isBlank_of_isEdgeMark mark) a

end Phrasebook

namespace Session

variable {s s' : Session}

theorem read_eq_commandWord_iff {x : String} {w : CommandWord} :
    s.read x = some (.commandWord w) ↔
      s.lexicon.significant x.toList ≠ [] ∧
        Entries.get? (Phrasebook.wordKey (String.ofList (s.lexicon.significant x.toList)))
          s.dictation.book.commandWords = some w := by
  rw [read]
  by_cases silent : s.lexicon.significant x.toList = []
  · simp [silent]
  · have heard : String.ofList (s.lexicon.significant x.toList) ≠ "" := by simpa using silent
    simp [heard, silent, Phrasebook.process_eq_commandWord_iff]

theorem read_of_outcome {x : String} {w : CommandWord}
    (h : ((processText x).run s).1 = .ok (.commandWord w)) : s.read x = some (.commandWord w) := by
  obtain ⟨tale, came⟩ := came_processText s x
  rw [h] at came
  generalize ((processText x).run s).2 = s' at came
  cases came with
  | word read _ => exact read
  | wordFailed _ _ settled | commandFailed _ _ _ settled | unwritten _ _ _ _ _ settled =>
      cases settled

/-! ## The phrases of a session -/

theorem Came.book {utterance : String} {o : Except Failure Outcome} {tale : List Event}
    (h : s.Came utterance o tale s') : s'.dictation.book = s.dictation.book := by
  cases h with
  | word => split <;> rfl
  | output _ _ _ wrote | typed _ _ _ wrote => cases wrote <;> rfl
  | _ => rfl

theorem Step.book {raises : Bool} {tale : List Event} (h : s.Step raises tale s') :
    s'.dictation.book = s.dictation.book := by
  cases h with
  | aside => rfl
  | spoken _ came => exact came.book

end Session

namespace SessionSetup

variable {u : SessionSetup} {s : Session}

/-- Nothing that happens to a session changes its phrases. -/
theorem Reaches.book (reached : u.Reaches s) :
    s.dictation.book = .ofTree u.settings.tree := by
  induction reached with
  | start => rfl
  | next h _ ih =>
      rename_i s _
      obtain ⟨tale, step⟩ := s.step_next h
      rw [step.book, ih]
  | remember text _ ih => exact ih
  | dispose _ ih => exact ih

/-- What a text that remains of an utterance is as a command word. -/
def wordFor? (u : SessionSetup) (text : List Char) : Option CommandWord :=
  Entries.get? (Phrasebook.wordKey (String.ofList text))
    (Phrasebook.ofTree u.settings.tree).commandWords

/-- No command word is configured with a mark at its end. -/
def PlainWords (u : SessionSetup) : Prop :=
  ∀ phrase ∈ u.settings.text.commandWords.keys, ∀ c,
    (Phrasebook.wordKey phrase).toList.getLast? = some c → Lexicon.isEdgeMark c = false

theorem PlainWords.wordFor?_attach (plain : u.PlainWords) {lx : Lexicon} {x p : List Char}
    (marks : ∀ c ∈ p, Lexicon.isEdgeMark c = true) (some_ : p ≠ []) :
    u.wordFor? (lx.attach x p) = none := by
  obtain ⟨t, c, attached, mark⟩ := lx.exists_attach_eq marks some_ x
  refine Option.eq_none_iff_forall_ne_some.2 fun w found => ?_
  rw [wordFor?, Phrasebook.commandWords_ofTree, attached] at found
  obtain ⟨⟨phrase, v⟩, mem, same⟩ := List.mem_map.1 (Entries.mem_of_get?_ofPairs found)
  have configured : phrase ∈ u.settings.text.commandWords.keys := List.mem_map_of_mem mem
  have last : (Phrasebook.wordKey phrase).toList.getLast? = some c := by
    have key : Phrasebook.wordKey phrase = Phrasebook.wordKey (String.ofList (t ++ [c])) :=
      (Prod.mk.inj same).1
    rw [key, Phrasebook.getLast?_wordKey mark t]
  rw [plain phrase configured c last] at mark
  exact Bool.false_ne_true mark

/-- An utterance that is a command word and has marks attached to its end is the same command word
exactly if the last word means nothing or if the phrase is configured with the marks, and then it
does the same. Unless marks are configured, only the last word counts. -/
theorem marked_command_word_iff (reached : u.Reaches s) {x p : String} {w : CommandWord}
    (marks : p ≠ "" ∧ ∀ c ∈ p.toList, Lexicon.isEdgeMark c = true)
    (heard : ((Session.processText x).run s).1 = .ok (.commandWord w)) :
    let r := (Session.processText x).run s
    let r' := (Session.processText (x ++ p)).run s
    let ignored := s.lexicon.endsIgnored (x ++ p).toList = true
    (r'.1 = .ok (.commandWord w) → r.2.Alike r'.2) ∧
    (r'.1 = .ok (.commandWord w) ↔
      ignored ∨ u.wordFor? (s.lexicon.attach x.toList p.toList) = some w) ∧
    (u.PlainWords → (r'.1 = .ok (.commandWord w) ↔ ignored)) := by
  intro r r' ignored
  have some_ : p.toList ≠ [] := by simpa using marks.1
  have read := Session.read_of_outcome heard
  have twins : s.Twins s := ⟨⟨_, s.workspace.journal.alike_refl, rfl⟩, reached.able⟩
  have same (h : s.read (x ++ p) = some (.commandWord w)) : r'.1 = r.1 ∧ r.2.Twins r'.2 :=
    Session.twins_of_read twins (h.trans read.symm)
  have outcome_iff : r'.1 = .ok (.commandWord w) ↔ s.read (x ++ p) = some (.commandWord w) :=
    ⟨Session.read_of_outcome, fun h => (same h).1.trans heard⟩
  obtain ⟨said, word⟩ := Session.read_eq_commandWord_iff.1 read
  have remains : s.lexicon.significant (x ++ p).toList =
      if s.lexicon.endsIgnored (x ++ p).toList then s.lexicon.significant x.toList
      else s.lexicon.attach x.toList p.toList := by
    rw [String.toList_append]
    exact Lexicon.significant_append marks.2 some_ said
  have full : s.lexicon.attach x.toList p.toList ≠ [] := by
    obtain ⟨t, c, attached, -⟩ := s.lexicon.exists_attach_eq marks.2 some_ x.toList
    simp [attached]
  have iff_ : r'.1 = .ok (.commandWord w) ↔
      ignored ∨ u.wordFor? (s.lexicon.attach x.toList p.toList) = some w := by
    rw [outcome_iff, Session.read_eq_commandWord_iff, remains]
    by_cases last : ignored
    · rw [if_pos last]
      exact ⟨fun _ => .inl last, fun _ => ⟨said, word⟩⟩
    · rw [if_neg last, reached.book]
      exact ⟨fun h => .inr h.2, fun h => ⟨full, h.resolve_left last⟩⟩
  refine ⟨fun h => (same (outcome_iff.1 h)).2.alike, iff_, fun plain => ?_⟩
  rw [iff_, plain.wordFor?_attach marks.2 some_]
  simp

/-- Marks after a polite word are dropped with it, and the two characters that were typed last are
taken back. -/
theorem marked_command_word_iff_please :
    let u : SessionSetup := {
      settings := { text := { punctuationCommands := false } }, platform := "linux"
      files := .empty "/work", environment := [], now := ⟨2024, 6, 7, 8, 9, 10⟩ }
    let s := ((Session.remember "hi").run u.start).2
    let x := "scratch that please"
    let p := "?!"
    let r := (Session.processText x).run s
    let r' := (Session.processText (x ++ p)).run s
    (u.Reaches s ∧ (p ≠ "" ∧ ∀ c ∈ p.toList, Lexicon.isEdgeMark c = true) ∧
      r.1 = .ok (.commandWord .undoLast)) ∧
      r.2.workspace.desktop.actions.length = 4 ∧ r'.1 = .ok (.commandWord .undoLast) ∧
      r.2.Alike r'.2 := by
  intro u s x p r r'
  have reached : u.Reaches s := .remember _ .start
  have marks : p ≠ "" ∧ ∀ c ∈ p.toList, Lexicon.isEdgeMark c = true :=
    ⟨by decide, List.all_eq_true.1 (by decide)⟩
  have heard : r.1 = .ok (.commandWord .undoLast) := Outcome.of_toOption (by decide +kernel)
  have ignored : s.lexicon.endsIgnored (x ++ p).toList = true := by decide +kernel
  obtain ⟨alike, same, -⟩ := marked_command_word_iff reached marks heard
  have outcome : r'.1 = .ok (.commandWord .undoLast) := same.2 (.inl ignored)
  exact ⟨⟨reached, marks, heard⟩, by decide +kernel, outcome, alike outcome⟩

/-- A full stop at the end and what was typed last is not taken back. -/
theorem marked_command_word_lost :
    let u : SessionSetup := {
      settings := { text := { punctuationCommands := false } }, platform := "linux"
      files := .empty "/work", environment := [], now := ⟨2024, 6, 7, 8, 9, 10⟩ }
    let s := ((Session.remember "hi").run u.start).2
    ((Session.processText "scratch that").run s).1 = .ok (.commandWord .undoLast) ∧
      ((Session.processText "scratch that.").run s).1 ≠ .ok (.commandWord .undoLast) := by
  intro u s
  refine ⟨Outcome.of_toOption (by decide +kernel), fun kept => ?_⟩
  have word := (Session.read_eq_commandWord_iff.1 (Session.read_of_outcome kept)).2
  exact absurd word (by decide +kernel)

end SessionSetup

end VoiceControl
