import VoiceControl.Proofs.Session.CommandWords
import VoiceControl.Proofs.Text.PhraseOccurrences
import VoiceControl.Proofs.Text.TidySpacing

/-!
# Spoken punctuation and spacing

A text in which spoken punctuation became marks is spaced as a text should be, whatever the marks
are: they may be words, gaps or line breaks themselves. But for spaces and tabs nothing is lost and
nothing is added, and a text that is tidy and in which no word for a mark stands is not touched.

* `process_tidies`: the text that is handed on.
-/

namespace VoiceControl.Phrasebook

open VoiceControl.Spacing

/-- A table of some pairs has an entry. -/
theorem ofPairs_ne_nil {α : Type} {ps : List (String × α)} (some_ : ps ≠ []) :
    Entries.ofPairs ps ≠ [] := by
  obtain ⟨front, ⟨key, value⟩, rfl⟩ := (List.eq_nil_or_concat' ps).resolve_left some_
  intro none_
  -- the pair that was added last is found
  have found := Entries.get?_put_self key value (Entries.ofPairs front)
  rw [Entries.ofPairs, List.foldl_append] at none_
  rw [show Entries.put key value (Entries.ofPairs front) = [] from none_] at found
  cases found

/-- With spoken punctuation, some words for marks and no vocabulary, a text that is no command word
is handed on in tidy spacing. Its other characters are those of the text with its words for marks
replaced; they are those of the text itself if no such word stands in it, and then a text that was
tidy already is handed on as it is. -/
theorem process_tidies (config : Tree)
    (on : Config.bool? config ["textProcessing", "punctuationCommands"] ≠ some false)
    (listed : textEntries (Config.entriesAt config ["textProcessing", "punctuationMap"]) ≠ [])
    (plain : textEntries (Config.entriesAt config ["textProcessing", "customVocabulary"]) = [])
    (text : String) (word : ∀ w, (ofTree config).process text ≠ .commandWord w) :
    let b := ofTree config
    text = "" ∧ b.process text = .nothing ∨
      ∃ s, b.process text = .text s ∧ IsTidy s.toList ∧
        solid s.toList = solid (Phrase.replace b.markWords b.mark text.toList) ∧
        ((∀ w ∈ b.markWords, ¬ Phrase.Stands w text.toList) →
          solid s.toList = solid text.toList ∧ (IsTidy text.toList → s = text)) := by
  intro b
  by_cases none_ : text = ""
  · subst none_
    exact .inl ⟨rfl, rfl⟩
  have enabled : b.punctuationEnabled = true := by
    show (Config.bool? config ["textProcessing", "punctuationCommands"]).getD true = true
    cases h : Config.bool? config ["textProcessing", "punctuationCommands"] with
    | none => rfl
    | some v =>
        cases v with
        | true => rfl
        | false => exact absurd h on
  have full : b.punctuation ≠ [] := ofPairs_ne_nil (mt List.map_eq_nil_iff.1 listed)
  have processed := process_of_plain enabled full plain none_ word
  refine .inr ⟨_, processed, ?_, ?_, fun absent => ?_⟩
  · rw [String.toList_ofList]
    exact isTidy_tidy _
  · rw [String.toList_ofList, solid_tidy]
  · rw [Phrase.replace_of_absent absent, String.toList_ofList, solid_tidy]
    refine ⟨rfl, fun tidy_ => ?_⟩
    rw [tidy_eq_self tidy_, String.ofList_toList]

/-- Marks among gaps, one of them a line break. -/
theorem process_tidies_greeting :
    let config : Tree := .mapping [("textProcessing", .mapping [("punctuationMap",
      .mapping [("comma", .text ","), ("new line", .text "\n")])])]
    let text := "hello \t comma  new line world"
    Config.bool? config ["textProcessing", "punctuationCommands"] ≠ some false ∧
      textEntries (Config.entriesAt config ["textProcessing", "punctuationMap"]) ≠ [] ∧
      textEntries (Config.entriesAt config ["textProcessing", "customVocabulary"]) = [] ∧
      (∀ w, (ofTree config).process text ≠ .commandWord w) ∧
      (ofTree config).process text = .text "hello,\nworld" ∧ IsTidy "hello,\nworld".toList := by
  intro config text
  have on : Config.bool? config ["textProcessing", "punctuationCommands"] ≠ some false := by
    decide
  have listed :
      textEntries (Config.entriesAt config ["textProcessing", "punctuationMap"]) ≠ [] := by
    decide
  have plain :
      textEntries (Config.entriesAt config ["textProcessing", "customVocabulary"]) = [] := by
    decide
  have word : ∀ w, (ofTree config).process text ≠ .commandWord w := by
    intro w isWord
    cases (process_eq_commandWord_iff.1 isWord).2
  have words : (ofTree config).markWords = ["new line".toList, "comma".toList] := by
    have keys : (ofTree config).punctuation.keys = ["comma", "new line"] := by decide +kernel
    rw [markWords, keys]
    simp [List.mergeSort, Text.unitCount, Text.units, Text.unitsOf]
  have processed : (ofTree config).process text = .text "hello,\nworld" := by
    rw [process_of_plain (by decide) (by decide +kernel) plain (by decide) word, words]
    decide +kernel
  refine ⟨on, listed, plain, word, processed, ?_⟩
  rcases process_tidies config on listed plain text word with ⟨none_, -⟩ | ⟨s, same, tidied, -⟩
  · exact absurd none_ (by decide)
  · rw [processed] at same
    exact Processed.text.inj same ▸ tidied

end VoiceControl.Phrasebook
