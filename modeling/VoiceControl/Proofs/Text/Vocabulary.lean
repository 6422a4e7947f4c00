import VoiceControl.Proofs.Text.PhraseOccurrences
import VoiceControl.Speech.Phrasebook

/-!
# Entries of a vocabulary

A phrase of the vocabulary is replaced by what is written for it, character by character, whatever
characters the two have. It is looked for between word boundaries, though, and these are at the ends
of ASCII letters, digits and underscores only. So a phrase that starts or ends in another character
is not even known when nothing else is said.

* `process_own_phrase`: what becomes of the phrase of an entry.
-/

namespace VoiceControl.Phrasebook

/-- A configuration with one entry in its vocabulary, without spoken punctuation and command
words. -/
def soleEntry (phrase replacement : String) : Tree :=
  .mapping [("textProcessing", .mapping [("punctuationCommands", .bool false),
    ("customVocabulary", .mapping [(phrase, .text replacement)]), ("commandWords", .mapping [])])]

theorem ofTree_soleEntry (phrase replacement : String) :
    ofTree (soleEntry phrase replacement) = ⟨false, [], [(phrase, replacement)], []⟩ := rfl

/-- A phrase that is not empty and said alone becomes what is written for it if it starts and ends
in an ASCII letter, a digit or an underscore. Otherwise it stays as it is. -/
theorem process_own_phrase {phrase : String} (some_ : phrase ≠ "") (replacement : String) :
    let processed := (ofTree (soleEntry phrase replacement)).process phrase
    processed = .text (if Phrase.hasWordEnds phrase.toList then replacement else phrase) ∧
      (processed = .text replacement ↔
        Phrase.hasWordEnds phrase.toList = true ∨ phrase = replacement) := by
  intro processed
  have replaced : processed =
      .text (if Phrase.hasWordEnds phrase.toList then replacement else phrase) := by
    have characters : phrase.toList ≠ [] := fun none_ => some_ (String.toList_eq_nil_iff.1 none_)
    show (ofTree (soleEntry phrase replacement)).process phrase = _
    rw [ofTree_soleEntry, process, if_neg some_]
    dsimp only [Entries.get?_nil, applyVocabulary, List.foldl_cons, List.foldl_nil]
    rw [if_neg Bool.false_ne_true, Phrase.replace_self characters]
    split <;> rw [String.ofList_toList]
  refine ⟨replaced, ?_⟩
  rw [replaced, Processed.text.injEq]
  split <;> simp_all

/-- A phrase of two words is replaced. -/
theorem process_own_phrase_vox_grid :
    "vox grid" ≠ "" ∧
      (ofTree (soleEntry "vox grid" "voxgrid")).process "vox grid" = .text "voxgrid" := by
  have some_ : "vox grid" ≠ "" := by decide
  exact ⟨some_, (process_own_phrase some_ "voxgrid").1⟩

/-- A phrase that ends in other characters is not. -/
theorem process_own_phrase_plus_plus :
    "c++" ≠ "" ∧ (ofTree (soleEntry "c++" "cpp")).process "c++" = .text "c++" ∧
      (ofTree (soleEntry "c++" "cpp")).process "c++" ≠ .text "cpp" := by
  decide +kernel

end VoiceControl.Phrasebook
