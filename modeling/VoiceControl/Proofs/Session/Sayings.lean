import VoiceControl.Proofs.Command.Foreign
import VoiceControl.Proofs.Text.PlainWords

/-!
# Sayings

An utterance of plain words that is written in few characters. Where none of these spells a word or
phrase that the usual settings look for, the utterance reaches the commands as it was said, and a
command that looks for a phrase with another character does not take it.
-/

namespace VoiceControl

open VoiceControl.Text VoiceControl.Command

/-- The phrasebook of the usual settings. -/
def usualPhrasebook : Phrasebook := .ofTree ({} : Settings).tree

/-- The words that mean nothing under the usual settings. -/
def usualIgnoredWords : List String := defaultIgnoredWords.map lowerText

/-- An utterance of plain words and the characters that it is written in. -/
structure Saying where
  words : List (List Char)
  letters : List Char
  plain : ∀ w ∈ words, PlainWord w
  ne_nil : words ≠ []
  written : ∀ c ∈ unwords words, c ∈ letters

namespace Saying

/-- The characters of an utterance. -/
def spoken (s : Saying) : List Char := unwords s.words

/-- An utterance as text. -/
def text (s : Saying) : String := String.ofList s.spoken

/-- The characters that an utterance is written in. -/
def alphabet (s : Saying) (c : Char) : Bool := s.letters.contains c

variable (s : Saying)

theorem alphabet_of_mem {c : Char} (h : c ∈ s.spoken) : s.alphabet c = true :=
  List.contains_iff_mem.2 (s.written c h)

@[simp] theorem toList_text : s.text.toList = s.spoken := String.toList_ofList

/-- Commands see an utterance as it is. -/
theorem plain_spoken : Utterance.plain s.spoken = s.spoken := plain_unwords s.plain s.ne_nil

theorem trim_lower_spoken : trim (lower s.spoken) = s.spoken := by
  rw [spoken, lower_unwords s.plain, trim,
    trimBy_unwords (fun _ h => isBlank_of_isPlain h) s.plain s.ne_nil]

theorem text_ne_empty : s.text ≠ "" := by
  obtain ⟨c, r, front, -⟩ := unwords_front s.plain s.ne_nil
  rw [text, spoken, front]
  simp

/-! ## From speech to commands -/

/-- Neither a word to be overlooked, a command word nor a spoken mark of the usual settings is
written in the characters of an utterance; of marks case does not matter. -/
def isUsual (s : Saying) : Bool :=
  (usualIgnoredWords ++ usualPhrasebook.commandWords.keys).all (isForeign s.alphabet) &&
    usualPhrasebook.punctuation.keys.all fun p => p.toList.any fun a =>
      s.letters.all fun c => decide (caseKey a ≠ caseKey c)

variable {s}

/-- Every word of an utterance means something. -/
theorem significant_text (usual : s.isUsual = true) {lx : Lexicon}
    (ignored : lx.ignored = usualIgnoredWords) : lx.significant s.text.toList = s.spoken := by
  rw [isUsual, List.all_append, Bool.and_eq_true, Bool.and_eq_true] at usual
  rw [toList_text]
  refine Lexicon.significant_unwords s.plain fun v hv => ?_
  rw [ignored]
  exact isOneOf_eq_false (fun c hc => s.alphabet_of_mem (mem_unwords_of_mem hv hc)) usual.1.1

/-- An utterance is no command word and has no spoken punctuation. -/
theorem process_text (usual : s.isUsual = true) :
    usualPhrasebook.process s.text = .text s.text := by
  rw [isUsual, List.all_append, Bool.and_eq_true, Bool.and_eq_true] at usual
  obtain ⟨⟨-, words⟩, marks⟩ := usual
  refine Phrasebook.process_unwords s.plain s.ne_nil ?_ ?_ rfl
  · exact get?_eq_none_of_isForeign (fun c hc => s.alphabet_of_mem hc) words
  · intro p hp
    obtain ⟨q, hq, rfl⟩ := List.mem_map.1 hp
    obtain ⟨a, ha, other⟩ := List.any_eq_true.1 (List.all_eq_true.1 marks q hq)
    exact ⟨a, ha, fun c hc => of_decide_eq_true (List.all_eq_true.1 other c (s.written c hc))⟩

/-! ## Commands on numbers -/

variable (s)

/-- Without a separator an utterance is no drag. -/
theorem drag_refuses (foreign : dragSeparators.all (isForeign s.alphabet) = true)
    (hyphen : s.alphabet '-' = false) (id : Nat) (lx : Lexicon) :
    (dragBetweenNumbers id lx).accepts s.text = .ok false := by
  have written := fun c hc => s.alphabet_of_mem (c := c) hc
  have span : isDigitSpan s.spoken = false := by
    refine isDigitSpan_eq_false fun mem => ?_
    rw [written '-' mem] at hyphen
    cases hyphen
  have separator : dragSeparator? s.spoken = none := by
    have missing : dragSeparators.find? (fun p => mentions p s.spoken) = none := by
      refine List.find?_eq_none.2 fun p hp => ?_
      rw [mentions_eq_false written (List.all_eq_true.1 foreign p hp)]
      exact Bool.false_ne_true
    rw [dragSeparator?, missing]
    dsimp only
    rw [span]
    rfl
  show Except.ok (dragTargets? lx s.text).isSome = .ok false
  rw [dragTargets?, toList_text, trim_lower_spoken]
  dsimp only
  rw [separator]
  rfl

/-- A command on a lead and a number does not take an utterance written without the lead. -/
theorem clickNumber_refuses (foreign : isForeign s.alphabet "click" = true) (id : Nat)
    (lx : Lexicon) : (clickNumber id lx).accepts s.text = .ok false := by
  unfold clickNumber
  dsimp only
  exact plainly_leads_eq_false (fun c hc => s.alphabet_of_mem hc) s.plain_spoken foreign _

theorem refineGrid_refuses (foreign : isForeign s.alphabet "refine" = true) (id : Nat)
    (lx : Lexicon) : (refineGrid id lx).accepts s.text = .ok false := by
  unfold refineGrid
  dsimp only
  exact plainly_leads_eq_false (fun c hc => s.alphabet_of_mem hc) s.plain_spoken foreign _

end Saying

end VoiceControl
