import VoiceControl.Proofs.Text.PlainForm
import VoiceControl.Proofs.Text.SingleSpaces
import VoiceControl.Speech.Lexicon

/-!
# The normal form of a text

Normalising puts a text in lower case, leaves characters out and joins its words by single spaces.
Each of these could undo another: a character that is left out may bring two blanks together, or a
blank and an end. None does, as the words are taken last, and the characters that are kept are in
lower case wherever they stand.

* `Lexicon.Normalised`: the normal form, by its characters and its spaces.
* `Lexicon.normalize_eq_self`: a text in normal form stays as it is.
* `Lexicon.normalize_settles`: normalising leads to the normal form, and once more changes nothing.
-/

namespace VoiceControl.Lexicon

open VoiceControl.Text

variable {s : List Char} {c : Char}

/-- The normal form: in lower case, of letters, marks, numbers, underscores, hyphens and
apostrophes, with single spaces inside. -/
structure Normalised (s : List Char) : Prop where
  lowered : ∀ c ∈ s, IsLowered c
  kept : ∀ c ∈ s, isLetterMarkOrNumber c = true ∨ c = '_' ∨ c = '-' ∨ c = '\x27' ∨ c = ' '
  single : SinglySpaced s

theorem isLetterMarkOrNumber_of_isBlank (h : isBlank c = true) : isLetterMarkOrNumber c = false :=
  of_isBlank (P := fun c => isLetterMarkOrNumber c = false) (by decide +kernel) h

/-- A character is kept if it belongs to a word or is a blank. -/
theorem isKept_iff : isKept c = true ↔
    isLetterMarkOrNumber c = true ∨ c = '_' ∨ c = '-' ∨ c = '\x27' ∨ isBlank c = true := by
  simp only [isKept, Bool.or_eq_true, beq_iff_eq]
  tauto

/-- The words of a normalised text, of which it is made. -/
theorem exists_normalize_eq (s : List Char) :
    ∃ ws, normalize s = unwords ws ∧ ∀ w ∈ ws, Unbroken w ∧ ∀ c ∈ w, IsLowered c ∧ isKept c := by
  refine ⟨words ((lower s).filter isKept), rfl, fun w hw => ⟨unbroken_of_mem_words hw, ?_⟩⟩
  intro c hc
  obtain ⟨mem, kept⟩ := List.mem_filter.1 (exists_mem_words_iff.1 ⟨w, hw, hc⟩).1
  exact ⟨isLowered_of_mem_lowerFrom mem, kept⟩

theorem normalised_normalize (s : List Char) : Normalised (normalize s) := by
  obtain ⟨ws, made, word⟩ := exists_normalize_eq s
  rw [made]
  refine ⟨fun c hc => ?_, fun c hc => ?_, singlySpaced_unwords fun w hw => (word w hw).1⟩
  · rcases mem_unwords hc with ⟨w, hw, hcw⟩ | rfl
    · exact ((word w hw).2 c hcw).1
    · decide
  · rcases mem_unwords hc with ⟨w, hw, hcw⟩ | rfl
    · have notBlank := (word w hw).1.unbroken c hcw
      have kept := isKept_iff.1 ((word w hw).2 c hcw).2
      rw [notBlank] at kept
      tauto
    · simp

/-- A text in normal form stays as it is. -/
theorem normalize_eq_self (normal : Normalised s) : normalize s = s := by
  have case : lower s = s := lowerFrom_of_lowered normal.lowered []
  have all : s.filter isKept = s := by
    refine List.filter_eq_self.2 fun c hc => isKept_iff.2 ?_
    rcases normal.kept c hc with letter | rfl | rfl | rfl | rfl
    · exact .inl letter
    all_goals simp [isBlank]
  have only : ∀ c ∈ s, isBlank c = true → c = ' ' := by
    intro c hc blank
    rcases normal.kept c hc with letter | rfl | rfl | rfl | rfl
    · rw [isLetterMarkOrNumber_of_isBlank blank] at letter
      cases letter
    · exact absurd blank (by decide)
    · exact absurd blank (by decide)
    · exact absurd blank (by decide)
    · rfl
  rw [normalize, case, all, squeeze_eq_self normal.single only]

/-- Every text is normalised to a text in normal form, which is what normalising leaves alone. So
nothing changes when it is done twice. -/
theorem normalize_settles (s : List Char) :
    normalize (normalize s) = normalize s ∧ Normalised (normalize s) ∧
      (normalize s = s ↔ Normalised s) := by
  refine ⟨normalize_eq_self (normalised_normalize s), normalised_normalize s, fun same => ?_,
    normalize_eq_self⟩
  rw [← same]
  exact normalised_normalize s

end VoiceControl.Lexicon
