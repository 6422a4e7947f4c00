import VoiceControl.Proofs.Text.Gluing
import VoiceControl.Proofs.Text.LowerCase
import VoiceControl.Speech.Lexicon
import VoiceControl.Speech.Phrasebook
import VoiceControl.Speech.Utterance
import VoiceControl.Text.Search

/-!
# Plain words

Texts of lower-case ASCII letters and digits between single spaces are what commands are made of.
Nothing that is done to an utterance before it reaches the commands changes such a text, as long as
no word of it means nothing and no phrase of the phrasebook occurs in it.
-/

namespace VoiceControl.Text

/-! ## Characters -/

/-- Lower-case ASCII letters and digits. -/
def isPlain (c : Char) : Bool := c.isLower || c.isDigit

section Characters

variable {c : Char}

theorem toNat_of_isPlain (h : isPlain c = true) :
    48 ≤ c.toNat ∧ c.toNat ≤ 57 ∨ 97 ≤ c.toNat ∧ c.toNat ≤ 122 := by
  have ranges : (decide (c.val ≥ 97) && decide (c.val ≤ 122) ||
      decide (c.val ≥ 48) && decide (c.val ≤ 57)) = true := h
  simp only [Bool.or_eq_true, Bool.and_eq_true, decide_eq_true_eq, ge_iff_le,
    UInt32.le_iff_toNat_le] at ranges
  exact ranges.symm

theorem isPlain_of_isDigit (h : c.isDigit = true) : isPlain c = true := by
  rw [isPlain, h, Bool.or_true]

/-- A character of a list without plain characters is not plain. -/
theorem contains_of_isPlain {cs : List Char} (h : isPlain c = true)
    (other : cs.any isPlain = false) : cs.contains c = false := by
  cases found : cs.contains c with
  | false => rfl
  | true => exact absurd h (List.any_eq_false.1 other c (List.contains_iff_mem.1 found))

theorem isBlank_of_isPlain (h : isPlain c = true) : isBlank c = false := by
  have bounds := toNat_of_isPlain h
  simp only [isBlank, Bool.or_eq_false_iff, Bool.and_eq_false_iff, decide_eq_false_iff_not,
    beq_eq_false_iff_ne, ne_eq]
  omega

theorem isMark_of_isPlain (h : isPlain c = true) : Utterance.isMark c = false :=
  contains_of_isPlain h rfl

theorem isEdgeMark_of_isPlain (h : isPlain c = true) : Lexicon.isEdgeMark c = false :=
  contains_of_isPlain h rfl

theorem isClosingMark_of_isPlain (h : isPlain c = true) : Spacing.isClosingMark c = false :=
  contains_of_isPlain h rfl

/-- A plain character or a space is in lower case. -/
theorem isLowered_of_isPlain (h : isPlain c = true ∨ c = ' ') : IsLowered c := by
  rcases h with h | rfl
  · have bounds := toNat_of_isPlain h
    have noUpper : ¬ (c.val ≥ 'A'.val ∧ c.val ≤ 'Z'.val) := by
      simp only [ge_iff_le, UInt32.le_iff_toNat_le, not_and]
      intro above
      have : ('A' : Char).val.toNat = 65 := rfl
      have : ('Z' : Char).val.toNat = 90 := rfl
      have : c.val.toNat = c.toNat := rfl
      omega
    refine ⟨?_, ?_⟩
    · have same : c.toLower = c := dif_neg noUpper
      rw [lowerChar, if_pos (by omega), same]
    · rintro rfl
      have : ('\u03A3' : Char).toNat = 931 := rfl
      omega
  · exact ⟨by decide, by decide⟩

end Characters

/-! ## Texts -/

/-- A word of lower-case ASCII letters and digits. -/
def PlainWord (w : List Char) : Prop := w ≠ [] ∧ ∀ c ∈ w, isPlain c = true

instance (w : List Char) : Decidable (PlainWord w) :=
  decidable_of_iff (w ≠ [] ∧ w.all isPlain = true) (and_congr_right' List.all_eq_true)

theorem PlainWord.unbroken {w : List Char} (plain : PlainWord w) : Unbroken w :=
  ⟨plain.1, fun c hc => isBlank_of_isPlain (plain.2 c hc)⟩

theorem PlainWord.opensClosed {w : List Char} (plain : PlainWord w) : opensClosed w = false := by
  obtain ⟨ne, all⟩ := plain
  obtain ⟨c, r, rfl⟩ := List.exists_cons_of_ne_nil ne
  exact isClosingMark_of_isPlain (all c List.mem_cons_self)

section Words

variable {ws : List (List Char)}

theorem plain_or_space (plain : ∀ w ∈ ws, PlainWord w) {c : Char} (h : c ∈ unwords ws) :
    isPlain c = true ∨ c = ' ' := by
  rcases mem_unwords h with ⟨w, hw, hc⟩ | space
  · exact .inl ((plain w hw).2 c hc)
  · exact .inr space

theorem unwords_front (plain : ∀ w ∈ ws, PlainWord w) (some_ : ws ≠ []) :
    ∃ c r, unwords ws = c :: r ∧ isPlain c = true := by
  obtain ⟨w, ws, rfl⟩ := List.exists_cons_of_ne_nil some_
  obtain ⟨ne, all⟩ := plain w List.mem_cons_self
  obtain ⟨c, w, rfl⟩ := List.exists_cons_of_ne_nil ne
  exact ⟨c, w ++ spaced ws, unwords_cons (c :: w) ws, all c List.mem_cons_self⟩

theorem unwords_back (plain : ∀ w ∈ ws, PlainWord w) (some_ : ws ≠ []) :
    ∃ c r, (unwords ws).reverse = c :: r ∧ isPlain c = true := by
  induction ws with
  | nil => exact absurd rfl some_
  | cons w ws ih =>
      cases ws with
      | nil =>
          obtain ⟨ne, all⟩ := plain w List.mem_cons_self
          rw [unwords_singleton]
          cases hr : w.reverse with
          | nil => exact absurd (List.reverse_eq_nil_iff.1 hr) ne
          | cons c r =>
              have mem : c ∈ w := by
                rw [← List.mem_reverse, hr]
                exact List.mem_cons_self
              exact ⟨c, r, rfl, all c mem⟩
      | cons v ws =>
          obtain ⟨c, r, hr, hc⟩ := ih (fun u hu => plain u (List.mem_cons_of_mem w hu))
            (List.cons_ne_nil v ws)
          refine ⟨c, r ++ [' '] ++ w.reverse, ?_, hc⟩
          rw [unwords_cons_cons]
          simp [hr]

theorem trimBy_unwords {p : Char → Bool} (kept : ∀ c, isPlain c = true → p c = false)
    (plain : ∀ w ∈ ws, PlainWord w) (some_ : ws ≠ []) : trimBy p (unwords ws) = unwords ws := by
  obtain ⟨c, r, front, hc⟩ := unwords_front plain some_
  obtain ⟨d, t, back, hd⟩ := unwords_back plain some_
  exact trimBy_eq_self ⟨c, r, front, kept c hc⟩ ⟨d, t, back, kept d hd⟩

theorem lower_unwords (plain : ∀ w ∈ ws, PlainWord w) : lower (unwords ws) = unwords ws :=
  lowerFrom_of_lowered (fun _ h => isLowered_of_isPlain (plain_or_space plain h)) []

/-- Commands see a text of plain words as it is. -/
theorem plain_unwords (plain : ∀ w ∈ ws, PlainWord w) (some_ : ws ≠ []) :
    Utterance.plain (unwords ws) = unwords ws := by
  have marks : (unwords ws).filter (fun c => !Utterance.isMark c) = unwords ws := by
    refine List.filter_eq_self.2 fun c hc => ?_
    rcases plain_or_space plain hc with letter | rfl
    · rw [isMark_of_isPlain letter]
      rfl
    · decide
  rw [Utterance.plain, marks, lower_unwords plain, trim,
    trimBy_unwords (fun _ h => isBlank_of_isPlain h) plain some_]

end Words

/-! ## Dictation -/

/-- No part of a text can be taken for a phrase with a character that the text does not have in
either case. -/
theorem afterCaseless?_eq_none {phrase s : List Char}
    (foreign : ∃ a ∈ phrase, ∀ c ∈ s, caseKey a ≠ caseKey c) : afterCaseless? phrase s = none := by
  induction phrase generalizing s with
  | nil =>
      obtain ⟨a, ha, -⟩ := foreign
      cases ha
  | cons a phrase ih =>
      cases s with
      | nil => rfl
      | cons c s =>
          obtain ⟨b, hb, other⟩ := foreign
          rw [afterCaseless?]
          split
          · rename_i same
            have later : b ∈ phrase := by
              rcases List.mem_cons.1 hb with rfl | later
              · exact absurd same (other c List.mem_cons_self)
              · exact later
            rw [ih ⟨b, later, fun d hd => other d (List.mem_cons_of_mem c hd)⟩]
            rfl
          · rfl

/-- A text in which no phrase is found is left as it is. -/
theorem replace_of_unfound {p : List (List Char)} {f : List Char → List Char} {s : List Char}
    (unfound : ∀ a b, s = a ++ b → Phrase.first? p a.getLast? b = none) :
    Phrase.replace p f s = s := by
  have rest (a b : List Char) (split : s = a ++ b) : Phrase.replaceFrom p f a.getLast? 0 b = b := by
    induction b generalizing a with
    | nil => rw [Phrase.replaceFrom, unfound a [] split]
    | cons c b ih =>
        have next := ih (a ++ [c]) (by rw [split, List.append_assoc]; rfl)
        rw [List.getLast?_concat] at next
        rw [Phrase.replaceFrom, unfound a (c :: b) split]
        exact congrArg (c :: ·) next
  exact rest [] s rfl

theorem replace_eq_self {phrases : List (List Char)} (f : List Char → List Char) {s : List Char}
    (foreign : ∀ p ∈ phrases, ∃ a ∈ p, ∀ c ∈ s, caseKey a ≠ caseKey c) :
    Phrase.replace phrases f s = s := by
  refine replace_of_unfound fun before rest split => ?_
  refine List.findSome?_eq_none_iff.2 fun p hp => ?_
  obtain ⟨a, ha, other⟩ := foreign p hp
  have part : ∀ c ∈ rest, c ∈ s := fun c hc => split ▸ List.mem_append_right before hc
  rw [Phrase.found?, afterCaseless?_eq_none ⟨a, ha, fun c hc => other c (part c hc)⟩]

section Words

variable {ws : List (List Char)}

/-- The spacing of plain words is in order. -/
theorem tidy_unwords (plain : ∀ w ∈ ws, PlainWord w) : Spacing.tidy (unwords ws) = unwords ws := by
  have open_ : ∀ w ∈ ws, opensClosed w = false := fun w hw => (plain w hw).opensClosed
  rw [tidy_unwords_eq_glue fun w hw => (plain w hw).unbroken, glue_eq_unwords open_]

end Words

end VoiceControl.Text

namespace VoiceControl

open VoiceControl.Text

variable {ws : List (List Char)}

/-- Plain words that mean something are all kept. -/
theorem Lexicon.significant_unwords {lx : Lexicon} (plain : ∀ w ∈ ws, PlainWord w)
    (told : ∀ w ∈ ws, lx.ignored.contains (String.ofList w) = false) :
    lx.significant (unwords ws) = unwords ws := by
  have kept : ∀ w ∈ ws, (!lx.isIgnored w) = true := by
    intro w hw
    have one : ∀ u ∈ [w], PlainWord u := by
      intro u hu
      rw [List.mem_singleton.1 hu]
      exact plain w hw
    have edge := trimBy_unwords (fun _ h => isEdgeMark_of_isPlain h) one (List.cons_ne_nil w [])
    have case := lower_unwords one
    rw [unwords_singleton] at edge case
    rw [Lexicon.isIgnored, edge, case, told w hw]
    rfl
  rw [Lexicon.significant, words_unwords fun w hw => (plain w hw).unbroken,
    List.filter_eq_self.2 kept]

/-- Plain words are compared with command words as they are. -/
theorem Phrasebook.wordKey_unwords (plain : ∀ w ∈ ws, PlainWord w) (some_ : ws ≠ []) :
    Phrasebook.wordKey (String.ofList (unwords ws)) = String.ofList (unwords ws) := by
  rw [wordKey, lowerText, trimText, String.toList_ofList, String.toList_ofList,
    lower_unwords plain, trim, trimBy_unwords (fun _ h => isBlank_of_isPlain h) plain some_]

/-- Plain words are left as they were dictated if they are no command word and none of the spoken
marks occurs among them. -/
theorem Phrasebook.process_unwords {b : Phrasebook} (plain : ∀ w ∈ ws, PlainWord w)
    (some_ : ws ≠ [])
    (word : Entries.get? (String.ofList (unwords ws)) b.commandWords = none)
    (marks : ∀ p ∈ b.punctuation.keys.map String.toList,
      ∃ a ∈ p, ∀ c ∈ unwords ws, caseKey a ≠ caseKey c)
    (vocabulary : b.vocabulary = []) :
    b.process (String.ofList (unwords ws)) = .text (String.ofList (unwords ws)) := by
  have key := wordKey_unwords plain some_
  have ne : String.ofList (unwords ws) ≠ "" := by
    obtain ⟨c, r, front, -⟩ := unwords_front plain some_
    rw [front]
    simp
  have foreign : ∀ p ∈ b.markWords, ∃ a ∈ p, ∀ c ∈ unwords ws, caseKey a ≠ caseKey c :=
    fun p hp => marks p (List.mem_mergeSort.1 hp)
  have punctuated : b.punctuate (unwords ws) = unwords ws := by
    rw [punctuate]
    split
    · rfl
    · rw [replace_eq_self b.mark foreign, tidy_unwords plain]
  have same : (if b.punctuationEnabled then b.punctuate (unwords ws) else unwords ws) =
      unwords ws := by
    rw [punctuated, ite_self]
  rw [process, if_neg ne, key, word]
  dsimp only
  rw [String.toList_ofList, same]
  simp [applyVocabulary, vocabulary]

end VoiceControl
