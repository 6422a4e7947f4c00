import VoiceControl.Proofs.Data.Listing
import VoiceControl.Proofs.Text.SpokenMarks
import VoiceControl.Proofs.Text.SpokenNumbers

/-!
# The readers of numbers agree

A text is asked whether there is a number in it, which numbers it has, and whether it is nothing but
one number. The first two answers agree whatever the words for numbers are. The third looks up the
trimmed text as it is, so it agrees with them where every word for a number is one word of small
letters, as in the tables that come with the program.
-/

namespace VoiceControl

open VoiceControl.Text

namespace Text

/-! ## A word between blanks -/

section Blanks

variable {a b w s : List Char}

theorem words_blank_append (blank : ∀ c ∈ a, isBlank c = true) (s : List Char) :
    words (a ++ s) = words s := by
  induction a with
  | nil => rfl
  | cons c a ih =>
      obtain ⟨here, rest⟩ := List.forall_mem_cons.1 blank
      exact (words_append_blank here [] (a ++ s)).trans (ih rest)

theorem words_append_blanks (blank : ∀ c ∈ b, isBlank c = true) (s : List Char) :
    words (s ++ b) = words s := by
  cases b with
  | nil => rw [List.append_nil]
  | cons c b =>
      obtain ⟨here, rest⟩ := List.forall_mem_cons.1 blank
      have none_ : words b = [] := by simpa using words_blank_append rest []
      rw [words_append_blank here, none_, List.append_nil]

theorem words_between_blanks (front : ∀ c ∈ a, isBlank c = true) (word : Unbroken w)
    (back : ∀ c ∈ b, isBlank c = true) : words (a ++ w ++ b) = [w] := by
  rw [words_append_blanks back, words_blank_append front, words_of_unbroken word]

theorem any_isDigit_of_blank (blank : ∀ c ∈ a, isBlank c = true) :
    a.any Char.isDigit = false := by
  refine List.any_eq_false.2 fun c hc digit => ?_
  exact Bool.false_ne_true ((isBlank_of_isDigit digit).symm.trans (blank c hc))

/-- Blanks stay as they are in lower case. -/
theorem flatMap_lowerChar_of_blank (blank : ∀ c ∈ a, isBlank c = true) :
    a.flatMap lowerChar = a := by
  induction a with
  | nil => rfl
  | cons c a ih =>
      obtain ⟨here, rest⟩ := List.forall_mem_cons.1 blank
      rw [List.flatMap_cons, (isLowered_of_isBlank here).1, ih rest]
      rfl

/-- A capital sigma shows in lower case. -/
theorem exists_mem_lowerFrom_of_sigma (before : List Char) (h : '\u03A3' ∈ s) :
    ∃ c ∈ lowerFrom before s, 128 ≤ c.toNat := by
  induction s generalizing before with
  | nil => cases h
  | cons c s ih =>
      rw [lowerFrom]
      rcases List.mem_cons.1 h with rfl | later
      · rw [if_pos rfl]
        refine ⟨_, List.mem_append_left _ (List.mem_singleton_self _), ?_⟩
        split <;> decide
      · obtain ⟨d, hd, beyond⟩ := ih _ later
        exact ⟨d, List.mem_append_right _ hd, beyond⟩

end Blanks

/-- A word of small letters. -/
structure SmallWord (w : List Char) : Prop where
  ne : w ≠ []
  small : ∀ c ∈ w, c.isLower = true

instance (w : List Char) : Decidable (SmallWord w) :=
  decidable_of_iff (w ≠ [] ∧ w.all Char.isLower = true)
    ⟨fun h => ⟨h.1, List.all_eq_true.1 h.2⟩, fun h => ⟨h.ne, List.all_eq_true.2 h.small⟩⟩

namespace SmallWord

variable {w m a b : List Char}

theorem toNat (h : SmallWord w) {c : Char} (hc : c ∈ w) : 97 ≤ c.toNat ∧ c.toNat ≤ 122 := by
  have range : (decide (c.val ≥ 97) && decide (c.val ≤ 122)) = true := h.small c hc
  simp only [Bool.and_eq_true, decide_eq_true_eq, ge_iff_le, UInt32.le_iff_toNat_le] at range
  exact range

theorem isPlain (h : SmallWord w) {c : Char} (hc : c ∈ w) : isPlain c = true := by
  rw [Text.isPlain, h.small c hc, Bool.true_or]

theorem unbroken (h : SmallWord w) : Unbroken w :=
  ⟨h.ne, fun _ hc => isBlank_of_isPlain (h.isPlain hc)⟩

theorem lower_eq (h : SmallWord w) : lower w = w :=
  lowerFrom_of_lowered (fun _ hc => isLowered_of_isPlain (.inl (h.isPlain hc))) []

/-- What is a word of small letters in lower case is it between blanks too. -/
theorem lower_between_blanks (h : SmallWord (lower m)) (front : ∀ c ∈ a, isBlank c = true)
    (back : ∀ c ∈ b, isBlank c = true) : lower (a ++ m ++ b) = a ++ lower m ++ b := by
  have plain : ∀ c ∈ m, c ≠ '\u03A3' := by
    rintro c hc rfl
    obtain ⟨d, hd, beyond⟩ := exists_mem_lowerFrom_of_sigma [] hc
    have := h.toNat hd
    omega
  have blank {c : Char} (here : isBlank c = true) : c ≠ '\u03A3' := (isLowered_of_isBlank here).2
  have none_ : ∀ c ∈ a ++ m ++ b, c ≠ '\u03A3' := by
    simp only [List.mem_append]
    rintro c ((hc | hc) | hc)
    · exact blank (front c hc)
    · exact plain c hc
    · exact blank (back c hc)
  rw [lower, lower, lowerFrom_of_no_sigma none_, lowerFrom_of_no_sigma plain, List.flatMap_append,
    List.flatMap_append, flatMap_lowerChar_of_blank front, flatMap_lowerChar_of_blank back]

/-- A text that is a word of small letters in lower case has no digits. -/
theorem any_isDigit (h : SmallWord (lower m)) : m.any Char.isDigit = false := by
  rw [← any_isDigit_lower]
  refine List.any_eq_false.2 fun c hc digit => ?_
  have := h.toNat hc
  have := (isUncased_of_isDigit digit).2.2
  omega

end SmallWord

end Text

namespace Lexicon

variable {lx : Lexicon} {s t : List Char} {v : Number}

/-! ## Whether there is a number -/

theorem numbersOf_eq_nil_iff {ws : List (List Char)} :
    lx.numbersOf ws = [] ↔ ∀ w ∈ ws, lx.value? w = none := by
  fun_induction numbersOf lx ws with
  | case1 => simp
  | case2 w rest unknown ih => simp [unknown, ih]
  | case3 w x value => simp [value]
  | case4 w x value => simp [value]
  | case5 w x value => simp [value]
  | case6 w x value => simp [value]

/-- There is a number in a text exactly if the numbers of it are not none. -/
theorem hasNumber_iff (lx : Lexicon) (s : List Char) :
    lx.hasNumber s = true ↔ lx.numbers s ≠ [] := by
  cases digits : s.any Char.isDigit with
  | true =>
      obtain ⟨ks, numerals⟩ := Numerals.exists_numerals s
      refine iff_of_true (by rw [hasNumber, digits, Bool.true_or]) fun none_ => ?_
      rw [numerals.numbers_eq digits, List.map_eq_nil_iff] at none_
      subst none_
      cases numerals with
      | none bare => exact Bool.false_ne_true (bare.symm.trans digits)
  | false =>
      rw [hasNumber, digits, Bool.false_or, numbers_of_bare digits, ne_eq, numbersOf_eq_nil_iff]
      simp [Option.isSome_iff_ne_none]

/-! ## Texts that are one number -/

/-- Every word for a number is a word of small letters. -/
def HasSmallWords (lx : Lexicon) : Prop := ∀ w v, lx.value? w = some v → SmallWord w

/-- A text that is nothing but one number has just this number. -/
theorem numbers_of_loneNumber? (words : lx.HasSmallWords) (lone : lx.loneNumber? t = some v) :
    lx.numbers t = [v] := by
  obtain ⟨a, b, split, front, back⟩ := exists_eq_append_trimBy isBlank t
  have bare_a := any_isDigit_of_blank front
  have bare_b := any_isDigit_of_blank back
  change t = a ++ trim t ++ b at split
  unfold loneNumber? at lone
  generalize trim t = m at split lone
  subst split
  dsimp only at lone
  split at lone
  · rename_i digits
    rw [Bool.and_eq_true, Bool.not_eq_true', List.isEmpty_eq_false_iff, List.all_eq_true] at digits
    let k : Numeral := ⟨m, digits.1, digits.2⟩
    have numerals : Numerals (a ++ k.digits ++ b) [k] := .single bare_a k bare_b
    rw [← Option.some.inj lone]
    exact numerals.numbers_eq (by rw [List.any_append, k.any_isDigit, Bool.true_or]) lx
  · -- the trimmed text is a word of the table, so it is the only word of the whole text
    have small := words _ _ lone
    have bare : (a ++ m ++ b).any Char.isDigit = false := by
      rw [List.any_append, List.any_append, bare_a, bare_b, small.any_isDigit]
      rfl
    have one : tokens (a ++ m ++ b) = [lower m] := by
      rw [tokens, small.lower_between_blanks front back,
        words_between_blanks front small.unbroken back]
    rw [numbers_of_bare bare, one, numbersOf, lone]

theorem hasSmallWords_make {table : NumberWords}
    (small : ∀ e ∈ table, SmallWord e.1.toList) (ignored : List String) (threshold : Number) :
    (make table ignored threshold).HasSmallWords := by
  intro w v value
  obtain ⟨⟨k, n⟩, mem, same⟩ := List.mem_map.1 (Entries.mem_of_get?_ofPairs value)
  have word := small _ mem
  have key : lowerText k = String.ofList w := (Prod.mk.inj same).1
  rw [lowerText, word.lower_eq, String.ofList_toList] at key
  rwa [key, String.toList_ofList] at word

/-- There is a number in a text exactly if it has numbers, whatever the words for numbers are. With
the tables that come with the program, a text that is nothing but one number has just this
number. -/
theorem number_readers_agree :
    (∀ (lx : Lexicon) (t : List Char), lx.hasNumber t = true ↔ lx.numbers t ≠ []) ∧
    ∀ table ∈ [NumberWords.bundled, NumberWords.fallback],
      ∀ (ignored : List String) (threshold : Number) (t : List Char) (v : Number),
        (make table ignored threshold).loneNumber? t = some v →
          (make table ignored threshold).numbers t = [v] := by
  have bundled : ∀ e ∈ NumberWords.bundled, SmallWord e.1.toList := by decide +kernel
  have fallback : ∀ e ∈ NumberWords.fallback, SmallWord e.1.toList := by decide +kernel
  refine ⟨hasNumber_iff, List.forall_mem_cons.2 ⟨?_, List.forall_mem_singleton.2 ?_⟩⟩
  · intro ignored threshold t v
    exact numbers_of_loneNumber? (hasSmallWords_make bundled ignored threshold)
  · intro ignored threshold t v
    exact numbers_of_loneNumber? (hasSmallWords_make fallback ignored threshold)

/-- " Won " is the number one. -/
theorem number_readers_agree_won :
    (make .fallback [] 0).loneNumber? " Won ".toList = some 1 ∧
      (make .fallback [] 0).numbers " Won ".toList = [1] := by
  have lone : (make .fallback [] 0).loneNumber? " Won ".toList = some 1 := by decide +kernel
  exact ⟨lone, number_readers_agree.2 .fallback (by simp) [] 0 _ 1 lone⟩

end Lexicon

end VoiceControl
