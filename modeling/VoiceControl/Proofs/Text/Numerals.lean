import VoiceControl.Command.Target
import VoiceControl.Proofs.Text.PlainWords

/-!
# Numerals

A decimal natural number as it is dictated: a run of digits. It is the only number of a text that
has no other digits, and a text is read as two of them around the word between.
-/

namespace VoiceControl

open VoiceControl.Text

/-- A run of decimal digits. -/
structure Numeral where
  digits : List Char
  ne_nil : digits ≠ []
  all_digit : ∀ c ∈ digits, c.isDigit = true

namespace Numeral

/-- The natural number that a numeral stands for. -/
def value (k : Numeral) : Nat := Number.natOfDigits 10 k.digits

theorem plainWord (k : Numeral) : PlainWord k.digits :=
  ⟨k.ne_nil, fun c hc => isPlain_of_isDigit (k.all_digit c hc)⟩

theorem dropWhile_isBlank_digits (k : Numeral) : k.digits.dropWhile isBlank = k.digits := by
  obtain ⟨c, r, digits⟩ := List.exists_cons_of_ne_nil k.ne_nil
  have first : isBlank c = false :=
    isBlank_of_isPlain (isPlain_of_isDigit (k.all_digit c (digits ▸ List.mem_cons_self)))
  rw [digits, List.dropWhile_cons, first, if_neg Bool.false_ne_true]

theorem any_isDigit (k : Numeral) (s : List Char) : (s ++ k.digits).any Char.isDigit = true := by
  cases hk : k.digits with
  | nil => exact absurd hk k.ne_nil
  | cons c r =>
      have digit : c.isDigit = true := k.all_digit c (hk ▸ List.mem_cons_self)
      simp [digit]

theorem digitRuns_append (k : Numeral) {s : List Char} (none_ : s.any Char.isDigit = false) :
    Lexicon.digitRuns (s ++ k.digits) = [k.digits] := by
  induction s with
  | nil =>
      have unbroken : ∀ c ∈ k.digits, (!c.isDigit) = false := by
        intro c hc
        rw [k.all_digit c hc]
        rfl
      have kept : (!k.digits.isEmpty) = true := by simpa using k.ne_nil
      rw [List.nil_append, Lexicon.digitRuns, List.splitOnP_eq_singleton unbroken,
        List.filter_cons, if_pos kept]
      rfl
  | cons c s ih =>
      rw [List.any_cons, Bool.or_eq_false_iff] at none_
      have here : (!c.isDigit) = true := by
        rw [none_.1]
        rfl
      rw [Lexicon.digitRuns, List.cons_append, List.splitOnP_cons_eq_if_modifyHead, if_pos here]
      exact ih none_.2

/-- A numeral behind other characters is the number of the text. -/
theorem numbers_append (lx : Lexicon) (k : Numeral) {s : List Char}
    (none_ : s.any Char.isDigit = false) :
    lx.numbers (s ++ k.digits) = [(k.value : Number)] := by
  rw [Lexicon.numbers, if_pos (k.any_isDigit s), k.digitRuns_append none_]
  rfl

theorem hasNumber_append (lx : Lexicon) (k : Numeral) (s : List Char) :
    lx.hasNumber (s ++ k.digits) = true := by
  rw [Lexicon.hasNumber, k.any_isDigit s, Bool.true_or]

/-- A numeral on its own is a side of a drag. -/
theorem dragSide?_digits (lx : Lexicon) (k : Numeral) :
    Command.dragSide? lx k.digits = some (k.value : Number) := by
  have one : ∀ w ∈ [k.digits], PlainWord w := by
    intro w hw
    rw [List.mem_singleton.1 hw]
    exact k.plainWord
  have plain := plain_unwords one (List.cons_ne_nil _ _)
  have number := k.numbers_append lx (s := []) rfl
  rw [unwords_singleton] at plain
  rw [List.nil_append] at number
  rw [Command.dragSide?, plain, number]

/-- The first place where a text can be split at a blank and what follows it is behind its first
word. -/
theorem splitAt?_of_digits (k : Numeral) (needle rest : List Char) :
    splitAt? (' ' :: needle) (k.digits ++ (' ' :: needle ++ rest)) = some (k.digits, rest) := by
  have all := k.all_digit
  generalize k.digits = ds at all
  induction ds with
  | nil =>
      have found : after? (' ' :: needle) (' ' :: (needle ++ rest)) = some rest :=
        after?_eq_some_iff.2 rfl
      rw [List.nil_append, List.cons_append, splitAt?, found]
  | cons c ds ih =>
      have other : ' ' ≠ c := by
        rintro rfl
        exact absurd (all ' ' List.mem_cons_self) (by decide)
      have missed (s : List Char) : after? (' ' :: needle) (c :: s) = none := by
        rw [after?, if_neg other]
      rw [List.cons_append, splitAt?, missed, ih fun d hd => all d (List.mem_cons_of_mem c hd)]
      rfl

end Numeral

end VoiceControl
