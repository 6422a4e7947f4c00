import VoiceControl.Proofs.Text.SpokenMarks

/-!
# Where a phrase stands

A phrase stands in a text wherever a part of the text is the same up to case, with a word boundary
on both sides. That is where it is found, and a text in which none of the phrases stands is not
touched when they are replaced.

A text that is the phrase itself has boundaries at its ends only if it starts and ends in a
character of a word. Any other phrase does not stand in itself.

* `first?_eq_none`: a phrase that stands nowhere is found nowhere.
* `stands_self_iff`, `replace_self`: what becomes of a phrase that is said alone.
-/

namespace VoiceControl.Phrase

open VoiceControl.Text

/-- A phrase stands in a text, between `a` and `b`. -/
structure StandsBetween (phrase s a part b : List Char) : Prop where
  split : s = a ++ part ++ b
  same : part.map caseKey = phrase.map caseKey
  starts : isBoundary a.getLast? (part ++ b).head? = true
  ends : isBoundary (a ++ part).getLast? b.head? = true

/-- A phrase stands somewhere in a text. -/
def Stands (phrase s : List Char) : Prop := ∃ a part b, StandsBetween phrase s a part b

variable {phrase part s : List Char} {phrases : List (List Char)}

/-- A phrase is found where it stands. -/
theorem afterCaseless?_of_same (same : part.map caseKey = phrase.map caseKey) (b : List Char) :
    afterCaseless? phrase (part ++ b) = some (part, b) := by
  induction phrase generalizing part with
  | nil =>
      obtain rfl : part = [] := List.map_eq_nil_iff.1 same
      rfl
  | cons x phrase ih =>
      obtain ⟨c, part, rfl, key, rest⟩ := List.map_eq_cons_iff.1 same
      rw [List.cons_append, afterCaseless?, if_pos key.symm, ih rest]
      rfl

theorem found?_eq_some_iff {a r : List Char} :
    found? a.getLast? r phrase = some part ↔
      ∃ b, r = part ++ b ∧ StandsBetween phrase (a ++ r) a part b := by
  have last : (a ++ part).getLast? = part.getLast?.or a.getLast? := List.getLast?_append
  constructor
  · intro found
    unfold found? at found
    split at found
    · rename_i found_part b parts
      split at found
      · rename_i bounded
        obtain rfl := Option.some.inj found
        have split := eq_append_of_afterCaseless? parts
        obtain ⟨starts, ends⟩ := Bool.and_eq_true_iff.1 bounded
        refine ⟨b, split, ?_, map_caseKey_of_afterCaseless? parts, split ▸ starts, ?_⟩
        · rw [split, List.append_assoc]
        · rw [last]
          exact ends
      · cases found
    · cases found
  · rintro ⟨b, rfl, stands⟩
    have bounded : (isBoundary a.getLast? (part ++ b).head? &&
        isBoundary (part.getLast?.or a.getLast?) b.head?) = true := by
      rw [← last, stands.starts, stands.ends]
      rfl
    rw [found?, afterCaseless?_of_same stands.same]
    exact if_pos bounded

/-- Where none of the phrases stands, none is found. -/
theorem first?_eq_none (absent : ∀ phrase ∈ phrases, ¬ Stands phrase s) {a r : List Char}
    (split : s = a ++ r) : first? phrases a.getLast? r = none := by
  refine List.findSome?_eq_none_iff.2 fun phrase hp => ?_
  refine Option.eq_none_iff_forall_ne_some.2 fun part found => absent phrase hp ?_
  obtain ⟨b, -, stands⟩ := found?_eq_some_iff.1 found
  exact ⟨a, part, b, split ▸ stands⟩

/-- A text in which none of the phrases stands is left as it is. -/
theorem replace_of_absent (absent : ∀ phrase ∈ phrases, ¬ Stands phrase s)
    (f : List Char → List Char) : replace phrases f s = s :=
  replace_of_unfound fun _ _ split => first?_eq_none absent split

/-! ## A phrase said alone -/

/-- A text starts and ends in a character of a word. -/
def hasWordEnds (s : List Char) : Bool := inWord s.head? && inWord s.getLast?

theorem isBoundary_none (c : Option Char) :
    isBoundary none c = inWord c ∧ isBoundary c none = inWord c := by
  cases h : inWord c <;> simp [isBoundary, h] <;> rfl

theorem standsBetween_self_iff : StandsBetween s s [] s [] ↔ hasWordEnds s = true := by
  have starts : isBoundary none s.head? = inWord s.head? := (isBoundary_none _).1
  have ends : isBoundary s.getLast? none = inWord s.getLast? := (isBoundary_none _).2
  rw [hasWordEnds, Bool.and_eq_true_iff]
  constructor
  · rintro ⟨-, -, front, back⟩
    rw [List.append_nil] at front
    exact ⟨starts ▸ front, ends ▸ back⟩
  · rintro ⟨front, back⟩
    refine ⟨by simp, rfl, ?_, ends.trans back⟩
    rw [List.append_nil]
    exact starts.trans front

/-- A phrase stands in itself only as a whole. -/
theorem stands_self_iff : Stands s s ↔ hasWordEnds s = true := by
  rw [← standsBetween_self_iff]
  constructor
  · rintro ⟨a, part, b, stands⟩
    -- the part is as long as the phrase, so nothing is left around it
    have size : s.length = part.length := by
      simpa using congrArg List.length stands.same.symm
    have lengths := congrArg List.length stands.split
    simp only [List.length_append] at lengths
    obtain rfl : a = [] := List.eq_nil_of_length_eq_zero (by omega)
    obtain rfl : b = [] := List.eq_nil_of_length_eq_zero (by omega)
    obtain rfl : s = part := by simpa using stands.split
    exact stands
  · exact fun stands => ⟨[], s, [], stands⟩

/-- A phrase that is said alone is replaced if it starts and ends in characters of words. -/
theorem replace_self (some_ : s ≠ []) (f : List Char → List Char) :
    replace [s] f s = if hasWordEnds s then f s else s := by
  by_cases ends : hasWordEnds s = true
  · obtain ⟨c, r, rfl⟩ := List.exists_cons_of_ne_nil some_
    have here : found? none (c :: r) (c :: r) = some (c :: r) :=
      found?_eq_some_iff (a := []) |>.2 ⟨[], by simp, standsBetween_self_iff.2 ends⟩
    have found : first? [c :: r] none (c :: r) = some (c :: r) := by simp [first?, here]
    -- the phrase was not empty, so it is not found once more at the end
    have rest : replaceFrom [c :: r] f (some c) r.length r = [] := by
      obtain ⟨d, skipped⟩ := replaceFrom_skip (p := [c :: r]) (f := f) c r []
      rw [List.append_nil] at skipped
      rw [skipped]
      rfl
    rw [if_pos ends, replace, replaceFrom, found]
    exact (congrArg (f (c :: r) ++ ·) rest).trans (List.append_nil _)
  · rw [if_neg ends]
    refine replace_of_absent (fun phrase hp => ?_) f
    rw [List.mem_singleton.1 hp, stands_self_iff]
    exact ends

end VoiceControl.Phrase
