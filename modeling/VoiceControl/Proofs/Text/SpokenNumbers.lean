import VoiceControl.Proofs.Number.Tens
import VoiceControl.Proofs.Text.Numerals
import VoiceControl.Proofs.Text.TrailingMarks

/-!
# The numbers of a text

Number words are read from the left, and only tens look at the next word. So two texts behind one
another have the numbers of both, except where the last word of the first and the first word of the
second make up one number. Numerals are read instead of words as soon as there is a digit.

* `numbersOf_append`: words behind words have the numbers of both.
* `Numerals`: the maximal runs of digits in a text.
* `numbers_compose`: both for whole texts.
-/

namespace VoiceControl.Text

/-! ## Lower case across a space -/

/-- A space has no case and is not overlooked, so nothing behind it counts. -/
theorem meetsCased_append_space (s t : List Char) : meetsCased (s ++ ' ' :: t) = meetsCased s := by
  have stops : inRanges caseIgnorableRanges ' '.toNat = false := by decide +kernel
  have uncased : inRanges casedRanges ' '.toNat = false := by decide +kernel
  rw [meetsCased, meetsCased, List.dropWhile_append]
  cases s.dropWhile fun c => inRanges caseIgnorableRanges c.toNat with
  | nil =>
      rw [if_pos List.isEmpty_nil, List.dropWhile_cons, stops, if_neg Bool.false_ne_true]
      exact uncased
  | cons c r => rfl

theorem lowerFrom_behind_space (before x s : List Char) :
    lowerFrom (before ++ ' ' :: x) s = lowerFrom before s := by
  induction s generalizing before with
  | nil => rfl
  | cons c r ih =>
      have rest := ih (c :: before)
      rw [List.cons_append] at rest
      rw [lowerFrom, lowerFrom, meetsCased_append_space, rest]

theorem lowerFrom_append_space (before s t : List Char) :
    lowerFrom before (s ++ ' ' :: t) = lowerFrom before s ++ ' ' :: lower t := by
  induction s generalizing before with
  | nil => exact congrArg (' ' :: ·) (lowerFrom_behind_space [] before t)
  | cons c r ih =>
      rw [List.cons_append, lowerFrom, ih, meetsCased_append_space, lowerFrom, List.append_assoc]

/-- Texts on both sides of a space are put in lower case on their own. -/
theorem lower_append_space (s t : List Char) : lower (s ++ ' ' :: t) = lower s ++ ' ' :: lower t :=
  lowerFrom_append_space [] s t

/-! ## Digits -/

theorem isUncased_of_isDigit {c : Char} (h : c.isDigit = true) : IsUncased c := by
  have bounds : (decide (c.val ≥ 48) && decide (c.val ≤ 57)) = true := h
  simp only [Bool.and_eq_true, decide_eq_true_eq, ge_iff_le, UInt32.le_iff_toNat_le] at bounds
  have lowest : 48 ≤ c.toNat := bounds.1
  have highest : c.toNat ≤ 57 := bounds.2
  unfold IsUncased
  omega

theorem isBlank_of_isDigit {c : Char} (h : c.isDigit = true) : isBlank c = false :=
  isBlank_of_isPlain (isPlain_of_isDigit h)

/-- Lower case neither makes nor hides a digit. -/
theorem any_isDigit_lower (s : List Char) : (lower s).any Char.isDigit = s.any Char.isDigit := by
  rw [Bool.eq_iff_iff, List.any_eq_true, List.any_eq_true]
  constructor
  · rintro ⟨d, hd, digit⟩
    exact ⟨d, mem_of_mem_lowerFrom hd (isUncased_of_isDigit digit), digit⟩
  · rintro ⟨d, hd, digit⟩
    have lowered := isLowered_of_isPlain (.inl (isPlain_of_isDigit digit))
    exact ⟨d, mem_lowerFrom_of_isLowered hd lowered, digit⟩

end VoiceControl.Text

namespace VoiceControl.Lexicon

open VoiceControl.Text

/-! ## The words of a text -/

theorem tokens_append_space (u v : List Char) : tokens (u ++ ' ' :: v) = tokens u ++ tokens v := by
  rw [tokens, lower_append_space]
  exact words_append_blank (by decide) _ _

/-- Some of the words of a text are the words of the text that they make up. -/
theorem tokens_unwords {ws : List (List Char)} {s : List Char} (part : ws ⊆ tokens s) :
    tokens (unwords ws) = ws := by
  have word : ∀ w ∈ ws, Unbroken w := fun w hw => unbroken_of_mem_words (part hw)
  have lowered : ∀ c ∈ unwords ws, IsLowered c := by
    intro c hc
    rcases mem_unwords hc with ⟨w, hw, hc⟩ | rfl
    · exact isLowered_of_mem_lowerFrom (exists_mem_words_iff.1 ⟨w, part hw, hc⟩).1
    · decide
  rw [tokens, lower, lowerFrom_of_lowered lowered]
  exact words_unwords word

/-- The words of a text have its digits. -/
theorem any_isDigit_tokens (s : List Char) :
    (tokens s).any (fun w => w.any Char.isDigit) = s.any Char.isDigit := by
  rw [← any_isDigit_lower, Bool.eq_iff_iff]
  simp only [List.any_eq_true]
  constructor
  · rintro ⟨w, hw, c, hc, digit⟩
    exact ⟨c, (exists_mem_words_iff.1 ⟨w, hw, hc⟩).1, digit⟩
  · rintro ⟨c, hc, digit⟩
    obtain ⟨w, hw, hc⟩ := exists_mem_words_iff.2 ⟨hc, isBlank_of_isDigit digit⟩
    exact ⟨w, hw, c, hc, digit⟩

/-! ## The numbers of words -/

section Words

variable {lx : Lexicon} {w z : List Char} {ws vs : List (List Char)} {x y : Number}

theorem numbersOf_cons_of_none (unknown : lx.value? w = none) :
    lx.numbersOf (w :: ws) = lx.numbersOf ws := by
  rw [numbersOf, unknown]

theorem numbersOf_cons_of_merge (value : lx.value? w = some x) (tens : isTens x = true)
    (next : lx.value? z = some y) (units : isUnits y = true) :
    lx.numbersOf (w :: z :: ws) = (x + y) :: lx.numbersOf ws := by
  rw [numbersOf, value]
  simp only [next, tens, units, Bool.and_self, if_true]

/-- A word that the next word does not complete is a number of its own. -/
theorem numbersOf_cons_of_apart (value : lx.value? w = some x)
    (apart : isTens x = true → ∀ z y, vs.head? = some z → lx.value? z = some y →
      isUnits y = false) :
    lx.numbersOf (w :: vs) = x :: lx.numbersOf vs := by
  rw [numbersOf, value]
  cases vs with
  | nil => rfl
  | cons z vs =>
      dsimp only
      cases next : lx.value? z with
      | none => rfl
      | some y =>
          dsimp only
          rw [if_neg]
          intro both
          rw [Bool.and_eq_true] at both
          exact Bool.false_ne_true ((apart both.1 z y rfl next).symm.trans both.2)

/-- The last of some words and the first of others make up one number: tens `x` and units `y`. -/
def Meets (lx : Lexicon) (ws vs : List (List Char)) (x y : Number) : Prop :=
  ∃ w z, ws.getLast? = some w ∧ vs.head? = some z ∧
    lx.value? w = some x ∧ isTens x = true ∧ lx.value? z = some y ∧ isUnits y = true

theorem Meets.cons (h : Meets lx ws vs x y) (w : List Char) : Meets lx (w :: ws) vs x y := by
  obtain ⟨v, z, last, rest⟩ := h
  exact ⟨v, z, by rw [List.getLast?_cons, last]; rfl, rest⟩

/-- Words behind words have the numbers of both, unless the two that meet make up one number. -/
theorem numbersOf_append (apart : ∀ x y, ¬ Meets lx ws vs x y) :
    lx.numbersOf (ws ++ vs) = lx.numbersOf ws ++ lx.numbersOf vs := by
  -- the reader looks past the first words only when it has come to their last one
  fun_induction numbersOf lx ws with
  | case1 => rfl
  | case2 w rest unknown ih =>
      rw [List.cons_append, numbersOf_cons_of_none unknown, ih fun x y h => apart x y (h.cons w)]
  | case3 w x value =>
      refine numbersOf_cons_of_apart value fun tens z y first next => ?_
      exact Bool.eq_false_iff.2 fun units => apart x y ⟨w, z, rfl, first, value, tens, next, units⟩
  | case4 w x value z rest y next both ih =>
      rw [Bool.and_eq_true] at both
      rw [List.cons_append, List.cons_append, numbersOf_cons_of_merge value both.1 next both.2,
        ih fun x y h => apart x y ((h.cons z).cons w), List.cons_append]
  | case5 w x value z rest y next other ih =>
      have alone : isTens x = true → isUnits y = false := by
        intro tens
        rwa [tens, Bool.true_and, Bool.not_eq_true] at other
      rw [List.cons_append, numbersOf_cons_of_apart value, ih fun x y h => apart x y (h.cons w),
        List.cons_append]
      rintro tens z' y' first next'
      obtain rfl := Option.some.inj first
      rw [next, Option.some_inj] at next'
      exact next' ▸ alone tens
  | case6 w x value z rest unknown ih =>
      rw [List.cons_append, numbersOf_cons_of_apart value, ih fun x y h => apart x y (h.cons w),
        List.cons_append]
      rintro - z' y' first next
      obtain rfl := Option.some.inj first
      rw [unknown] at next
      cases next

/-- Words that meet make up one number between the numbers in front of them and those behind. -/
theorem numbersOf_append_of_meets (meets : Meets lx ws vs x y) :
    ∃ front, lx.numbersOf ws = front ++ [x] ∧ lx.numbersOf vs = y :: lx.numbersOf vs.tail ∧
      lx.numbersOf (ws ++ vs) = front ++ (x + y) :: lx.numbersOf vs.tail := by
  obtain ⟨w, z, last, first, value, tens, next, units⟩ := meets
  obtain ⟨front, rfl⟩ := List.getLast?_eq_some_iff.1 last
  obtain ⟨rest, rfl⟩ := List.head?_eq_some_iff.1 first
  -- the word for tens completes no number in front of it
  have apart (behind : List (List Char)) (x' y' : Number) :
      ¬ Meets lx front (w :: behind) x' y' := by
    rintro ⟨v, w', -, same, -, -, value', units'⟩
    obtain rfl := Option.some.inj same
    rw [value, Option.some_inj] at value'
    rw [← value', isUnits_of_isTens tens] at units'
    exact Bool.false_ne_true units'
  refine ⟨lx.numbersOf front, ?_, ?_, ?_⟩
  · rw [numbersOf_append (apart [])]
    exact congrArg _ (numbersOf_cons_of_apart value fun _ _ _ => nofun)
  · refine numbersOf_cons_of_apart next fun tens' => ?_
    rw [isUnits_of_isTens tens'] at units
    cases units
  · rw [List.append_assoc, List.singleton_append, numbersOf_append (apart (z :: rest)),
      numbersOf_cons_of_merge value tens next units, List.tail_cons]

end Words

/-! ## The numerals of a text -/

section Digits

variable {s t : List Char} {c : Char}

theorem digitRuns_append_cons (other : c.isDigit = false) :
    digitRuns (s ++ c :: t) = digitRuns s ++ digitRuns t := by
  have splits : (!c.isDigit) = true := by rw [other]; rfl
  rw [digitRuns, List.splitOnP_append_cons (p := fun d => !d.isDigit) s t splits,
    List.filter_append]
  rfl

theorem digitRuns_cons (other : c.isDigit = false) : digitRuns (c :: t) = digitRuns t :=
  digitRuns_append_cons (s := []) other

theorem digitRuns_eq_nil (bare : s.any Char.isDigit = false) : digitRuns s = [] := by
  induction s with
  | nil => rfl
  | cons c s ih =>
      rw [List.any_cons, Bool.or_eq_false_iff] at bare
      rw [digitRuns_cons bare.1, ih bare.2]

end Digits

end VoiceControl.Lexicon

namespace VoiceControl

open VoiceControl.Text

/-- The numerals of a text are its maximal runs of digits, from the left: each stands behind a part
without digits and ends where the text ends or goes on with something else. -/
inductive Numerals : List Char → List Numeral → Prop
  | none {s : List Char} (bare : s.any Char.isDigit = false) : Numerals s []
  | run {rest : List Char} {ks : List Numeral} (gap : List Char)
      (bare : gap.any Char.isDigit = false) (k : Numeral)
      (ends : rest.head?.any Char.isDigit = false) (behind : Numerals rest ks) :
      Numerals (gap ++ k.digits ++ rest) (k :: ks)

namespace Numerals

variable {lx : Lexicon} {s : List Char} {ks : List Numeral} {c : Char}

theorem digitRuns_eq (h : Numerals s ks) : Lexicon.digitRuns s = ks.map Numeral.digits := by
  induction h with
  | none bare => exact Lexicon.digitRuns_eq_nil bare
  | @run rest ks gap bare k ends behind ih =>
      cases rest with
      | nil =>
          rw [List.append_nil, k.digitRuns_append bare, List.map_cons, ← ih]
          rfl
      | cons c rest =>
          -- what follows the run parts it from the rest
          have other : c.isDigit = false := ends
          rw [Lexicon.digitRuns_append_cons other, k.digitRuns_append bare, List.map_cons, ← ih,
            Lexicon.digitRuns_cons other]
          rfl

/-- The numbers of a text with digits are its numerals. -/
theorem numbers_eq (h : Numerals s ks) (digits : s.any Char.isDigit = true) (lx : Lexicon) :
    lx.numbers s = ks.map fun k => (k.value : Number) := by
  rw [Lexicon.numbers, if_pos digits, h.digitRuns_eq, List.map_map]
  rfl

/-- A character that is no digit belongs to the part in front of the first numeral. -/
theorem cons_other (other : c.isDigit = false) (h : Numerals s ks) : Numerals (c :: s) ks := by
  cases h with
  | none bare => exact none (by rw [List.any_cons, other, bare]; rfl)
  | @run rest ks gap bare k ends behind =>
      exact run (c :: gap) (by rw [List.any_cons, other, bare]; rfl) k ends behind

/-- A digit goes with the digits behind it. -/
theorem cons_digit (digit : c.isDigit = true) (h : Numerals s ks) :
    ∃ ks', Numerals (c :: s) ks' := by
  have one : ∀ d ∈ [c], d.isDigit = true := by simpa using digit
  have alone (ends : s.head?.any Char.isDigit = false) :
      Numerals (c :: s) (⟨[c], List.cons_ne_nil c [], one⟩ :: ks) :=
    run [] rfl ⟨[c], List.cons_ne_nil c [], one⟩ ends h
  cases h with
  | none bare =>
      cases s with
      | nil => exact ⟨_, alone rfl⟩
      | cons d s =>
          rw [List.any_cons, Bool.or_eq_false_iff] at bare
          exact ⟨_, alone bare.1⟩
  | @run rest ks gap bare k ends behind =>
      cases gap with
      | nil =>
          have all : ∀ d ∈ c :: k.digits, d.isDigit = true :=
            List.forall_mem_cons.2 ⟨digit, k.all_digit⟩
          exact ⟨_, run [] rfl ⟨c :: k.digits, List.cons_ne_nil c _, all⟩ ends behind⟩
      | cons d gap =>
          rw [List.any_cons, Bool.or_eq_false_iff] at bare
          exact ⟨_, alone bare.1⟩

theorem single {gap rest : List Char} (bare : gap.any Char.isDigit = false) (k : Numeral)
    (behind : rest.any Char.isDigit = false) : Numerals (gap ++ k.digits ++ rest) [k] := by
  refine run gap bare k ?_ (none behind)
  cases rest with
  | nil => rfl
  | cons c rest =>
      rw [List.any_cons, Bool.or_eq_false_iff] at behind
      exact behind.1

/-- Every text has numerals, perhaps none. -/
theorem exists_numerals (s : List Char) : ∃ ks, Numerals s ks := by
  induction s with
  | nil => exact ⟨[], .none rfl⟩
  | cons c s ih =>
      obtain ⟨ks, h⟩ := ih
      cases digit : c.isDigit with
      | true => exact h.cons_digit digit
      | false => exact ⟨ks, h.cons_other digit⟩

end Numerals

/-! ## The numbers of texts -/

namespace Lexicon

variable {lx : Lexicon} {u v r : List Char} {x y : Number}

theorem numbers_of_bare (bare : u.any Char.isDigit = false) :
    lx.numbers u = lx.numbersOf (tokens u) :=
  if_neg (Bool.eq_false_iff.1 bare)

/-- A text without the first word of another has digits only if that has. -/
theorem any_isDigit_of_tail (rest : tokens r = (tokens v).tail)
    (bare : v.any Char.isDigit = false) : r.any Char.isDigit = false := by
  rw [← any_isDigit_tokens, List.any_eq_false] at bare ⊢
  intro w hw
  rw [rest] at hw
  exact bare w (List.mem_of_mem_tail hw)

theorem numbers_append_of_apart (bare_u : u.any Char.isDigit = false)
    (bare_v : v.any Char.isDigit = false) (apart : ∀ x y, ¬ Meets lx (tokens u) (tokens v) x y) :
    lx.numbers (u ++ ' ' :: v) = lx.numbers u ++ lx.numbers v := by
  have bare : (u ++ ' ' :: v).any Char.isDigit = false := by
    rw [List.any_append, List.any_cons, bare_u, bare_v]
    rfl
  rw [numbers_of_bare bare, numbers_of_bare bare_u, numbers_of_bare bare_v, tokens_append_space,
    numbersOf_append apart]

theorem numbers_append_of_meets (bare_u : u.any Char.isDigit = false)
    (bare_v : v.any Char.isDigit = false) (meets : Meets lx (tokens u) (tokens v) x y)
    (rest : tokens r = (tokens v).tail) :
    (lx.numbers u).getLast? = some x ∧ lx.numbers v = y :: lx.numbers r ∧
      lx.numbers (u ++ ' ' :: v) = (lx.numbers u).dropLast ++ (x + y) :: lx.numbers r := by
  have bare : (u ++ ' ' :: v).any Char.isDigit = false := by
    rw [List.any_append, List.any_cons, bare_u, bare_v]
    rfl
  obtain ⟨front, left, right, both⟩ := numbersOf_append_of_meets meets
  rw [numbers_of_bare bare, numbers_of_bare bare_u, numbers_of_bare bare_v,
    numbers_of_bare (any_isDigit_of_tail rest bare_v), tokens_append_space, rest, left, right, both]
  simp

/-- A space keeps the numbers of two texts apart, unless the words on both sides of it are tens and
units: then these make up one number between the numbers in front of the tens and those behind the
units. In a text with digits the numerals are the numbers, and no word counts. -/
theorem numbers_compose (lx : Lexicon) :
    (∀ u v, u.any Char.isDigit = false → v.any Char.isDigit = false →
      ((∀ x y, ¬ Meets lx (tokens u) (tokens v) x y) →
        lx.numbers (u ++ ' ' :: v) = lx.numbers u ++ lx.numbers v) ∧
      ∀ x y, Meets lx (tokens u) (tokens v) x y →
        (∃ r, tokens r = (tokens v).tail) ∧ ∀ r, tokens r = (tokens v).tail →
          (lx.numbers u).getLast? = some x ∧ lx.numbers v = y :: lx.numbers r ∧
          lx.numbers (u ++ ' ' :: v) = (lx.numbers u).dropLast ++ (x + y) :: lx.numbers r) ∧
    (∀ x, (∀ q, x = .finite q → Number.ofRat q = .finite q) →
      (isTens x = true ↔ ∃ k : Nat, 2 ≤ k ∧ k ≤ 9 ∧ x = ((10 * k : Nat) : Number))) ∧
    (∀ x, isUnits x = true ↔ ∃ q : Rat, x = .finite q ∧ 1 ≤ q ∧ q ≤ 9) ∧
    ∀ s, s.any Char.isDigit = true →
      ∃ ks, Numerals s ks ∧ lx.numbers s = ks.map fun k => (k.value : Number) := by
  refine ⟨fun u v bare_u bare_v => ⟨numbers_append_of_apart bare_u bare_v, fun x y meets => ?_⟩,
    fun x => isTens_iff, fun x => isUnits_iff, fun s digits => ?_⟩
  · exact ⟨⟨unwords (tokens v).tail, tokens_unwords (List.tail_subset _)⟩,
      fun r rest => numbers_append_of_meets bare_u bare_v meets rest⟩
  · obtain ⟨ks, numerals⟩ := Numerals.exists_numerals s
    exact ⟨ks, numerals, numerals.numbers_eq digits lx⟩

/-- "Row sixty" and "nine please" are about row 69. -/
theorem numbers_row_sixty_nine :
    let lx := make .bundled [] 0
    Meets lx (tokens "row sixty".toList) (tokens "nine please".toList) 60 9 ∧
      lx.numbers ("row sixty".toList ++ ' ' :: "nine please".toList) = [69] := by
  intro lx
  have meets : Meets lx (tokens "row sixty".toList) (tokens "nine please".toList) 60 9 :=
    ⟨"sixty".toList, "nine".toList, by decide +kernel⟩
  obtain ⟨-, compose⟩ := ((numbers_compose lx).1 "row sixty".toList "nine please".toList (by decide)
    (by decide)).2 60 9 meets
  refine ⟨meets, (compose "please".toList (by decide +kernel)).2.2.trans ?_⟩
  decide +kernel

end Lexicon

end VoiceControl
