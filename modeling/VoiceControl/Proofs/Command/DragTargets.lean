import VoiceControl.Proofs.Text.NumberReaders
import VoiceControl.Proofs.Text.Occurrences

/-!
# The targets of a spoken drag

A drag is two numbers with "to" between them, which may have been heard as "two". A number is
dictated in digits or, below a hundred, by its English name of one or two words. The sides are
parted at the first place where the word between them stands. That is the right place unless the
first number ends in "two" itself and the word between is heard as "two": then the first number
loses its units to the other side.

* `numbers_text`: a dictated number is the only number of its text.
* `dragTargets?_unwords`: the sides of a drag in words.
* `dragTargets?_spoken_iff`: which drags have the targets that were said.
-/

namespace VoiceControl

open VoiceControl.Text

/-! ## Numbers in words -/

/-- The names of the numbers below twenty. -/
def smallNames : List String :=
  ["zero", "one", "two", "three", "four", "five", "six", "seven", "eight", "nine", "ten", "eleven",
    "twelve", "thirteen", "fourteen", "fifteen", "sixteen", "seventeen", "eighteen", "nineteen"]

/-- The names of the tens from twenty on. -/
def tensNames : List String :=
  ["twenty", "thirty", "forty", "fifty", "sixty", "seventy", "eighty", "ninety"]

/-- The name of a number below twenty. -/
def smallName (n : Nat) : List Char := (smallNames.getD n "").toList

/-- The name of so many tens. -/
def tensName (k : Nat) : List Char := (tensNames.getD (k - 2) "").toList

/-- The name of a number below a hundred, word by word. -/
def englishName (n : Nat) : List (List Char) :=
  if n < 20 then [smallName n]
  else if n % 10 = 0 then [tensName (n / 10)]
  else [tensName (n / 10), smallName (n % 10)]

/-- What is true of the names of the small numbers and of the tens is true of the words of every
name. -/
theorem of_mem_englishName {P : List Char → Prop} {n : Nat} {w : List Char}
    (small : ∀ m < 20, P (smallName m)) (tens : ∀ k < 10, 2 ≤ k → P (tensName k)) (below : n < 100)
    (h : w ∈ englishName n) : P w := by
  unfold englishName at h
  split at h
  · rename_i few
    rw [List.mem_singleton.1 h]
    exact small n few
  · have first := tens (n / 10) (by omega) (by omega)
    split at h
    · rw [List.mem_singleton.1 h]
      exact first
    · rcases List.mem_cons.1 h with rfl | h
      · exact first
      · rw [List.mem_singleton.1 h]
        exact small (n % 10) (by omega)

theorem Text.SmallWord.plainWord {w : List Char} (h : SmallWord w) : PlainWord w :=
  ⟨h.ne, fun _ hc => h.isPlain hc⟩

theorem smallWord_of_mem_englishName {n : Nat} {w : List Char} (below : n < 100)
    (h : w ∈ englishName n) : SmallWord w :=
  of_mem_englishName (P := SmallWord) (by decide +kernel) (by decide +kernel) below h

/-- A number as it is dictated: in digits, or by its name. -/
inductive SpokenNumber where
  | numeral (k : Numeral) (exact : k.value < Number.exactLimit)
  | named (n : Nat) (below : n < 100)

namespace SpokenNumber

/-- The number that is meant. -/
def value : SpokenNumber → Nat
  | numeral k _ => k.value
  | named n _ => n

/-- The words that are said. -/
def words : SpokenNumber → List (List Char)
  | numeral k _ => [k.digits]
  | named n _ => englishName n

/-- What is said. -/
def text (a : SpokenNumber) : List Char := unwords a.words

/-- The number as it is reckoned with, which is exact. -/
def number (a : SpokenNumber) : Number := .finite a.value

/-- The number is said as tens and "two". -/
def EndsInTwo : SpokenNumber → Prop
  | numeral .. => False
  | named n _ => 20 ≤ n ∧ n % 10 = 2

variable {a : SpokenNumber} {w : List Char}

theorem plainWord_of_mem (h : w ∈ a.words) : PlainWord w := by
  cases a with
  | numeral k =>
      rw [List.mem_singleton.1 h]
      exact k.plainWord
  | named n below => exact (smallWord_of_mem_englishName below h).plainWord

theorem words_ne_nil (a : SpokenNumber) : a.words ≠ [] := by
  cases a with
  | numeral k => exact List.cons_ne_nil _ _
  | named n =>
      show englishName n ≠ []
      unfold englishName
      split
      · exact List.cons_ne_nil _ _
      · split <;> exact List.cons_ne_nil _ _

theorem to_notMem_words (a : SpokenNumber) : "to".toList ∉ a.words := by
  intro h
  cases a with
  | numeral k =>
      have digit := k.all_digit 't' (List.mem_singleton.1 h ▸ List.mem_cons_self)
      cases digit
  | named n below =>
      exact of_mem_englishName (P := fun w => w ≠ "to".toList) (by decide +kernel)
        (by decide +kernel) below h rfl

/-- "Two" is said behind another word exactly as the units of a number. -/
theorem two_mem_tail_iff : "two".toList ∈ a.words.tail ↔ a.EndsInTwo := by
  cases a with
  | numeral k => exact iff_of_false List.not_mem_nil id
  | named n below =>
      have units : ∀ u < 20, "two".toList = smallName u ↔ u = 2 := by decide +kernel
      show "two".toList ∈ (englishName n).tail ↔ 20 ≤ n ∧ n % 10 = 2
      unfold englishName
      split
      · simp
        omega
      · split
        · simp
          omega
        · rw [List.tail_cons, List.mem_singleton, units _ (by omega)]
          omega

end SpokenNumber

/-! ## Reading numbers in words -/

namespace Lexicon

/-- The words of the English names mean their numbers. -/
structure KnowsEnglish (lx : Lexicon) : Prop where
  small : ∀ n < 20, lx.value? (smallName n) = some (n : Number)
  tens : ∀ k < 10, 2 ≤ k → lx.value? (tensName k) = some ((10 * k : Nat) : Number)

theorem knowsEnglish_bundled (ignored : List String) (threshold : Number) :
    (make .bundled ignored threshold).KnowsEnglish := by
  -- which words are ignored and how alike texts must be has nothing to do with it
  have small : ∀ n < 20, (make .bundled [] 0).value? (smallName n) = some (n : Number) := by
    decide +kernel
  have tens : ∀ k < 10, 2 ≤ k →
      (make .bundled [] 0).value? (tensName k) = some ((10 * k : Nat) : Number) := by
    decide +kernel
  exact ⟨small, tens⟩

variable {lx : Lexicon} {n : Nat} {ws : List (List Char)}

/-- The name of a number below twenty is not of tens, so it is a number of its own. -/
theorem numbersOf_smallName (known : lx.KnowsEnglish) (small : n < 20) :
    lx.numbersOf (smallName n :: ws) = (n : Number) :: lx.numbersOf ws := by
  have apart : ∀ n : Nat, n < 20 → isTens (n : Number) = false := by decide +kernel
  refine numbersOf_cons_of_apart (known.small n small) fun tens => ?_
  rw [apart n small] at tens
  cases tens

/-- The name of a number below a hundred is read as this number. -/
theorem numbersOf_englishName (known : lx.KnowsEnglish) (below : n < 100) :
    lx.numbersOf (englishName n) = [(n : Number)] := by
  unfold englishName
  split
  · rename_i small
    exact numbersOf_smallName known small
  · have tens := known.tens (n / 10) (by omega) (by omega)
    split
    · have whole : 10 * (n / 10) = n := by omega
      rw [numbersOf, tens, whole]
    · have units := known.small (n % 10) (by omega)
      have isTens_ : ∀ k : Nat, k < 10 → 2 ≤ k → isTens ((10 * k : Nat) : Number) = true := by
        decide +kernel
      have isUnits_ : ∀ u : Nat, u < 10 → 0 < u → isUnits (u : Number) = true := by
        decide +kernel
      have sum : ∀ k : Nat, k < 10 → ∀ u : Nat, u < 10 →
          ((10 * k : Nat) : Number) + (u : Number) = ((10 * k + u : Nat) : Number) := by
        decide +kernel
      rw [numbersOf_cons_of_merge tens (isTens_ _ (by omega) (by omega)) units
        (isUnits_ _ (by omega) (by omega)), sum _ (by omega) _ (by omega), Nat.div_add_mod]
      rfl

/-- Words of small letters have no digits, so their numbers are those of the words. -/
theorem numbers_unwords (small : ∀ w ∈ ws, SmallWord w) :
    lx.numbers (unwords ws) = lx.numbersOf ws := by
  have bare : (unwords ws).any Char.isDigit = false := by
    refine List.any_eq_false.2 fun c hc digit => ?_
    rcases mem_unwords hc with ⟨w, hw, hc⟩ | rfl
    · have := (small w hw).toNat hc
      have := (isUncased_of_isDigit digit).2.2
      omega
    · cases digit
  rw [numbers_of_bare bare, tokens, lower_unwords fun w hw => (small w hw).plainWord,
    words_unwords fun w hw => (small w hw).unbroken]

end Lexicon

namespace Command

open SpokenNumber

variable {lx : Lexicon}

/-! ## The sides of a drag -/

/-- A numeral behind other characters is the number of the text, exactly. -/
theorem numbers_append_exact {k : Numeral} {s : List Char} (exact_ : k.value < Number.exactLimit)
    (none_ : s.any Char.isDigit = false) : lx.numbers (s ++ k.digits) = [.finite k.value] := by
  rw [k.numbers_append lx none_, Number.natCast_eq_finite (Nat.le_of_lt exact_)]

/-- A dictated number is the only number of its text. -/
theorem numbers_text (known : lx.KnowsEnglish) (a : SpokenNumber) :
    lx.numbers a.text = [a.number] := by
  cases a with
  | numeral k exact_ =>
      rw [text, SpokenNumber.words, unwords_singleton]
      exact numbers_append_exact (s := []) exact_ rfl
  | named n below =>
      have few : n ≤ Number.exactLimit := Nat.le_trans (Nat.le_of_lt below) (by decide)
      rw [text, SpokenNumber.words,
        Lexicon.numbers_unwords fun w hw => smallWord_of_mem_englishName below hw,
        Lexicon.numbersOf_englishName known below, Number.natCast_eq_finite few]
      rfl

theorem dragSide?_text (known : lx.KnowsEnglish) (a : SpokenNumber) :
    dragSide? lx a.text = some a.number := by
  have plain : Utterance.plain a.text = a.text :=
    plain_unwords (fun w hw => plainWord_of_mem hw) a.words_ne_nil
  rw [dragSide?, plain, numbers_text known]

/-- Behind a "two" of its own, a numeral still is the only number, and a name is not. -/
theorem dragSide?_two (known : lx.KnowsEnglish) (a : SpokenNumber) :
    dragSide? lx (unwords ("two".toList :: a.words)) =
      match a with
      | .numeral .. => some a.number
      | .named .. => none := by
  have words : ∀ w ∈ "two".toList :: a.words, PlainWord w :=
    List.forall_mem_cons.2 ⟨by decide, fun w hw => plainWord_of_mem hw⟩
  rw [dragSide?, plain_unwords words (List.cons_ne_nil _ _)]
  cases a with
  | numeral k exact_ =>
      have spoken : unwords ["two".toList, k.digits] = "two ".toList ++ k.digits := by
        rw [unwords_cons_cons, unwords_singleton]
        rfl
      rw [SpokenNumber.words, spoken, numbers_append_exact exact_ rfl]
      rfl
  | named n below =>
      have small : ∀ w ∈ "two".toList :: englishName n, SmallWord w :=
        List.forall_mem_cons.2 ⟨by decide, fun w hw => smallWord_of_mem_englishName below hw⟩
      have two : "two".toList = smallName 2 := rfl
      rw [SpokenNumber.words, Lexicon.numbers_unwords small, two,
        Lexicon.numbersOf_smallName known (by decide), Lexicon.numbersOf_englishName known below]

/-! ## Drags -/

/-- The sides of a drag in words stand before and behind the first "to" behind the first word, or
the first such "two" if there is no "to". -/
theorem dragTargets?_unwords {front back : List (List Char)} {w : List Char}
    (plain : ∀ v ∈ front ++ w :: back, PlainWord v) (some_ : front ≠ []) (more : back ≠ [])
    (fresh : w ∉ front.tail)
    (chosen : w = "to".toList ∨ w = "two".toList ∧ "to".toList ∉ front ++ w :: back) :
    dragTargets? lx (String.ofList (unwords (front ++ w :: back))) =
      do return (← dragSide? lx (unwords front), ← dragSide? lx (unwords back)) := by
  have nonempty : front ++ w :: back ≠ [] := List.append_ne_nil_of_left_ne_nil some_ _
  have clean : trim (lower (unwords (front ++ w :: back))) = unwords (front ++ w :: back) := by
    rw [lower_unwords plain]
    exact trimBy_unwords (fun _ h => isBlank_of_isPlain h) plain nonempty
  have word : Unbroken w := (plain w (by simp)).unbroken
  have split : splitAt? (' ' :: (w ++ [' '])) (unwords (front ++ w :: back)) =
      some (unwords front, unwords back) :=
    splitAt?_unwords word (fun v hv => (plain v (List.mem_append_left _ hv)).unbroken) some_ fresh
      more
  have separator : dragSeparator? (unwords (front ++ w :: back)) = some (' ' :: (w ++ [' '])) := by
    rcases chosen with rfl | ⟨rfl, none_⟩
    · have found : mentions " to " (unwords (front ++ "to".toList :: back)) = true :=
        Option.isSome_iff_exists.2 ⟨_, split⟩
      rw [dragSeparator?, dragSeparators, List.find?_cons, found]
      rfl
    · have missed : mentions " to " (unwords (front ++ "two".toList :: back)) = false := by
        have unsplit := splitAt?_unwords_eq_none
          (SmallWord.unbroken (w := "to".toList) (by decide))
          (fun v hv => (plain v hv).unbroken) none_
        rw [mentions, occursIn, Option.isSome_eq_false_iff, Option.isNone_iff_eq_none]
        exact unsplit
      have found : mentions " two " (unwords (front ++ "two".toList :: back)) = true :=
        Option.isSome_iff_exists.2 ⟨_, split⟩
      rw [dragSeparator?, dragSeparators, List.find?_cons, missed, List.find?_cons, found]
      rfl
  rw [dragTargets?, String.toList_ofList, clean]
  dsimp only
  rw [separator]
  show (splitAt? (' ' :: (w ++ [' '])) (unwords (front ++ w :: back))).bind _ = _
  rw [split]
  rfl

/-- The words of a drag from one dictated number to another. -/
theorem text_append_text (a b : SpokenNumber) (w : List Char) :
    a.text ++ (' ' :: (w ++ [' '])) ++ b.text = unwords (a.words ++ w :: b.words) := by
  have behind : unwords (w :: b.words) = w ++ ' ' :: b.text := by
    obtain ⟨v, vs, words⟩ := List.exists_cons_of_ne_nil b.words_ne_nil
    rw [text, words, unwords_cons_cons]
  rw [unwords_append a.words_ne_nil, spaced, behind, text]
  simp only [List.append_assoc, List.cons_append, List.nil_append]

theorem plainWord_of_mem_drag {a b : SpokenNumber} {w v : List Char} (plain : PlainWord w)
    (h : v ∈ a.words ++ w :: b.words) : PlainWord v := by
  rcases List.mem_append.1 h with first | h
  · exact plainWord_of_mem first
  · rcases List.mem_cons.1 h with rfl | second
    · exact plain
    · exact plainWord_of_mem second

theorem to_notMem_drag (a b : SpokenNumber) :
    "to".toList ∉ a.words ++ "two".toList :: b.words := by
  simp only [List.mem_append, List.mem_cons, not_or]
  exact ⟨a.to_notMem_words, by decide, b.to_notMem_words⟩

/-- Where the word between stands first, the targets are the numbers that were said. -/
theorem dragTargets?_text {w : List Char} (known : lx.KnowsEnglish) (a b : SpokenNumber)
    (plain : PlainWord w) (fresh : w ∉ a.words.tail)
    (chosen : w = "to".toList ∨ w = "two".toList ∧ "to".toList ∉ a.words ++ w :: b.words) :
    dragTargets? lx (String.ofList (a.text ++ (' ' :: (w ++ [' '])) ++ b.text)) =
      some (a.number, b.number) := by
  rw [text_append_text, dragTargets?_unwords (fun v hv => plainWord_of_mem_drag plain hv)
    a.words_ne_nil b.words_ne_nil fresh chosen, ← text, ← text, dragSide?_text known,
    dragSide?_text known]
  rfl

/-- Where the first number ends in "two" and the word between is heard as "two", the sides are
parted in front of the units. -/
theorem dragTargets?_of_endsInTwo {n : Nat} (known : lx.KnowsEnglish) (below : n < 100)
    (two : (named n below).EndsInTwo) (b : SpokenNumber) :
    dragTargets? lx (String.ofList ((named n below).text ++ " two ".toList ++ b.text)) =
      match b with
      | .numeral .. => some (.finite (n - 2 : Nat), b.number)
      | .named .. => none := by
  obtain ⟨large, units⟩ : 20 ≤ n ∧ n % 10 = 2 := two
  let tens : SpokenNumber := named (n - 2) (by omega)
  have tens_words : tens.words = [tensName (n / 10)] := by
    show englishName (n - 2) = _
    rw [englishName, if_neg (by omega), if_pos (by omega), show (n - 2) / 10 = n / 10 by omega]
  have words : (named n below).words = tens.words ++ ["two".toList] := by
    rw [tens_words]
    show englishName n = _
    rw [englishName, if_neg (by omega), if_neg (by omega), units]
    rfl
  have spoken : (named n below).text ++ " two ".toList ++ b.text =
      unwords (tens.words ++ "two".toList :: ("two".toList :: b.words)) := by
    refine (text_append_text (named n below) b "two".toList).trans ?_
    rw [words, List.append_assoc, List.singleton_append]
  have plain : ∀ v ∈ tens.words ++ "two".toList :: ("two".toList :: b.words), PlainWord v := by
    intro v hv
    refine plainWord_of_mem_drag (a := named n below) (b := b) (w := "two".toList) (by decide) ?_
    rwa [words, List.append_assoc, List.singleton_append]
  have noTo := to_notMem_drag (named n below) b
  rw [words, List.append_assoc, List.singleton_append] at noTo
  have fresh : "two".toList ∉ tens.words.tail := by
    rw [tens_words]
    exact List.not_mem_nil
  rw [spoken, dragTargets?_unwords plain tens.words_ne_nil (List.cons_ne_nil _ _) fresh
    (.inr ⟨rfl, noTo⟩), ← text, dragSide?_text known, dragSide?_two known]
  cases b <;> rfl

/-- Such a drag does not start where it was said to, as the number is not its own tens. -/
theorem dragTargets?_ne_of_endsInTwo {a : SpokenNumber} (known : lx.KnowsEnglish)
    (two : a.EndsInTwo) (b : SpokenNumber) :
    dragTargets? lx (String.ofList (a.text ++ " two ".toList ++ b.text)) ≠
      some (a.number, b.number) := by
  intro targets
  cases a with
  | numeral => exact two
  | named n below =>
      have large : 20 ≤ n := two.1
      rw [dragTargets?_of_endsInTwo known below two b] at targets
      cases b with
      | named => cases targets
      | numeral k =>
          simp only [Option.some.injEq, Prod.mk.injEq, number, value, Number.finite.injEq,
            and_true, Nat.cast_inj] at targets
          omega

/-- The targets of a drag between dictated numbers are the numbers, except where the word between
is heard as "two" behind a number that ends in "two". -/
theorem dragTargets?_eq_iff (known : lx.KnowsEnglish) (a b : SpokenNumber) {separator : String}
    (separates : separator ∈ dragSeparators) :
    dragTargets? lx (String.ofList (a.text ++ separator.toList ++ b.text)) =
        some (a.number, b.number) ↔
      ¬ (separator = " two " ∧ a.EndsInTwo) := by
  simp only [dragSeparators, List.mem_cons, List.not_mem_nil, or_false] at separates
  rcases separates with rfl | rfl
  · have fresh : "to".toList ∉ a.words.tail := fun h => a.to_notMem_words (List.mem_of_mem_tail h)
    have other : ¬ (" to " = " two " ∧ a.EndsInTwo) := fun same => absurd same.1 (by decide)
    have right := dragTargets?_text (w := "to".toList) known a b (by decide) fresh (.inl rfl)
    exact iff_of_true right other
  · refine ⟨fun targets two => dragTargets?_ne_of_endsInTwo known two.2 b targets, fun other => ?_⟩
    have fresh : "two".toList ∉ a.words.tail := fun h => other ⟨rfl, two_mem_tail_iff.1 h⟩
    exact dragTargets?_text (w := "two".toList) known a b (by decide) fresh
      (.inr ⟨rfl, to_notMem_drag a b⟩)

/-- With the words for numbers that come with the program, a drag from one dictated number to
another has these targets, whether the word between is "to" or is heard as "two", except where it is
heard as "two" and the first number ends in "two" as well. In that case the first number loses its
units, and the other side has two numbers unless it is said in digits. -/
theorem dragTargets?_spoken_iff (ignored : List String) (threshold : Number) (a b : SpokenNumber) :
    let lx := Lexicon.make .bundled ignored threshold
    let said (separator : String) := String.ofList (a.text ++ separator.toList ++ b.text)
    (∀ separator ∈ dragSeparators,
      dragTargets? lx (said separator) = some (a.number, b.number) ↔
        ¬ (separator = " two " ∧ a.EndsInTwo)) ∧
    (a.EndsInTwo → dragTargets? lx (said " two ") =
      match b with
      | .numeral .. => some (.finite (a.value - 2 : Nat), b.number)
      | .named .. => none) := by
  have known := Lexicon.knowsEnglish_bundled ignored threshold
  refine ⟨fun separator separates => dragTargets?_eq_iff known a b separates, fun two => ?_⟩
  cases a with
  | numeral => exact two.elim
  | named n below => exact dragTargets?_of_endsInTwo known below two b

theorem dragTargets?_spoken_forty_two_and_five :
    let lx := Lexicon.make .bundled defaultIgnoredWords defaultThreshold
    let a : SpokenNumber := .named 42 (by decide)
    let five : Numeral := ⟨['5'], by decide, List.all_eq_true.1 rfl⟩
    let b : SpokenNumber := .numeral five (by decide)
    let said (separator : String) := String.ofList (a.text ++ separator.toList ++ b.text)
    (" to " ∈ dragSeparators ∧ dragTargets? lx (said " to ") = some (.finite 42, .finite 5)) ∧
      a.EndsInTwo ∧ dragTargets? lx (said " two ") = some (.finite (42 - 2 : Nat), .finite 5) := by
  intro lx a five b said
  have spoken := dragTargets?_spoken_iff defaultIgnoredWords defaultThreshold a b
  have separates : " to " ∈ dragSeparators := by decide
  have two : a.EndsInTwo := ⟨by decide, by decide⟩
  have other : ¬ (" to " = " two " ∧ a.EndsInTwo) := fun same => absurd same.1 (by decide)
  exact ⟨⟨separates, (spoken.1 " to " separates).2 other⟩, two, spoken.2 two⟩

/-- "Forty two to 5", heard with another "two", drags from 40. -/
theorem drag_from_forty_two_heard_from_forty :
    let lx := Lexicon.make .bundled defaultIgnoredWords defaultThreshold
    let five : Numeral := ⟨['5'], by decide, List.all_eq_true.1 rfl⟩
    let a : SpokenNumber := .named 42 (by decide)
    let b : SpokenNumber := .numeral five (by decide)
    let said := String.ofList (a.text ++ " two ".toList ++ b.text)
    said = "forty two two 5" ∧ " two " ∈ dragSeparators ∧
      dragTargets? lx said = some (40, 5) ∧ dragTargets? lx said ≠ some (a.number, b.number) := by
  decide +kernel

end Command

end VoiceControl
