import VoiceControl.Proofs.Text.TrailingMarks

/-!
# Where a text occurs

A text without blanks occurs in another one exactly if it occurs inside one of its words, since no
occurrence can reach over a blank. A word with a space on either side is found among words behind
the first of them, where it stands first.

* `occursIn_iff_exists_mem_words`: occurrences word by word.
* `splitAt?_unwords`: words are split at a word.
-/

namespace VoiceControl.Text

/-! ## Inside words -/

section Inside

variable {needle s t u w : List Char}

theorem occursIn_iff_isInfix : occursIn needle s = true ↔ needle <:+: s := by
  constructor
  · intro found
    obtain ⟨⟨before, rest⟩, split⟩ := Option.isSome_iff_exists.1 found
    exact ⟨before, rest, (eq_of_splitAt? split).symm⟩
  · rintro ⟨before, rest, rfl⟩
    exact occursIn_append needle before rest

/-- The first part of a split text starts it, and the others lie inside. -/
theorem exists_splitOnP_eq_cons (p : Char → Bool) (s : List Char) :
    ∃ first rest, s.splitOnP p = first :: rest ∧ first <+: s ∧ ∀ part ∈ rest, part <:+: s := by
  induction s with
  | nil => exact ⟨[], [], List.splitOnP_nil, List.prefix_rfl, nofun⟩
  | cons c s ih =>
      obtain ⟨first, rest, split, start, inside⟩ := ih
      have further : ∀ part ∈ rest, part <:+: c :: s :=
        fun part h => List.infix_cons (inside part h)
      rw [List.splitOnP_cons_eq_if_modifyHead, split]
      by_cases here : p c = true
      · rw [if_pos here]
        refine ⟨[], first :: rest, rfl, List.nil_prefix, List.forall_mem_cons.2 ⟨?_, further⟩⟩
        exact List.infix_cons start.isInfix
      · rw [if_neg here]
        exact ⟨c :: first, rest, rfl, (List.prefix_cons_inj c).2 start, further⟩

theorem isInfix_of_mem_words (h : w ∈ words s) : w <:+: s := by
  obtain ⟨first, rest, split, start, inside⟩ := exists_splitOnP_eq_cons isBlank s
  have part := (List.mem_filter.1 h).1
  rw [split] at part
  rcases List.mem_cons.1 part with rfl | later
  · exact start.isInfix
  · exact inside w later

/-- What goes on without a blank goes on with the same word. -/
theorem append_takeWhile_mem_words (word : Unbroken u) (t : List Char) :
    u ++ t.takeWhile (fun c => !isBlank c) ∈ words (u ++ t) := by
  have solid : Unbroken (u ++ t.takeWhile fun c => !isBlank c) := by
    refine ⟨List.append_ne_nil_of_left_ne_nil word.ne _, fun c hc => ?_⟩
    rcases List.mem_append.1 hc with old | new
    · exact word.unbroken c old
    · simpa using List.mem_takeWhile_imp new
  have whole :
      u ++ t = (u ++ t.takeWhile fun c => !isBlank c) ++ t.dropWhile fun c => !isBlank c := by
    rw [List.append_assoc, List.takeWhile_append_dropWhile]
  generalize u ++ t.takeWhile (fun c => !isBlank c) = v at solid whole ⊢
  rw [whole]
  cases behind : t.dropWhile fun c => !isBlank c with
  | nil =>
      rw [List.append_nil, words_of_unbroken solid]
      exact List.mem_singleton_self v
  | cons c r =>
      have blank : isBlank c = true := by
        have stops := List.head?_dropWhile_not (fun c => !isBlank c) t
        rw [behind] at stops
        simpa using stops
      rw [words_append_blank blank, words_of_unbroken solid]
      exact List.mem_append_left _ (List.mem_singleton_self v)

/-- A text without blanks occurs exactly where it occurs inside a word. -/
theorem occursIn_iff_exists_mem_words (solid : Unbroken needle) :
    occursIn needle s = true ↔ ∃ w ∈ words s, occursIn needle w = true := by
  simp only [occursIn_iff_isInfix]
  constructor
  · rintro ⟨before, rest, rfl⟩
    obtain ⟨front, u, unbroken, -, split⟩ := exists_words_append before
    have word : Unbroken (u ++ needle) := by
      refine ⟨List.append_ne_nil_of_right_ne_nil u solid.ne, fun c hc => ?_⟩
      exact (List.mem_append.1 hc).elim (unbroken c) (solid.unbroken c)
    refine ⟨_, ?_, u, rest.takeWhile fun c => !isBlank c, rfl⟩
    rw [List.append_assoc, split, ← List.append_assoc]
    exact List.mem_append_right front (append_takeWhile_mem_words word rest)
  · rintro ⟨w, hw, inside⟩
    exact inside.trans (isInfix_of_mem_words hw)

end Inside

/-! ## Between words -/

section Between

variable {n s t u v w : List Char} {front back us ws : List (List Char)}

theorem ne_space_of_unbroken (word : Unbroken w) {c : Char} (h : c ∈ w) : ' ' ≠ c := by
  rintro rfl
  exact absurd (word.unbroken ' ' h) (by decide)

/-- What starts with a space is not found inside a word, but behind it or further on. -/
theorem splitAt?_word (word : Unbroken v) (n t : List Char) :
    splitAt? (' ' :: n) (v ++ ' ' :: t) =
      match after? n t with
      | some rest => some (v, rest)
      | none => (splitAt? (' ' :: n) t).map fun (before, rest) => (v ++ ' ' :: before, rest) := by
  have other : ∀ c ∈ v, ' ' ≠ c := fun c hc => ne_space_of_unbroken word hc
  clear word
  induction v with
  | nil =>
      rw [List.nil_append, splitAt?, after?, if_pos rfl]
      rfl
  | cons c v ih =>
      obtain ⟨here, rest⟩ := List.forall_mem_cons.1 other
      rw [List.cons_append, splitAt?, after?, if_neg here, ih rest]
      cases after? n t with
      | some r => rfl
      | none => simp [Option.map_map, Function.comp_def]

theorem splitAt?_of_unbroken (word : Unbroken v) (n : List Char) :
    splitAt? (' ' :: n) v = none := by
  have other : ∀ c ∈ v, ' ' ≠ c := fun c hc => ne_space_of_unbroken word hc
  clear word
  induction v with
  | nil => rfl
  | cons c v ih =>
      obtain ⟨here, rest⟩ := List.forall_mem_cons.1 other
      rw [splitAt?, after?, if_neg here, ih rest]
      rfl

/-- The first of some words is another one, or words follow it. -/
theorem after?_unwords (word : Unbroken w) (first : Unbroken u) :
    after? (w ++ [' ']) (unwords (u :: us)) =
      if u = w ∧ us ≠ [] then some (unwords us) else none := by
  have inside : ∀ c ∈ w, ' ' ≠ c := fun c hc => ne_space_of_unbroken word hc
  have inside' : ∀ c ∈ u, ' ' ≠ c := fun c hc => ne_space_of_unbroken first hc
  clear word first
  induction w generalizing u with
  | nil =>
      cases u with
      | nil =>
          cases us with
          | nil => rfl
          | cons x us => simp [unwords_cons_cons, after?]
      | cons c u =>
          rw [unwords_cons, List.cons_append, List.nil_append, after?,
            if_neg (inside' c List.mem_cons_self), if_neg]
          rintro ⟨same, -⟩
          cases same
  | cons a w ih =>
      obtain ⟨here, later⟩ := List.forall_mem_cons.1 inside
      cases u with
      | nil =>
          cases us with
          | nil => simp [after?]
          | cons x us => simp [unwords_cons_cons, after?, here.symm]
      | cons c u =>
          obtain ⟨-, later'⟩ := List.forall_mem_cons.1 inside'
          have rest := ih later later'
          rw [unwords_cons] at rest ⊢
          rw [List.cons_append, List.cons_append, after?, rest]
          by_cases same : a = c
          · simp [same]
          · simp [same, Ne.symm same]

/-- Words in which a word does not occur are not split at it. -/
theorem splitAt?_unwords_eq_none (word : Unbroken w) (solid : ∀ v ∈ ws, Unbroken v)
    (fresh : w ∉ ws) : splitAt? (' ' :: (w ++ [' '])) (unwords ws) = none := by
  induction ws with
  | nil => rfl
  | cons v ws ih =>
      obtain ⟨first, solid⟩ := List.forall_mem_cons.1 solid
      cases ws with
      | nil =>
          rw [unwords_singleton]
          exact splitAt?_of_unbroken first _
      | cons u us =>
          obtain ⟨-, other⟩ := not_or.1 (mt List.mem_cons.2 fresh)
          have missed : ¬ (u = w ∧ us ≠ []) := fun same => other (same.1 ▸ List.mem_cons_self)
          rw [unwords_cons_cons, splitAt?_word first,
            after?_unwords word (solid u List.mem_cons_self), if_neg missed, ih solid other]
          rfl

/-- Words are split at the first place behind the first of them where a word stands. -/
theorem splitAt?_unwords (word : Unbroken w) (solid : ∀ v ∈ front, Unbroken v)
    (some_ : front ≠ []) (fresh : w ∉ front.tail) (more : back ≠ []) :
    splitAt? (' ' :: (w ++ [' '])) (unwords (front ++ w :: back)) =
      some (unwords front, unwords back) := by
  induction front with
  | nil => exact absurd rfl some_
  | cons v front ih =>
      obtain ⟨first, solid⟩ := List.forall_mem_cons.1 solid
      cases front with
      | nil =>
          rw [List.singleton_append, unwords_cons_cons, splitAt?_word first,
            after?_unwords word word, if_pos ⟨rfl, more⟩, unwords_singleton]
      | cons u us =>
          obtain ⟨here, further⟩ := not_or.1 (mt List.mem_cons.2 fresh)
          have missed : ¬ (u = w ∧ us ++ w :: back ≠ []) := fun same => here same.1.symm
          have later := ih solid (List.cons_ne_nil u us) further
          rw [List.cons_append] at later
          rw [List.cons_append, List.cons_append, unwords_cons_cons, splitAt?_word first,
            after?_unwords word (solid u List.mem_cons_self), if_neg missed, later,
            unwords_cons_cons]
          rfl

end Between

end VoiceControl.Text
