import VoiceControl.Speech.Spacing

/-!
# Words and marks put together

Words between single spaces are spaced as they should be, except that a word that starts with a
closing mark goes to the word in front of it without a space.
-/

namespace VoiceControl.Text

/-! ## Texts of words -/

@[simp] theorem unwords_singleton (w : List Char) : unwords [w] = w := by
  simp [unwords]

theorem unwords_cons_cons (w v : List Char) (ws : List (List Char)) :
    unwords (w :: v :: ws) = w ++ ' ' :: unwords (v :: ws) := by
  simp [unwords]

/-- Words with a space in front of each. -/
def spaced : List (List Char) → List Char
  | [] => []
  | w :: ws => ' ' :: unwords (w :: ws)

theorem unwords_cons (w : List Char) (ws : List (List Char)) :
    unwords (w :: ws) = w ++ spaced ws := by
  cases ws with
  | nil => rw [unwords_singleton, spaced, List.append_nil]
  | cons v ws => rw [unwords_cons_cons, spaced]

theorem unwords_append {ws : List (List Char)} (some_ : ws ≠ []) (rest : List (List Char)) :
    unwords (ws ++ rest) = unwords ws ++ spaced rest := by
  induction ws with
  | nil => exact absurd rfl some_
  | cons w ws ih =>
      rw [List.cons_append, unwords_cons, unwords_cons, List.append_assoc]
      cases ws with
      | nil => rfl
      | cons v ws =>
          have tail := ih (List.cons_ne_nil v ws)
          rw [List.cons_append] at tail ⊢
          rw [spaced, spaced, tail]
          rfl

/-- What is attached to the last of some words is attached to their text. -/
theorem unwords_concat (ws : List (List Char)) (w p : List Char) :
    unwords (ws ++ [w ++ p]) = unwords (ws ++ [w]) ++ p := by
  by_cases none_ : ws = []
  · rw [none_, List.nil_append, List.nil_append, unwords_singleton, unwords_singleton]
  · rw [unwords_append none_, unwords_append none_, spaced, spaced, unwords_singleton,
      unwords_singleton, List.append_assoc, List.cons_append]

theorem mem_unwords {c : Char} {ws : List (List Char)} (h : c ∈ unwords ws) :
    (∃ w ∈ ws, c ∈ w) ∨ c = ' ' := by
  induction ws with
  | nil => cases h
  | cons w ws ih =>
      cases ws with
      | nil =>
          rw [unwords_singleton] at h
          exact .inl ⟨w, List.mem_singleton_self w, h⟩
      | cons v ws =>
          rw [unwords_cons_cons] at h
          rcases List.mem_append.1 h with here | there
          · exact .inl ⟨w, List.mem_cons_self, here⟩
          · rcases List.mem_cons.1 there with rfl | later
            · exact .inr rfl
            · rcases ih later with ⟨u, hu, hc⟩ | space
              · exact .inl ⟨u, List.mem_cons_of_mem w hu, hc⟩
              · exact .inr space

theorem mem_unwords_of_mem {c : Char} {w : List Char} {ws : List (List Char)} (hw : w ∈ ws)
    (hc : c ∈ w) : c ∈ unwords ws := by
  induction ws with
  | nil => cases hw
  | cons v ws ih =>
      cases ws with
      | nil =>
          rw [unwords_singleton, ← List.mem_singleton.1 hw]
          exact hc
      | cons u ws =>
          rw [unwords_cons_cons]
          rcases List.mem_cons.1 hw with rfl | later
          · exact List.mem_append_left _ hc
          · exact List.mem_append_right _ (List.mem_cons_of_mem ' ' (ih later))

/-- A word: not empty and without blanks. -/
structure Unbroken (w : List Char) : Prop where
  ne : w ≠ []
  unbroken : ∀ c ∈ w, isBlank c = false

/-- The parts of a split have the characters at which the text is not split. -/
theorem exists_mem_splitOnP_iff {p : Char → Bool} {s : List Char} {c : Char} :
    (∃ w ∈ s.splitOnP p, c ∈ w) ↔ c ∈ s ∧ p c = false := by
  induction s with
  | nil => simp [List.splitOnP_nil]
  | cons d s ih =>
      have rest : (∃ w ∈ (d :: s).splitOnP p, c ∈ w) ↔
          p d = false ∧ c = d ∨ ∃ w ∈ s.splitOnP p, c ∈ w := by
        rw [List.splitOnP_cons_eq_if_modifyHead]
        split
        · rename_i split
          simp [split]
        · rename_i stays
          obtain ⟨v, vs, parts⟩ := List.exists_cons_of_ne_nil (List.splitOnP_ne_nil p s)
          simp [parts, stays, or_assoc]
      rw [rest, ih, List.mem_cons]
      constructor
      · rintro (⟨stays, rfl⟩ | ⟨mem, stays⟩)
        · exact ⟨.inl rfl, stays⟩
        · exact ⟨.inr mem, stays⟩
      · rintro ⟨rfl | mem, stays⟩
        · exact .inl ⟨stays, rfl⟩
        · exact .inr ⟨mem, stays⟩

/-- The words of a text have its characters, but for the blanks. -/
theorem exists_mem_words_iff {s : List Char} {c : Char} :
    (∃ w ∈ words s, c ∈ w) ↔ c ∈ s ∧ isBlank c = false := by
  rw [← exists_mem_splitOnP_iff]
  constructor
  · rintro ⟨w, hw, hc⟩
    exact ⟨w, (List.mem_filter.1 hw).1, hc⟩
  · rintro ⟨w, hw, hc⟩
    have kept : (!w.isEmpty) = true := by simpa using List.ne_nil_of_mem hc
    exact ⟨w, List.mem_filter.2 ⟨hw, kept⟩, hc⟩

theorem unbroken_of_mem_words {s w : List Char} (h : w ∈ words s) : Unbroken w :=
  ⟨ne_nil_of_mem_words h, fun _ hc => (exists_mem_words_iff.1 ⟨w, h, hc⟩).2⟩

theorem words_of_unbroken {w : List Char} (word : Unbroken w) : words w = [w] := by
  have kept : (!w.isEmpty) = true := by simpa using word.ne
  rw [words, List.splitOnP_eq_singleton word.unbroken, List.filter_cons, if_pos kept]
  rfl

/-- The words of a text of words. -/
theorem words_unwords {ws : List (List Char)} (word : ∀ w ∈ ws, Unbroken w) :
    words (unwords ws) = ws := by
  induction ws with
  | nil => rfl
  | cons w ws ih =>
      obtain ⟨ne, unbroken⟩ := word w List.mem_cons_self
      have kept : (!w.isEmpty) = true := by simpa using ne
      cases ws with
      | nil => rw [unwords_singleton, words_of_unbroken ⟨ne, unbroken⟩]
      | cons v ws =>
          rw [unwords_cons_cons, words,
            List.splitOnP_append_cons_of_forall_mem unbroken ' ' (by decide), List.filter_cons,
            if_pos kept]
          exact congrArg (w :: ·) (ih fun u hu => word u (List.mem_cons_of_mem w hu))

/-! ## Gluing -/

/-- Whether a word starts with a closing mark. -/
def opensClosed (w : List Char) : Bool := w.head?.any Spacing.isClosingMark

/-- Words between single spaces, but none in front of a word that starts with a closing mark. -/
def glue : List (List Char) → List Char
  | [] => []
  | [w] => w
  | w :: v :: ws => w ++ if opensClosed v then glue (v :: ws) else ' ' :: glue (v :: ws)

section Gluing

variable {ws : List (List Char)} {w : List Char}

theorem isGap_of_unbroken (word : Unbroken w) {c : Char} (h : c ∈ w) : Spacing.isGap c = false := by
  have blank := word.unbroken c h
  refine Bool.eq_false_iff.2 fun gap => ?_
  have either : c = ' ' ∨ c = '\t' := by simpa [Spacing.isGap] using gap
  rcases either with rfl | rfl <;> exact absurd blank (by decide)

/-- A text of words starts with the first of them. -/
theorem exists_glue_cons (v : List Char) (ws : List (List Char)) :
    ∃ t, glue (v :: ws) = v ++ t := by
  cases ws with
  | nil => exact ⟨[], (List.append_nil v).symm⟩
  | cons u ws => exact ⟨_, rfl⟩

/-- A text of words ends with the last of them. -/
theorem exists_glue_eq_append (some_ : ws ≠ []) : ∃ t, glue ws = t ++ ws.getLast some_ := by
  induction ws with
  | nil => exact absurd rfl some_
  | cons w ws ih =>
      cases ws with
      | nil => exact ⟨[], rfl⟩
      | cons v ws =>
          obtain ⟨t, ht⟩ := ih (List.cons_ne_nil v ws)
          rw [glue, ht, List.getLast_cons (List.cons_ne_nil v ws)]
          split
          · exact ⟨w ++ t, (List.append_assoc w t _).symm⟩
          · exact ⟨w ++ ' ' :: t, by simp⟩

theorem mem_glue {c : Char} (h : c ∈ glue ws) : (∃ w ∈ ws, c ∈ w) ∨ c = ' ' := by
  induction ws with
  | nil => cases h
  | cons w ws ih =>
      cases ws with
      | nil => exact .inl ⟨w, List.mem_cons_self, h⟩
      | cons v ws =>
          have later (h : c ∈ glue (v :: ws)) : (∃ u ∈ w :: v :: ws, c ∈ u) ∨ c = ' ' :=
            (ih h).imp_left fun ⟨u, hu, hc⟩ => ⟨u, List.mem_cons_of_mem w hu, hc⟩
          rw [glue] at h
          rcases List.mem_append.1 h with here | h
          · exact .inl ⟨w, List.mem_cons_self, here⟩
          · split at h
            · exact later h
            · rcases List.mem_cons.1 h with space | h
              · exact .inr space
              · exact later h

/-! ## Spacing -/

/-- A text with an end that stays has nothing to trim. -/
theorem trimBy_eq_self {p : Char → Bool} {s : List Char}
    (front : ∃ c r, s = c :: r ∧ p c = false) (back : ∃ c r, s.reverse = c :: r ∧ p c = false) :
    trimBy p s = s := by
  obtain ⟨c, r, hs, hc⟩ := front
  obtain ⟨d, t, hr, hd⟩ := back
  have first : s.dropWhile p = s := by
    rw [hs, List.dropWhile_cons_of_neg]
    rw [hc]
    exact Bool.false_ne_true
  have last : s.reverse.dropWhile p = s.reverse := by
    rw [hr, List.dropWhile_cons_of_neg]
    rw [hd]
    exact Bool.false_ne_true
  rw [trimBy, first, last, List.reverse_reverse]

theorem closeUp_eq_self {p : Char → Bool} {s : List Char} (none_ : ∀ c ∈ s, p c = false) :
    Spacing.closeUp p s = s := by
  induction s with
  | nil => rfl
  | cons c r ih =>
      have rest := ih fun d hd => none_ d (List.mem_cons_of_mem c hd)
      have next : (r.dropWhile Spacing.isGap).head?.any p = false := by
        cases hd : (r.dropWhile Spacing.isGap).head? with
        | none => rfl
        | some d =>
            have mem : d ∈ r :=
              (List.dropWhile_sublist Spacing.isGap).subset (List.mem_of_mem_head? hd)
            exact none_ d (List.mem_cons_of_mem c mem)
      rw [Spacing.closeUp, next, Bool.and_false, if_neg Bool.false_ne_true, rest]

theorem flushLeft_eq_self {s : List Char} (none_ : ∀ c ∈ s, c ≠ '\n') :
    Spacing.flushLeft false s = s := by
  induction s with
  | nil => rfl
  | cons c r ih =>
      have here : (c == '\n') = false := beq_eq_false_iff_ne.2 (none_ c List.mem_cons_self)
      rw [Spacing.flushLeft, Bool.and_false, if_neg Bool.false_ne_true, here,
        ih fun d hd => none_ d (List.mem_cons_of_mem c hd)]

theorem closeUp_append {p : Char → Bool} (word : Unbroken w) (t : List Char) :
    Spacing.closeUp p (w ++ t) = w ++ Spacing.closeUp p t := by
  have none_ : ∀ c ∈ w, Spacing.isGap c = false := fun c hc => isGap_of_unbroken word hc
  clear word
  induction w with
  | nil => rfl
  | cons c w ih =>
      rw [List.cons_append, Spacing.closeUp, none_ c List.mem_cons_self, Bool.false_and,
        if_neg Bool.false_ne_true, ih fun d hd => none_ d (List.mem_cons_of_mem c hd)]
      rfl

theorem single_append_word (word : Unbroken w) (inGap : Bool) (t : List Char) :
    Spacing.single inGap (w ++ t) = w ++ Spacing.single false t := by
  have none_ : ∀ c ∈ w, Spacing.isGap c = false := fun c hc => isGap_of_unbroken word hc
  obtain ⟨ne, -⟩ := word
  induction w generalizing inGap with
  | nil => exact absurd rfl ne
  | cons c w ih =>
      rw [List.cons_append, Spacing.single, none_ c List.mem_cons_self, if_neg Bool.false_ne_true]
      cases w with
      | nil => rfl
      | cons d w =>
          exact congrArg (c :: ·) (ih false (fun e he => none_ e (List.mem_cons_of_mem c he))
            (List.cons_ne_nil d w))

/-- The space in front of a closing mark is dropped. -/
theorem closeUp_unwords (words : ∀ w ∈ ws, Unbroken w) :
    Spacing.closeUp Spacing.isClosingMark (unwords ws) = glue ws := by
  induction ws with
  | nil => rfl
  | cons w ws ih =>
      have word := words w List.mem_cons_self
      cases ws with
      | nil => simpa [glue, Spacing.closeUp] using closeUp_append word []
      | cons v ws =>
          have rest := ih fun u hu => words u (List.mem_cons_of_mem w hu)
          have next := words v (List.mem_cons_of_mem w List.mem_cons_self)
          have closes : ((unwords (v :: ws)).dropWhile Spacing.isGap).head?.any
              Spacing.isClosingMark = opensClosed v := by
            obtain ⟨c, r, rfl⟩ := List.exists_cons_of_ne_nil next.ne
            rw [unwords_cons, List.cons_append, List.dropWhile_cons,
              isGap_of_unbroken next List.mem_cons_self, if_neg Bool.false_ne_true]
            rfl
          rw [unwords_cons_cons, closeUp_append word, Spacing.closeUp, closes, rest, glue]
          rfl

theorem single_glue (words : ∀ w ∈ ws, Unbroken w) (inGap : Bool) :
    Spacing.single inGap (glue ws) = glue ws := by
  induction ws generalizing inGap with
  | nil => rfl
  | cons w ws ih =>
      have word := words w List.mem_cons_self
      cases ws with
      | nil => simpa [glue, Spacing.single] using single_append_word word inGap []
      | cons v ws =>
          have rest := ih fun u hu => words u (List.mem_cons_of_mem w hu)
          rw [glue, single_append_word word]
          split
          · rw [rest]
          · rw [Spacing.single, if_pos (by decide), if_neg Bool.false_ne_true, rest]

/-- How words between single spaces are spaced. -/
theorem tidy_unwords_eq_glue (words : ∀ w ∈ ws, Unbroken w) :
    Spacing.tidy (unwords ws) = glue ws := by
  by_cases some_ : ws = []
  · rw [some_]
    rfl
  have noBreak : ∀ c ∈ glue ws, c ≠ '\n' := by
    rintro c hc rfl
    rcases mem_glue hc with ⟨w, hw, mem⟩ | space
    · exact absurd ((words w hw).unbroken _ mem) (by decide)
    · exact absurd space (by decide)
  have front : ∃ c r, glue ws = c :: r ∧ Spacing.isGap c = false := by
    obtain ⟨v, vs, rfl⟩ := List.exists_cons_of_ne_nil some_
    obtain ⟨t, ht⟩ := exists_glue_cons v vs
    have word := words v List.mem_cons_self
    obtain ⟨c, r, rfl⟩ := List.exists_cons_of_ne_nil word.ne
    exact ⟨c, r ++ t, ht, isGap_of_unbroken word List.mem_cons_self⟩
  have back : ∃ c r, (glue ws).reverse = c :: r ∧ Spacing.isGap c = false := by
    obtain ⟨t, ht⟩ := exists_glue_eq_append some_
    have word := words _ (List.getLast_mem some_)
    generalize ws.getLast some_ = v at ht word
    obtain ⟨c, r, turned⟩ := List.exists_cons_of_ne_nil (List.reverse_ne_nil_iff.2 word.ne)
    have mem : c ∈ v := by
      rw [← List.mem_reverse, turned]
      exact List.mem_cons_self
    refine ⟨c, r ++ t.reverse, ?_, isGap_of_unbroken word mem⟩
    rw [ht, List.reverse_append, turned]
    rfl
  rw [Spacing.tidy, closeUp_unwords words, single_glue words,
    closeUp_eq_self fun c hc => beq_eq_false_iff_ne.2 (noBreak c hc), flushLeft_eq_self noBreak,
    trimBy_eq_self front back]

/-- Words that do not start with closing marks stay as they are. -/
theorem glue_eq_unwords (open_ : ∀ w ∈ ws, opensClosed w = false) : glue ws = unwords ws := by
  induction ws with
  | nil => rfl
  | cons w ws ih =>
      cases ws with
      | nil => exact (unwords_singleton w).symm
      | cons v ws =>
          have next := open_ v (List.mem_cons_of_mem w List.mem_cons_self)
          rw [glue, next, if_neg Bool.false_ne_true, unwords_cons_cons,
            ih fun u hu => open_ u (List.mem_cons_of_mem w hu)]

end Gluing

end VoiceControl.Text
