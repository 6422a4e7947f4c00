import VoiceControl.Proofs.Text.PlainForm
import VoiceControl.Proofs.Text.WordPhrases

/-!
# Spoken marks

Some of the words of an utterance may be words for marks. Replacing these phrases in a text of words
is reading the words one after the other and writing marks for those that are spoken marks. Spaced
as text is, what commands see of the result is what they see of the other words alone.

* `pieces`: the words of an utterance read for spoken marks.
* `replaceFrom_unwords`: replacing the phrases in a text of words is reading the words.
* `plain_glue`: what commands see of an utterance with marks.
-/

namespace VoiceControl.Text

/-! ## Spoken marks -/

/-- A mark with the words for it. -/
structure SpokenMark where
  words : List (List Char)
  mark : List Char

/-- A word of an utterance or a spoken mark. -/
inductive Piece where
  | word (w : List Char)
  | mark (m : SpokenMark)

namespace Piece

/-- What is written for a piece. -/
def text : Piece → List Char
  | word w => w
  | mark m => m.mark

/-- The word, if a piece is one. -/
def word? : Piece → Option (List Char)
  | word w => some w
  | mark _ => none

end Piece

/-- The mark that some words start with. -/
def firstMark? (marks : List SpokenMark) (ws : List (List Char)) : Option SpokenMark :=
  marks.find? fun m => (afterWords? m.words ws).isSome

/-- Reads words for spoken marks; of the words, `skip` were read already. -/
def pieces (marks : List SpokenMark) : (skip : Nat) → List (List Char) → List Piece
  | _, [] => []
  | n + 1, _ :: ws => pieces marks n ws
  | 0, w :: ws =>
      match firstMark? marks (w :: ws) with
      | some m => .mark m :: pieces marks (m.words.length - 1) ws
      | none => .word w :: pieces marks 0 ws

/-- The phrases of a table of spoken marks. -/
def phrases (marks : List SpokenMark) : List (List Char) := marks.map fun m => unwords m.words

/-- The words for marks are words. -/
def Pronounceable (marks : List SpokenMark) : Prop :=
  ∀ m ∈ marks, m.words ≠ [] ∧ ∀ v ∈ m.words, Lettered v

/-- What is put in the place of a phrase is the mark, however the phrase is written. -/
def Speaks (marks : List SpokenMark) (replacement : List Char → List Char) : Prop :=
  ∀ m ∈ marks, ∀ said : List (List Char), (∀ w ∈ said, Lettered w) →
    afterWords? m.words said = some [] → replacement (unwords said) = m.mark

section Replacing

variable {marks : List SpokenMark} {f : List Char → List Char} {ws : List (List Char)}
  {before : Option Char}

/-- The words of the mark that is read come first. -/
theorem of_firstMark? {m : SpokenMark} (h : firstMark? marks ws = some m) :
    m ∈ marks ∧ ∃ said rest, ws = said ++ rest ∧ said.length = m.words.length ∧
      afterWords? m.words said = some [] := by
  have heard : (afterWords? m.words ws).isSome = true :=
    List.find?_some (p := fun m : SpokenMark => (afterWords? m.words ws).isSome) h
  obtain ⟨rest, heard⟩ := Option.isSome_iff_exists.1 heard
  obtain ⟨said, split, count, whole⟩ := exists_of_afterWords? heard
  exact ⟨List.mem_of_find?_eq_some h, said, rest, split, count, whole⟩

theorem first?_unwords (table : Pronounceable marks) (lettered : ∀ w ∈ ws, Lettered w)
    (start : Phrase.inWord before = false) :
    Phrase.first? (phrases marks) before (unwords ws) =
      (firstMark? marks ws).map fun m => unwords (ws.take m.words.length) := by
  induction marks with
  | nil => rfl
  | cons m marks ih =>
      obtain ⟨some_, words⟩ := table m List.mem_cons_self
      have rest := ih fun n hn => table n (List.mem_cons_of_mem m hn)
      rw [Phrase.first?] at rest
      rw [phrases, List.map_cons, Phrase.first?, List.findSome?_cons,
        found?_unwords start some_ words lettered, firstMark?, List.find?_cons]
      cases (afterWords? m.words ws).isSome with
      | true => rfl
      | false => exact rest

/-- No phrase starts with a space or at the end. -/
theorem first?_spaced (table : Pronounceable marks) (before : Option Char)
    (ws : List (List Char)) : Phrase.first? (phrases marks) before (spaced ws) = none := by
  refine List.findSome?_eq_none_iff.2 fun p hp => ?_
  obtain ⟨m, hm, rfl⟩ := List.mem_map.1 hp
  obtain ⟨some_, words⟩ := table m hm
  obtain ⟨v, vs, hv⟩ := List.exists_cons_of_ne_nil some_
  have word := words v (by rw [hv]; exact List.mem_cons_self)
  obtain ⟨a, v', rfl⟩ := List.exists_cons_of_ne_nil word.ne
  have none_ : afterCaseless? (unwords m.words) (spaced ws) = none := by
    rw [hv, unwords_cons, List.cons_append]
    cases ws with
    | nil => rfl
    | cons w ws =>
        rw [spaced, afterCaseless?, if_neg (caseKey_ne_space (word.letters a List.mem_cons_self))]
  rw [Phrase.found?, none_]

/-- No phrase starts inside a word. -/
theorem first?_inside {p : List (List Char)} {c d : Char} (hc : isWordChar c = true)
    (hd : isWordChar d = true) (t : List Char) :
    Phrase.first? p (some c) (d :: t) = none := by
  refine List.findSome?_eq_none_iff.2 fun q _ => ?_
  have inside : Phrase.isBoundary (some c) (d :: t).head? = false := by
    show (isWordChar c != isWordChar d) = false
    rw [hc, hd]
    rfl
  rw [Phrase.found?]
  split
  · rw [inside, Bool.false_and, if_neg Bool.false_ne_true]
  · rfl

theorem replaceFrom_spaced (table : Pronounceable marks) (before : Option Char)
    (ws : List (List Char)) :
    Phrase.replaceFrom (phrases marks) f before 0 (spaced ws) =
      if ws = [] then []
      else ' ' :: Phrase.replaceFrom (phrases marks) f (some ' ') 0 (unwords ws) := by
  have none_ := first?_spaced table before ws
  cases ws with
  | nil =>
      rw [spaced] at none_ ⊢
      rw [Phrase.replaceFrom, none_]
      rfl
  | cons w ws =>
      rw [spaced] at none_ ⊢
      rw [Phrase.replaceFrom, none_]
      rfl

/-- The rest of a word stays as it is. -/
theorem replaceFrom_inside {p : List (List Char)} {c : Char} {w : List Char}
    (hc : isWordChar c = true) (hw : ∀ d ∈ w, isWordChar d = true) (t : List Char) :
    ∃ d, Phrase.replaceFrom p f (some c) 0 (w ++ t) =
      w ++ Phrase.replaceFrom p f (some d) 0 t := by
  induction w generalizing c with
  | nil => exact ⟨c, rfl⟩
  | cons d w ih =>
      have hd := hw d List.mem_cons_self
      obtain ⟨e, he⟩ := ih hd fun x hx => hw x (List.mem_cons_of_mem d hx)
      refine ⟨e, ?_⟩
      rw [List.cons_append, Phrase.replaceFrom, first?_inside hc hd]
      exact congrArg (d :: ·) he

/-- What was found already is passed over. -/
theorem replaceFrom_skip {p : List (List Char)} (c : Char) (u t : List Char) :
    ∃ d, Phrase.replaceFrom p f (some c) u.length (u ++ t) =
      Phrase.replaceFrom p f (some d) 0 t := by
  induction u generalizing c with
  | nil => exact ⟨c, rfl⟩
  | cons a u ih =>
      obtain ⟨d, hd⟩ := ih a
      exact ⟨d, by rw [List.length_cons, List.cons_append, Phrase.replaceFrom, hd]⟩

/-- A piece of an utterance is one of its words or a mark. -/
theorem mem_pieces {n : Nat} {p : Piece}
    (h : p ∈ pieces marks n ws) : (∃ w ∈ ws, p = .word w) ∨ ∃ m ∈ marks, p = .mark m := by
  induction ws generalizing n with
  | nil => cases n <;> cases h
  | cons w ws ih =>
      have later {n : Nat} (h : p ∈ pieces marks n ws) :
          (∃ v ∈ w :: ws, p = .word v) ∨ ∃ m ∈ marks, p = .mark m :=
        (ih h).imp_left fun ⟨v, hv, word⟩ => ⟨v, List.mem_cons_of_mem w hv, word⟩
      cases n with
      | succ n => exact later h
      | zero =>
          rw [pieces] at h
          split at h
          · rename_i m found
            rcases List.mem_cons.1 h with rfl | h
            · exact .inr ⟨m, (of_firstMark? found).1, rfl⟩
            · exact later h
          · rcases List.mem_cons.1 h with rfl | h
            · exact .inl ⟨w, List.mem_cons_self, rfl⟩
            · exact later h

theorem pieces_skip (marks : List SpokenMark) (u ws : List (List Char)) :
    pieces marks u.length (u ++ ws) = pieces marks 0 ws := by
  induction u with
  | nil => rfl
  | cons w u ih => rw [List.length_cons, List.cons_append, pieces, ih]

/-- A reading of words is empty if there are none. -/
theorem pieces_eq_nil_iff : pieces marks 0 ws = [] ↔ ws = [] := by
  cases ws with
  | nil => exact iff_of_true rfl rfl
  | cons w ws =>
      rw [pieces]
      split <;> simp

theorem spaced_map_pieces (f : Piece → List Char) (ws : List (List Char)) :
    spaced ((pieces marks 0 ws).map f) =
      if ws = [] then [] else ' ' :: unwords ((pieces marks 0 ws).map f) := by
  by_cases none_ : ws = []
  · rw [none_]
    rfl
  · have some_ : pieces marks 0 ws ≠ [] := fun h => none_ (pieces_eq_nil_iff.1 h)
    obtain ⟨x, xs, hx⟩ := List.exists_cons_of_ne_nil some_
    rw [if_neg none_, hx]
    rfl

/-- A word at which no mark is read stays as it is. -/
theorem replaceFrom_word (table : Pronounceable marks) {w : List Char}
    (lettered : ∀ v ∈ w :: ws, Lettered v) (start : Phrase.inWord before = false)
    (none_ : firstMark? marks (w :: ws) = none) :
    ∃ d, Phrase.replaceFrom (phrases marks) f before 0 (unwords (w :: ws)) =
      w ++ Phrase.replaceFrom (phrases marks) f (some d) 0 (spaced ws) := by
  have here := first?_unwords table lettered start
  have word := lettered w List.mem_cons_self
  obtain ⟨c, v, rfl⟩ := List.exists_cons_of_ne_nil word.ne
  obtain ⟨d, inside⟩ := replaceFrom_inside (f := f) (p := phrases marks)
    (word.letters c List.mem_cons_self)
    (fun e he => word.letters e (List.mem_cons_of_mem c he)) (spaced ws)
  refine ⟨d, ?_⟩
  rw [none_, Option.map_none, unwords_cons, List.cons_append] at here
  rw [unwords_cons, List.cons_append, Phrase.replaceFrom, here, List.cons_append]
  exact congrArg (c :: ·) inside

/-- The words at which a mark is read are replaced by the mark. -/
theorem replaceFrom_mark (table : Pronounceable marks) (speaks : Speaks marks f) {m : SpokenMark}
    {said : List (List Char)} (lettered : ∀ w ∈ said ++ ws, Lettered w)
    (start : Phrase.inWord before = false) (found : firstMark? marks (said ++ ws) = some m)
    (count : said.length = m.words.length) (whole : afterWords? m.words said = some []) :
    ∃ d, Phrase.replaceFrom (phrases marks) f before 0 (unwords (said ++ ws)) =
      m.mark ++ Phrase.replaceFrom (phrases marks) f (some d) 0 (spaced ws) := by
  obtain ⟨mem, -⟩ := of_firstMark? found
  have some_ : said ≠ [] := by
    rintro rfl
    exact (table m mem).1 (List.length_eq_zero_iff.1 count.symm)
  have known : ∀ w ∈ said, Lettered w := fun w hw => lettered w (List.mem_append_left ws hw)
  obtain ⟨c, u, hu⟩ : ∃ c u, unwords said = c :: u := by
    obtain ⟨w, tail, rfl⟩ := List.exists_cons_of_ne_nil some_
    obtain ⟨c, u, hw⟩ := List.exists_cons_of_ne_nil (known w List.mem_cons_self).ne
    exact ⟨c, u ++ spaced tail, by rw [unwords_cons, hw]; rfl⟩
  have text : unwords (said ++ ws) = c :: (u ++ spaced ws) := by
    rw [unwords_append some_, hu]
    rfl
  have here := first?_unwords table lettered start
  rw [found, Option.map_some, List.take_left' count, hu, text] at here
  obtain ⟨d, skipped⟩ := replaceFrom_skip (f := f) (p := phrases marks) c u (spaced ws)
  refine ⟨d, ?_⟩
  rw [text, Phrase.replaceFrom, here]
  dsimp only
  rw [skipped, ← hu, speaks m mem said known whole]

/-- Replacing the phrases of marks in a text of words is reading the words for marks. -/
theorem replaceFrom_unwords (table : Pronounceable marks) (speaks : Speaks marks f)
    (lettered : ∀ w ∈ ws, Lettered w) (start : Phrase.inWord before = false) :
    Phrase.replaceFrom (phrases marks) f before 0 (unwords ws) =
      unwords ((pieces marks 0 ws).map Piece.text) := by
  -- by the number of words, since a mark may take several
  induction length : ws.length using Nat.strong_induction_on generalizing ws before with
  | _ n ih =>
  have later (before : Option Char) {rest : List (List Char)} (part : ∀ w ∈ rest, w ∈ ws)
      (shorter : rest.length < ws.length) :
      Phrase.replaceFrom (phrases marks) f before 0 (spaced rest) =
        spaced ((pieces marks 0 rest).map Piece.text) := by
    rw [replaceFrom_spaced table, spaced_map_pieces,
      ih rest.length (length ▸ shorter) (fun w hw => lettered w (part w hw)) rfl rfl]
  cases ws with
  | nil => exact replaceFrom_spaced table before []
  | cons w ws =>
      cases found : firstMark? marks (w :: ws) with
      | none =>
          obtain ⟨d, first⟩ := replaceFrom_word (f := f) table lettered start found
          have rest := later (some d) (fun x hx => List.mem_cons_of_mem w hx) (Nat.lt_succ_self _)
          rw [first, rest, pieces, found]
          exact (unwords_cons w _).symm
      | some m =>
          obtain ⟨mem, said, rest, split, count, whole⟩ := of_firstMark? found
          obtain ⟨v, tail, rfl⟩ : ∃ v tail, said = v :: tail := by
            refine List.exists_cons_of_ne_nil fun nothing => (table m mem).1 ?_
            rw [nothing] at count
            exact List.length_eq_zero_iff.1 count.symm
          have length_tail : m.words.length - 1 = tail.length := by
            rw [← count]
            rfl
          have shorter : rest.length < (w :: ws).length := by
            rw [split, List.length_append, List.length_cons]
            omega
          rw [split] at found lettered
          obtain ⟨d, first⟩ := replaceFrom_mark table speaks lettered start found count whole
          have after := later (some d) (fun x hx => by rw [split]; exact List.mem_append_right _ hx)
            shorter
          rw [split, first, after, List.cons_append, pieces, ← List.cons_append, found]
          dsimp only
          rw [length_tail, pieces_skip]
          exact (unwords_cons m.mark _).symm

end Replacing

/-! ## What commands see of it -/

/-- A word of letters, or a mark that no space stands before. -/
inductive Piece.InLine : Piece → Prop
  | word {w : List Char} (lettered : Lettered w) : InLine (.word w)
  | mark {m : SpokenMark} {c : Char} (one : m.mark = [c])
      (closes : Spacing.isClosingMark c = true) : InLine (.mark m)

/-- The words that are no spoken marks. -/
def unspoken (ps : List Piece) : List (List Char) := ps.filterMap Piece.word?

theorem unspoken_mark (m : SpokenMark) (ps : List Piece) :
    unspoken (.mark m :: ps) = unspoken ps := rfl

section InLine

variable {ps : List Piece} {p : Piece}

theorem Piece.InLine.text_word (h : p.InLine) : Unbroken p.text := by
  cases h with
  | word lettered => exact lettered.word
  | @mark m c one closes =>
      refine ⟨by rw [Piece.text, one]; exact List.cons_ne_nil c [], fun d hd => ?_⟩
      rw [Piece.text, one] at hd
      rw [List.mem_singleton.1 hd]
      exact of_contains (P := fun d => isBlank d = false) (by decide) closes

/-- Whether a piece is a mark. -/
def Piece.isMark : Piece → Bool
  | word _ => false
  | mark _ => true

theorem Piece.InLine.opensClosed_text (h : p.InLine) : opensClosed p.text = p.isMark := by
  cases h with
  | @word w lettered =>
      obtain ⟨c, r, rfl⟩ := List.exists_cons_of_ne_nil lettered.ne
      exact isClosingMark_of_isWordChar (lettered.letters c List.mem_cons_self)
  | mark one closes =>
      rw [Piece.text, one]
      exact closes

/-- Of a piece in line the word is left without marks, if it is one. -/
theorem Piece.InLine.filter_text (h : p.InLine) :
    p.text.filter (fun c => !Utterance.isMark c) = p.word?.getD [] := by
  cases h with
  | word lettered =>
      refine List.filter_eq_self.2 fun c hc => ?_
      rw [isMark_of_isWordChar (lettered.letters c hc)]
      rfl
  | @mark m c one closes =>
      have mark : Utterance.isMark c = true :=
        of_contains (P := fun d => Utterance.isMark d = true) (by decide) closes
      rw [Piece.text, one, List.filter_singleton, mark]
      rfl

/-- Without marks, pieces in line are their words, behind a space if the first piece is a mark. -/
theorem filter_glue (inLine : ∀ p ∈ ps, p.InLine) :
    (glue (ps.map Piece.text)).filter (fun c => !Utterance.isMark c) =
      if ps.head?.any Piece.isMark then spaced (unspoken ps) else unwords (unspoken ps) := by
  induction ps with
  | nil => rfl
  | cons p ps ih =>
      have here := inLine p List.mem_cons_self
      have own := here.filter_text
      cases ps with
      | nil =>
          rw [List.map_singleton, glue, own]
          cases p with
          | word w => exact (unwords_singleton w).symm
          | mark m => rfl
      | cons q ps =>
          have next := inLine q (List.mem_cons_of_mem p List.mem_cons_self)
          have rest := ih fun r hr => inLine r (List.mem_cons_of_mem p hr)
          rw [List.map_cons] at rest
          rw [List.map_cons, List.map_cons, glue, List.filter_append, own, next.opensClosed_text]
          cases q with
          | word v =>
              rw [List.head?_cons, Option.any_some, Piece.isMark, if_neg Bool.false_ne_true] at rest
              rw [Piece.isMark, if_neg Bool.false_ne_true, List.filter_cons_of_pos (by decide),
                rest]
              cases p with
              | word w => exact (unwords_cons_cons w v _).symm
              | mark m => rfl
          | mark m =>
              rw [List.head?_cons, Option.any_some, Piece.isMark, if_pos rfl, unspoken_mark] at rest
              rw [Piece.isMark, if_pos rfl, rest]
              cases p with
              | word w => exact (unwords_cons w _).symm
              | mark n => rfl

/-! ## Lower case -/

/-- Without a sigma, a text is put in lower case character by character. -/
theorem lowerFrom_of_no_sigma {s : List Char} (none_ : ∀ c ∈ s, c ≠ '\u03A3') (before : List Char) :
    lowerFrom before s = s.flatMap lowerChar := by
  induction s generalizing before with
  | nil => rfl
  | cons c s ih =>
      rw [lowerFrom, if_neg (none_ c List.mem_cons_self), List.flatMap_cons,
        ih fun d hd => none_ d (List.mem_cons_of_mem c hd)]

theorem ne_sigma_of_mem_unwords {ws : List (List Char)} (lettered : ∀ w ∈ ws, Lettered w) {c : Char}
    (h : c ∈ unwords ws) : c ≠ '\u03A3' := by
  rcases isWordChar_or_space lettered h with letter | rfl
  · exact ne_sigma_of_isWordChar letter
  · decide

theorem trim_cons_space (s : List Char) : trim (' ' :: s) = trim s := by
  have blank : isBlank ' ' = true := by decide
  rw [trim, trim, trimBy, trimBy, List.dropWhile_cons, if_pos blank]

theorem lettered_of_mem_unspoken (inLine : ∀ p ∈ ps, p.InLine) {w : List Char}
    (h : w ∈ unspoken ps) : Lettered w := by
  obtain ⟨p, hp, word⟩ := List.mem_filterMap.1 h
  cases inLine p hp with
  | word lettered =>
      obtain rfl := Option.some.inj word
      exact lettered
  | mark => cases word

/-- Commands see of pieces in line what they see of the words. -/
theorem plain_glue (inLine : ∀ p ∈ ps, p.InLine) :
    Utterance.plain (glue (ps.map Piece.text)) = Utterance.plain (unwords (unspoken ps)) := by
  have lettered : ∀ w ∈ unspoken ps, Lettered w := fun w hw => lettered_of_mem_unspoken inLine hw
  have unmarked : ∀ c ∈ unwords (unspoken ps), Utterance.isMark c = false := by
    intro c hc
    rcases isWordChar_or_space lettered hc with letter | rfl
    · exact isMark_of_isWordChar letter
    · decide
  rw [Utterance.plain_of_unmarked unmarked, Utterance.plain, filter_glue inLine]
  split
  · cases words : unspoken ps with
    | nil => rfl
    | cons w ws =>
        rw [words] at lettered
        have small := fun c hc => ne_sigma_of_mem_unwords lettered (c := c) hc
        have front : lower (' ' :: unwords (w :: ws)) = ' ' :: lower (unwords (w :: ws)) := by
          rw [lower, lower, lowerFrom, lowerFrom_of_no_sigma small, lowerFrom_of_no_sigma small]
          rfl
        rw [spaced, front, trim_cons_space]
  · rfl

end InLine

end VoiceControl.Text
