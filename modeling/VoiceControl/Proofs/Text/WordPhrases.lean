import Mathlib.Data.List.Basic
import VoiceControl.Proofs.Text.PlainWords
import VoiceControl.Speech.Phrase

/-!
# Phrases among words

A text of ASCII letters, digits and underscores between single spaces has its word boundaries at the
ends of its words. So a phrase of such words is found at the start of such a text exactly if the
words are those of the phrase, up to case.

* `afterWords?`: what follows a phrase that some words start with.
* `found?_unwords`: where a phrase is found.
-/

namespace VoiceControl.Text

/-! ## Characters of words -/

/-- A word of ASCII letters, digits and underscores. -/
structure Lettered (w : List Char) : Prop where
  ne : w ≠ []
  letters : ∀ c ∈ w, isWordChar c = true

instance (w : List Char) : Decidable (Lettered w) :=
  decidable_of_iff (w ≠ [] ∧ w.all isWordChar = true)
    ⟨fun h => ⟨h.1, List.all_eq_true.1 h.2⟩, fun h => ⟨h.ne, List.all_eq_true.2 h.letters⟩⟩

section Characters

variable {c d : Char}

theorem toNat_of_isWordChar (h : isWordChar c = true) : c.toNat < 128 := by
  have ranges : (decide (c.val ≥ 'A'.val ∧ c.val ≤ 'Z'.val) ||
      decide (c.val ≥ 'a'.val) && decide (c.val ≤ 'z'.val) ||
      decide (c.val ≥ '0'.val) && decide (c.val ≤ '9'.val) || c == '_') = true := h
  simp only [Bool.or_eq_true, Bool.and_eq_true, decide_eq_true_eq, beq_iff_eq, ge_iff_le,
    UInt32.le_iff_toNat_le] at ranges
  have value : c.toNat = c.val.toNat := rfl
  rcases ranges with ((⟨-, h⟩ | ⟨-, h⟩) | ⟨-, h⟩) | rfl
  · have top : ('Z' : Char).val.toNat = 90 := rfl
    omega
  · have top : ('z' : Char).val.toNat = 122 := rfl
    omega
  · have top : ('9' : Char).val.toNat = 57 := rfl
    omega
  · decide

/-- What holds of all ASCII characters of words holds of all characters of words. -/
theorem of_isWordChar {P : Char → Prop}
    (all : ∀ n < 128, isWordChar (Char.ofNat n) = true → P (Char.ofNat n))
    (h : isWordChar c = true) : P c := by
  have here := all c.toNat (toNat_of_isWordChar h)
  rw [Char.ofNat_toNat] at here
  exact here h

theorem isBlank_of_isWordChar (h : isWordChar c = true) : isBlank c = false :=
  of_isWordChar (P := fun c => isBlank c = false) (by decide) h

theorem isMark_of_isWordChar (h : isWordChar c = true) : Utterance.isMark c = false :=
  of_isWordChar (P := fun c => Utterance.isMark c = false) (by decide) h

theorem isClosingMark_of_isWordChar (h : isWordChar c = true) : Spacing.isClosingMark c = false :=
  of_isWordChar (P := fun c => Spacing.isClosingMark c = false) (by decide) h

theorem caseKey_ne_space (h : isWordChar c = true) : caseKey c ≠ caseKey ' ' :=
  of_isWordChar (P := fun c => caseKey c ≠ caseKey ' ') (by decide) h

theorem ne_sigma_of_isWordChar (h : isWordChar c = true) : c ≠ '\u03A3' := by
  rintro rfl
  exact absurd (toNat_of_isWordChar h) (by decide)

theorem isWordChar_of_isPlain (h : isPlain c = true) : isWordChar c = true := by
  have either : (c.isLower || c.isDigit) = true := h
  show ((c.isUpper || c.isLower) || c.isDigit || c == '_') = true
  rw [Bool.or_assoc c.isUpper, either, Bool.or_true, Bool.true_or]

end Characters

/-! ## Texts of words -/

theorem inWord_head?_spaced (ws : List (List Char)) : Phrase.inWord (spaced ws).head? = false := by
  cases ws <;> rfl

section Lettered

variable {ws : List (List Char)} {w : List Char}

theorem PlainWord.lettered (h : PlainWord w) : Lettered w :=
  ⟨h.1, fun c hc => isWordChar_of_isPlain (h.2 c hc)⟩

theorem Lettered.word (h : Lettered w) : Unbroken w :=
  ⟨h.ne, fun c hc => isBlank_of_isWordChar (h.letters c hc)⟩

theorem Lettered.inWord_head? (h : Lettered w) (t : List Char) :
    Phrase.inWord (w ++ t).head? = true := by
  obtain ⟨c, r, rfl⟩ := List.exists_cons_of_ne_nil h.ne
  exact h.letters c List.mem_cons_self

theorem isWordChar_or_space (lettered : ∀ w ∈ ws, Lettered w) {c : Char} (h : c ∈ unwords ws) :
    isWordChar c = true ∨ c = ' ' := by
  rcases mem_unwords h with ⟨w, hw, hc⟩ | space
  · exact .inl ((lettered w hw).letters c hc)
  · exact .inr space

end Lettered

/-! ## Caseless comparison of words -/

/-- Whether two words are the same up to case. -/
def sameWord (v w : List Char) : Bool := v.map caseKey == w.map caseKey

/-- The words that follow a phrase that some words start with, up to case. -/
def afterWords? : (phrase ws : List (List Char)) → Option (List (List Char))
  | [], ws => some ws
  | _ :: _, [] => none
  | v :: phrase, w :: ws => if sameWord v w then afterWords? phrase ws else none

section Comparison

variable {p q s m r t v w : List Char}

theorem afterCaseless?_append (p q s : List Char) :
    afterCaseless? (p ++ q) s = (afterCaseless? p s).bind fun (m, r) =>
      (afterCaseless? q r).map fun (n, r') => (m ++ n, r') := by
  induction p generalizing s with
  | nil => cases h : afterCaseless? q s <;> simp [afterCaseless?, h]
  | cons a p ih =>
      cases s with
      | nil => rfl
      | cons c s =>
          rw [List.cons_append, afterCaseless?, afterCaseless?]
          by_cases same : caseKey a = caseKey c
          · rw [if_pos same, if_pos same, ih]
            cases h : afterCaseless? p s with
            | none => rfl
            | some mr =>
                obtain ⟨m, r⟩ := mr
                cases h' : afterCaseless? q r <;> simp [h']
          · rw [if_neg same, if_neg same]
            rfl

/-- What a phrase is found as is the same up to case. -/
theorem map_caseKey_of_afterCaseless? (h : afterCaseless? p s = some (m, r)) :
    m.map caseKey = p.map caseKey := by
  induction p generalizing s m r with
  | nil =>
      obtain ⟨rfl, -⟩ := Prod.mk.inj (Option.some.inj h)
      rfl
  | cons a p ih =>
      cases s with
      | nil => cases h
      | cons c s =>
          rw [afterCaseless?] at h
          split at h
          · rename_i same
            obtain ⟨⟨n, r'⟩, hs, hm⟩ := Option.map_eq_some_iff.1 h
            obtain ⟨rfl, -⟩ := Prod.mk.inj hm
            rw [List.map_cons, List.map_cons, same, ih hs]
          · cases h

/-- A word is found as itself. -/
theorem afterCaseless?_of_sameWord (same : sameWord v w = true) (t : List Char) :
    afterCaseless? v (w ++ t) = some (w, t) := by
  have keys : v.map caseKey = w.map caseKey := by simpa [sameWord] using same
  clear same
  induction v generalizing w with
  | nil =>
      obtain rfl : w = [] := by simpa using keys.symm
      rfl
  | cons a v ih =>
      cases w with
      | nil => simp at keys
      | cons c w =>
          rw [List.map_cons, List.map_cons, List.cons.injEq] at keys
          rw [List.cons_append, afterCaseless?, if_pos keys.1, ih keys.2]
          rfl

/-- Where a word is found although another one stands there, the other one goes on. -/
theorem goes_on_of_not_sameWord (letters : ∀ c ∈ v, isWordChar c = true)
    (letters' : ∀ c ∈ w, isWordChar c = true) (other : sameWord v w = false)
    (ends : t = [] ∨ ∃ t', t = ' ' :: t') (h : afterCaseless? v (w ++ t) = some (m, r)) :
    ∃ c r', r = c :: r' ∧ isWordChar c = true := by
  induction v generalizing w m with
  | nil =>
      obtain ⟨rfl, rfl⟩ := Prod.mk.inj (Option.some.inj h)
      cases w with
      | nil => cases other
      | cons c w => exact ⟨c, w ++ t, rfl, letters' c List.mem_cons_self⟩
  | cons a v ih =>
      cases w with
      | nil =>
          rcases ends with rfl | ⟨t', rfl⟩
          · cases h
          · rw [List.nil_append, afterCaseless?,
              if_neg (caseKey_ne_space (letters a List.mem_cons_self))] at h
            cases h
      | cons c w =>
          rw [List.cons_append, afterCaseless?] at h
          split at h
          · rename_i same
            obtain ⟨⟨n, r'⟩, hs, hm⟩ := Option.map_eq_some_iff.1 h
            obtain ⟨-, rfl⟩ := Prod.mk.inj hm
            have other' : sameWord v w = false := by
              simpa [sameWord, same] using other
            exact ih (fun d hd => letters d (List.mem_cons_of_mem a hd))
              (fun d hd => letters' d (List.mem_cons_of_mem c hd)) other' hs
          · cases h

theorem spaced_cases (ws : List (List Char)) : spaced ws = [] ∨ ∃ t, spaced ws = ' ' :: t := by
  cases ws with
  | nil => exact .inl rfl
  | cons w ws => exact .inr ⟨_, rfl⟩

end Comparison

section Phrases

variable {phrase ws rest : List (List Char)}

/-- A phrase that some words start with is found as these words. -/
theorem afterCaseless?_of_afterWords? (some_ : phrase ≠ [])
    (h : afterWords? phrase ws = some rest) :
    afterCaseless? (unwords phrase) (unwords ws) =
      some (unwords (ws.take phrase.length), spaced rest) := by
  induction phrase generalizing ws with
  | nil => exact absurd rfl some_
  | cons v phrase ih =>
      cases ws with
      | nil => cases h
      | cons w ws =>
          rw [afterWords?] at h
          split at h
          · rename_i same
            have here := afterCaseless?_of_sameWord same (spaced ws)
            rw [unwords_cons, unwords_cons, afterCaseless?_append, here, Option.bind_some]
            cases phrase with
            | nil =>
                obtain rfl := Option.some.inj h
                simp [spaced, afterCaseless?]
            | cons u phrase =>
                cases ws with
                | nil => cases h
                | cons x ws =>
                    have later := ih (List.cons_ne_nil u phrase) h
                    show (afterCaseless? (' ' :: unwords (u :: phrase))
                      (' ' :: unwords (x :: ws))).map _ = _
                    rw [afterCaseless?, if_pos rfl, later]
                    show some (w ++ ' ' :: unwords ((x :: ws).take (phrase.length + 1)), _) =
                      some (unwords (w :: (x :: ws).take (phrase.length + 1)), _)
                    rw [unwords_cons w]
                    rfl
          · cases h

/-- Where a phrase is found although the words there are others, one of them goes on. -/
theorem goes_on_of_afterWords?_eq_none {m r : List Char} (lettered : ∀ v ∈ phrase, Lettered v)
    (lettered' : ∀ w ∈ ws, Lettered w) (none_ : afterWords? phrase ws = none)
    (h : afterCaseless? (unwords phrase) (unwords ws) = some (m, r)) :
    ∃ c r', r = c :: r' ∧ isWordChar c = true := by
  induction phrase generalizing ws m r with
  | nil => cases none_
  | cons v phrase ih =>
      have word := lettered v List.mem_cons_self
      cases ws with
      | nil =>
          obtain ⟨c, v', rfl⟩ := List.exists_cons_of_ne_nil word.ne
          rw [unwords_cons] at h
          cases h
      | cons w ws =>
          have word' := lettered' w List.mem_cons_self
          rw [unwords_cons, unwords_cons, afterCaseless?_append, Option.bind_eq_some_iff] at h
          obtain ⟨⟨n, r'⟩, first, h⟩ := h
          obtain ⟨⟨n', r''⟩, second, h⟩ := Option.map_eq_some_iff.1 h
          obtain ⟨-, rfl⟩ := Prod.mk.inj h
          cases same : sameWord v w with
          | true =>
              rw [afterCaseless?_of_sameWord same] at first
              obtain ⟨rfl, rfl⟩ := Prod.mk.inj (Option.some.inj first)
              rw [afterWords?, if_pos same] at none_
              cases phrase with
              | nil => cases none_
              | cons u phrase =>
                  cases ws with
                  | nil => cases second
                  | cons x ws =>
                      rw [spaced, spaced, afterCaseless?, if_pos rfl] at second
                      obtain ⟨⟨k, r⟩, later, eq⟩ := Option.map_eq_some_iff.1 second
                      rw [← (Prod.mk.inj eq).2]
                      exact ih (fun y hy => lettered y (List.mem_cons_of_mem v hy))
                        (fun y hy => lettered' y (List.mem_cons_of_mem w hy)) none_ later
          | false =>
              -- the first word goes on, so no further word can follow
              obtain ⟨c, t, rfl, letter⟩ := goes_on_of_not_sameWord word.letters word'.letters same
                (spaced_cases ws) first
              cases phrase with
              | nil =>
                  rw [spaced, afterCaseless?] at second
                  obtain ⟨-, rfl⟩ := Prod.mk.inj (Option.some.inj second)
                  exact ⟨c, t, rfl, letter⟩
              | cons u phrase =>
                  rw [spaced, afterCaseless?, if_neg (caseKey_ne_space letter).symm] at second
                  cases second

/-- Words that start with a phrase are the words of the phrase and what follows. -/
theorem exists_of_afterWords? (h : afterWords? phrase ws = some rest) :
    ∃ said, ws = said ++ rest ∧ said.length = phrase.length ∧
      afterWords? phrase said = some [] := by
  induction phrase generalizing ws with
  | nil =>
      obtain rfl := Option.some.inj h
      exact ⟨[], rfl, rfl, rfl⟩
  | cons v phrase ih =>
      cases ws with
      | nil => cases h
      | cons w ws =>
          rw [afterWords?] at h
          split at h
          · rename_i same
            obtain ⟨said, rfl, length, whole⟩ := ih h
            refine ⟨w :: said, rfl, congrArg (· + 1) length, ?_⟩
            rw [afterWords?, if_pos same, whole]
          · cases h

theorem inWord_getLast?_unwords (some_ : ws ≠ []) (lettered : ∀ w ∈ ws, Lettered w) :
    Phrase.inWord (unwords ws).getLast? = true := by
  obtain ⟨front, w, rfl⟩ := (List.eq_nil_or_concat' ws).resolve_left some_
  have word := lettered w (List.mem_append_right front (List.mem_singleton_self w))
  have last : unwords (front ++ [w]) = unwords (front ++ [[]]) ++ w := unwords_concat front [] w
  rw [last, List.getLast?_append, List.getLast?_eq_some_getLast word.ne, Option.some_or]
  exact word.letters _ (List.getLast_mem word.ne)

theorem inWord_head?_unwords (some_ : ws ≠ []) (lettered : ∀ w ∈ ws, Lettered w) :
    Phrase.inWord (unwords ws).head? = true := by
  obtain ⟨w, ws, rfl⟩ := List.exists_cons_of_ne_nil some_
  rw [unwords_cons]
  exact (lettered w List.mem_cons_self).inWord_head? _

theorem inWord_or {x y : Option Char} (h : Phrase.inWord x = true) :
    Phrase.inWord (x.or y) = true := by
  cases x with
  | none => cases h
  | some c => exact h

/-- The last character that a phrase of words is found as belongs to a word. -/
theorem inWord_getLast?_of_found {m r : List Char} (some_ : phrase ≠ [])
    (lettered : ∀ v ∈ phrase, Lettered v) (lettered' : ∀ w ∈ ws, Lettered w)
    (found : afterCaseless? (unwords phrase) (unwords ws) = some (m, r)) :
    Phrase.inWord m.getLast? = true := by
  have phraseLast := inWord_getLast?_unwords some_ lettered
  have same : m.getLast?.map caseKey = (unwords phrase).getLast?.map caseKey := by
    rw [← List.getLast?_map, ← List.getLast?_map, map_caseKey_of_afterCaseless? found]
  cases hp : (unwords phrase).getLast? with
  | none =>
      rw [hp] at phraseLast
      cases phraseLast
  | some a =>
      rw [hp] at phraseLast same
      cases hm : m.getLast? with
      | none =>
          rw [hm] at same
          cases same
      | some d =>
          rw [hm] at same
          have mem : d ∈ unwords ws := by
            rw [eq_append_of_afterCaseless? found]
            exact List.mem_append_left _ (List.mem_of_mem_getLast? hm)
          rcases isWordChar_or_space lettered' mem with letter | rfl
          · exact letter
          · exact absurd (Option.some.inj same).symm (caseKey_ne_space phraseLast)

/-- A phrase of words is found at the start of words if they start with its words. -/
theorem found?_unwords {before : Option Char} (start : Phrase.inWord before = false)
    (some_ : phrase ≠ []) (lettered : ∀ v ∈ phrase, Lettered v) (lettered' : ∀ w ∈ ws, Lettered w) :
    Phrase.found? before (unwords ws) (unwords phrase) =
      if (afterWords? phrase ws).isSome then some (unwords (ws.take phrase.length)) else none := by
  rw [Phrase.found?]
  cases said : afterWords? phrase ws with
  | some rest =>
      obtain ⟨v, phrase, rfl⟩ := List.exists_cons_of_ne_nil some_
      cases ws with
      | nil => cases said
      | cons w ws =>
          have part : ∀ u ∈ (w :: ws).take (v :: phrase).length, Lettered u :=
            fun u hu => lettered' u (List.mem_of_mem_take hu)
          have first : Phrase.inWord (unwords (w :: ws)).head? = true :=
            inWord_head?_unwords (List.cons_ne_nil w ws) lettered'
          have last := inWord_or (y := before)
            (inWord_getLast?_unwords (by simp) part)
          rw [afterCaseless?_of_afterWords? some_ said]
          dsimp only
          rw [Phrase.isBoundary, Phrase.isBoundary, start, first, last, inWord_head?_spaced]
          rfl
  | none =>
      cases found : afterCaseless? (unwords phrase) (unwords ws) with
      | none => rfl
      | some parts =>
          obtain ⟨m, r⟩ := parts
          obtain ⟨c, r', rfl, letter⟩ :=
            goes_on_of_afterWords?_eq_none lettered lettered' said found
          have last := inWord_getLast?_of_found some_ lettered lettered' found
          have next : Phrase.inWord (c :: r').head? = true := letter
          rw [if_neg (by simp)]
          dsimp only
          rw [Phrase.isBoundary, Phrase.isBoundary, inWord_or last, next]
          simp

end Phrases

end VoiceControl.Text
