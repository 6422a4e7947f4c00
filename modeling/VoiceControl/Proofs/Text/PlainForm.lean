import Mathlib.Data.Bool.AllAny
import Mathlib.Data.List.DropRight
import VoiceControl.Proofs.Text.LowerCase
import VoiceControl.Speech.Utterance
import VoiceControl.Text.Search

/-!
# The plain form

A mark is the same in upper and lower case, and no other character becomes a mark in lower case. So
the plain form has no marks, and it is its own plain form. It does not matter much whether the marks
are left out before or after a text is put in lower case: only the form of a sigma depends on what
stands next to it.
-/

namespace VoiceControl.Text

/-! ## Characters -/

/-- What is true of all the characters of a list is true of a character in it. -/
theorem of_contains {P : Char → Prop} [DecidablePred P] {cs : List Char} {c : Char}
    (all : (cs.all fun d => decide (P d)) = true) (h : cs.contains c = true) : P c :=
  List.all_iff_forall_prop.1 all c (List.contains_iff_mem.1 h)

theorem isLowered_of_isMark {c : Char} (h : Utterance.isMark c = true) : IsLowered c :=
  of_contains (P := IsLowered) (by decide) h

theorem isBlank_of_isMark {c : Char} (h : Utterance.isMark c = true) : isBlank c = false :=
  of_contains (P := fun d => isBlank d = false) (by decide) h

/-- The code points of the blanks. -/
def blankCodes : List Nat :=
  List.range' 9 5 ++ List.range' 0x2000 11 ++
    [0x20, 0xA0, 0x1680, 0x2028, 0x2029, 0x202F, 0x205F, 0x3000, 0xFEFF]

/-- What is true of all the blanks is true of a blank. -/
theorem of_isBlank {P : Char → Prop} {c : Char} (all : ∀ n ∈ blankCodes, P (Char.ofNat n))
    (h : isBlank c = true) : P c := by
  rw [← Char.ofNat_toNat c]
  refine all c.toNat ?_
  simp only [isBlank, Bool.or_eq_true, Bool.and_eq_true, decide_eq_true_eq, beq_iff_eq] at h
  simp only [blankCodes, List.mem_append, List.mem_range'_1, List.mem_cons, List.not_mem_nil,
    or_false]
  omega

theorem isLowered_of_isBlank {c : Char} (h : isBlank c = true) : IsLowered c :=
  of_isBlank (by decide) h

/-- In lower case a character stays as it is or becomes a small letter, a character beyond ASCII, or
the null character if the table leads to none. -/
theorem cases_of_mem_lowerChar {c d : Char} (h : d ∈ lowerChar c) :
    d = c ∨ 97 ≤ d.toNat ∧ d.toNat ≤ 122 ∨ 128 ≤ d.toNat ∨ d.toNat = 0 := by
  unfold lowerChar at h
  split at h
  · have ascii : ∀ n < 128, (Char.ofNat n).toLower = Char.ofNat n ∨
        97 ≤ (Char.ofNat n).toLower.toNat ∧ (Char.ofNat n).toLower.toNat ≤ 122 := by
      decide
    have small := ascii c.toNat (by assumption)
    rw [Char.ofNat_toNat, ← List.mem_singleton.1 h] at small
    exact small.imp_right .inl
  split at h
  · simp only [List.mem_cons, List.not_mem_nil, or_false] at h
    rcases h with rfl | rfl
    · exact .inr (.inl (by decide))
    · exact .inr (.inr (.inl (by decide)))
  · obtain rfl := List.mem_singleton.1 h
    rcases shiftBy_settles c.toNat with same | ⟨-, -, reach⟩
    · exact .inl (by rw [same, Char.ofNat_toNat])
    · right
      generalize shiftBy lowerRows c.toNat = m at reach
      by_cases valid : m.isValidChar
      · have toNat : (Char.ofNat m).toNat = m := by
          rw [Char.ofNat, dif_pos valid]
          rfl
        rw [toNat]
        omega
      · rw [Char.ofNat, dif_neg valid]
        exact .inr (.inr rfl)

/-- An ASCII character that is not a small letter. -/
def IsUncased (c : Char) : Prop := 0 < c.toNat ∧ c.toNat < 128 ∧ (c.toNat < 97 ∨ 122 < c.toNat)

instance (c : Char) : Decidable (IsUncased c) := inferInstanceAs (Decidable (_ ∧ _))

theorem isUncased_of_isMark {c : Char} (h : Utterance.isMark c = true) : IsUncased c :=
  of_contains (P := IsUncased) (by decide) h

/-- A character that is no small letter comes from nothing but itself. -/
theorem eq_of_mem_lowerChar {c d : Char} (h : d ∈ lowerChar c) (uncased : IsUncased d) : d = c := by
  obtain ⟨some_, ascii, bounds⟩ := uncased
  rcases cases_of_mem_lowerChar h with same | other
  · exact same
  · omega

/-! ## The two small sigmas -/

/-- Makes the final sigma the usual one. -/
def unfinal (c : Char) : Char := if c = '\u03C2' then '\u03C3' else c

theorem unfinal_of_ne {c : Char} (h : c ≠ '\u03C2') : unfinal c = c := if_neg h

theorem eq_of_unfinal_eq {c d : Char} (h : unfinal c = d) (other : d ≠ '\u03C3') : c = d := by
  unfold unfinal at h
  split at h
  · exact absurd h.symm other
  · exact h

theorem unfinal_isMark (c : Char) : Utterance.isMark (unfinal c) = Utterance.isMark c := by
  unfold unfinal
  split
  · rename_i final
    rw [final]
    decide
  · rfl

theorem unfinal_isBlank (c : Char) : isBlank (unfinal c) = isBlank c := by
  unfold unfinal
  split
  · rename_i final
    rw [final]
    decide
  · rfl

/-- Lower case of a character in any surroundings, up to the form of a sigma. -/
def lowerAnywhere (c : Char) : List Char :=
  if c = '\u03A3' then ['\u03C3'] else (lowerChar c).map unfinal

/-- But for the form of a sigma, a text is put in lower case character by character. -/
theorem map_unfinal_lowerFrom (before s : List Char) :
    (lowerFrom before s).map unfinal = s.flatMap lowerAnywhere := by
  induction s generalizing before with
  | nil => rfl
  | cons c r ih =>
      rw [lowerFrom, List.map_append, ih, List.flatMap_cons]
      congr 1
      rw [lowerAnywhere]
      by_cases sigma : c = '\u03A3'
      · rw [if_pos sigma, if_pos sigma]
        split <;> rfl
      · rw [if_neg sigma, if_neg sigma]

/-! ## Marks of a text -/

theorem mem_of_mem_lowerFrom {s before : List Char} {d : Char} (h : d ∈ lowerFrom before s)
    (uncased : IsUncased d) : d ∈ s := by
  induction s generalizing before with
  | nil => cases h
  | cons c r ih =>
      rcases List.mem_append.1 h with here | later
      · split at here
        · -- both forms of the sigma are small letters
          rw [List.mem_singleton.1 here] at uncased
          split at uncased <;> exact absurd uncased (by decide)
        · rw [eq_of_mem_lowerChar here uncased]
          exact List.mem_cons_self
      · exact List.mem_cons_of_mem c (ih later)

theorem mem_of_isMark_of_mem_lowerFrom {s before : List Char} {d : Char}
    (h : d ∈ lowerFrom before s) (mark : Utterance.isMark d = true) : d ∈ s :=
  mem_of_mem_lowerFrom h (isUncased_of_isMark mark)

/-- A character that is in lower case stays in the text. -/
theorem mem_lowerFrom_of_isLowered {s before : List Char} {d : Char} (h : d ∈ s)
    (lowered : IsLowered d) : d ∈ lowerFrom before s := by
  induction s generalizing before with
  | nil => cases h
  | cons c r ih =>
      rw [lowerFrom]
      rcases List.mem_cons.1 h with rfl | later
      · refine List.mem_append_left _ ?_
        rw [if_neg lowered.2, lowered.1]
        exact List.mem_singleton_self d
      · exact List.mem_append_right _ (ih later)

theorem lowerAnywhere_of_isMark {c : Char} (h : Utterance.isMark c = true) :
    lowerAnywhere c = [c] := by
  obtain ⟨same, sigma⟩ := isLowered_of_isMark h
  have other : c ≠ '\u03C2' := by
    rintro rfl
    exact absurd h (by decide)
  rw [lowerAnywhere, if_neg sigma, same, List.map_singleton, unfinal_of_ne other]

theorem isMark_of_mem_lowerAnywhere {c d : Char} (h : d ∈ lowerAnywhere c)
    (unmarked : Utterance.isMark c = false) : Utterance.isMark d = false := by
  unfold lowerAnywhere at h
  split at h
  · rw [List.mem_singleton.1 h]
    decide
  · obtain ⟨e, he, rfl⟩ := List.mem_map.1 h
    rw [unfinal_isMark]
    refine Bool.eq_false_iff.2 fun mark => ?_
    rw [eq_of_mem_lowerChar he (isUncased_of_isMark mark), unmarked] at mark
    cases mark

/-- But for the form of a sigma, marks may be left out before or after a text is put in lower
case. -/
theorem map_unfinal_lower_filter (s : List Char) :
    (lower (s.filter fun c => !Utterance.isMark c)).map unfinal =
      ((lower s).filter fun c => !Utterance.isMark c).map unfinal := by
  have late : ((lower s).filter fun c => !Utterance.isMark c).map unfinal =
      ((lower s).map unfinal).filter fun c => !Utterance.isMark c := by
    rw [List.filter_map]
    refine congrArg (List.map unfinal) (List.filter_congr fun c _ => ?_)
    show _ = !Utterance.isMark (unfinal c)
    rw [unfinal_isMark]
  rw [late, lower, lower, map_unfinal_lowerFrom, map_unfinal_lowerFrom]
  clear late
  induction s with
  | nil => rfl
  | cons c r ih =>
      rw [List.flatMap_cons, List.filter_append, ← ih]
      cases mark : Utterance.isMark c with
      | true => simp [lowerAnywhere_of_isMark mark, mark]
      | false =>
          have kept :
              (lowerAnywhere c).filter (fun d => !Utterance.isMark d) = lowerAnywhere c := by
            refine List.filter_eq_self.2 fun d hd => ?_
            rw [isMark_of_mem_lowerAnywhere hd mark]
            rfl
          rw [kept, List.filter_cons_of_pos (by rw [mark]; rfl), List.flatMap_cons]

/-! ## Trimming -/

section Trimming

variable {p : Char → Bool} {s : List Char}

/-- What is left after trimming, and what was taken away. -/
theorem exists_eq_append_trimBy (p : Char → Bool) (s : List Char) :
    ∃ a b, s = a ++ trimBy p s ++ b ∧ (∀ c ∈ a, p c = true) ∧ ∀ c ∈ b, p c = true := by
  have front : s = s.takeWhile p ++ s.dropWhile p := List.takeWhile_append_dropWhile.symm
  have back : (s.dropWhile p).reverse =
      (s.dropWhile p).reverse.takeWhile p ++ (s.dropWhile p).reverse.dropWhile p :=
    List.takeWhile_append_dropWhile.symm
  refine ⟨s.takeWhile p, ((s.dropWhile p).reverse.takeWhile p).reverse, ?_, ?_, ?_⟩
  · rw [trimBy, List.append_assoc, ← List.reverse_append, ← back, List.reverse_reverse]
    exact front
  · exact fun c hc => List.mem_takeWhile_imp hc
  · exact fun c hc => List.mem_takeWhile_imp (List.mem_reverse.1 hc)

theorem mem_of_mem_trimBy {c : Char} (h : c ∈ trimBy p s) : c ∈ s := by
  obtain ⟨a, b, split, -, -⟩ := exists_eq_append_trimBy p s
  rw [split]
  exact List.mem_append_left b (List.mem_append_right a h)

/-- Dropping stops at an element that stays. -/
theorem dropWhile_append_of_mem {t : List Char} (h : ∃ c ∈ s, p c = false) :
    (s ++ t).dropWhile p = s.dropWhile p ++ t := by
  induction s with
  | nil => simp at h
  | cons c s ih =>
      cases drops : p c with
      | false => simp [drops]
      | true =>
          have rest : ∃ d ∈ s, p d = false := by
            obtain ⟨d, hd, stays⟩ := h
            rcases List.mem_cons.1 hd with rfl | later
            · rw [drops] at stays
              cases stays
            · exact ⟨d, later, stays⟩
          simpa [drops] using ih rest

/-- Trimming stops at characters that stay. -/
theorem trimBy_append {a m b : List Char} (front : ∃ c ∈ a, p c = false)
    (back : ∃ c ∈ b, p c = false) :
    trimBy p (a ++ m ++ b) = a.dropWhile p ++ m ++ (b.reverse.dropWhile p).reverse := by
  have turned : ∃ c ∈ b.reverse, p c = false := by simpa using back
  rw [trimBy, List.append_assoc, dropWhile_append_of_mem front, ← List.append_assoc,
    List.reverse_append, dropWhile_append_of_mem turned, List.reverse_append, List.reverse_reverse]

/-- Nothing is left to trim after trimming. -/
theorem trimBy_trimBy (p : Char → Bool) (s : List Char) : trimBy p (trimBy p s) = trimBy p s := by
  have front : (trimBy p s).dropWhile p = trimBy p s := by
    refine List.dropWhile_eq_self_iff.2 fun some_ => ?_
    have lead : trimBy p s <+: s.dropWhile p := List.rdropWhile_prefix p _
    rw [lead.getElem some_]
    exact List.dropWhile_eq_self_iff.1 (List.dropWhile_idempotent p s) _
  have back : (trimBy p s).rdropWhile p = trimBy p s := List.rdropWhile_idempotent p _
  calc trimBy p (trimBy p s)
      = ((trimBy p s).dropWhile p).rdropWhile p := rfl
    _ = trimBy p s := by rw [front, back]

theorem trim_eq_nil (blank : ∀ c ∈ s, isBlank c = true) : trim s = [] := by
  have none_ : s.dropWhile isBlank = [] := List.dropWhile_eq_nil_iff.2 blank
  rw [trim, trimBy, none_]
  rfl

end Trimming

/-! ## Occurrences -/

theorem occursIn_append (needle a b : List Char) : occursIn needle (a ++ needle ++ b) = true := by
  have ahead (t : List Char) : after? needle (needle ++ t) = some t := after?_eq_some_iff.2 rfl
  induction a with
  | nil =>
      rw [List.nil_append, occursIn]
      cases whole : needle ++ b with
      | nil =>
          rw [splitAt?, (List.append_eq_nil_iff.1 whole).1]
          rfl
      | cons c t => rw [splitAt?, ← whole, ahead, Option.isSome_some]
  | cons c a ih =>
      show (splitAt? needle (c :: (a ++ needle ++ b))).isSome = true
      rw [splitAt?]
      split
      · rfl
      · rw [Option.isSome_map]
        exact ih

end VoiceControl.Text

namespace VoiceControl.Utterance

open VoiceControl.Text

variable {s : List Char}

/-! ## The plain form -/

/-- A text without marks is put in lower case and trimmed. -/
theorem plain_of_unmarked (unmarked : ∀ c ∈ s, isMark c = false) : plain s = trim (lower s) := by
  have all : s.filter (fun c => !isMark c) = s := by
    refine List.filter_eq_self.2 fun c hc => ?_
    rw [unmarked c hc]
    rfl
  rw [plain, all]

theorem isMark_of_mem_plain {c : Char} (h : c ∈ plain s) : isMark c = false := by
  refine Bool.eq_false_iff.2 fun mark => ?_
  have kept := mem_of_isMark_of_mem_lowerFrom (mem_of_mem_trimBy h) mark
  have unmarked := (List.mem_filter.1 kept).2
  rw [mark] at unmarked
  cases unmarked

theorem isLowered_of_mem_plain {c : Char} (h : c ∈ plain s) : IsLowered c :=
  isLowered_of_mem_lowerFrom (mem_of_mem_trimBy h)

theorem trim_lower_plain (s : List Char) : trim (lower (plain s)) = plain s := by
  have case : lower (plain s) = plain s :=
    lowerFrom_of_lowered (fun _ h => isLowered_of_mem_plain h) []
  rw [case]
  exact trimBy_trimBy isBlank _

/-- The plain form is its own plain form. -/
theorem plain_plain (s : List Char) : plain (plain s) = plain s := by
  rw [plain_of_unmarked fun _ h => isMark_of_mem_plain h, trim_lower_plain]

theorem plain_plainText (text : String) : plain (plainText text).toList = plain text.toList := by
  rw [plainText, String.toList_ofList, plain_plain]

/-- Something of a text that is not empty in its plain form is neither a mark nor blank. -/
theorem exists_of_plain_ne_nil (h : plain s ≠ []) :
    ∃ c ∈ s, isMark c = false ∧ isBlank c = false := by
  by_contra none_
  push Not at none_
  have blank : ∀ c ∈ s.filter fun c => !isMark c, isBlank c = true := by
    intro c hc
    obtain ⟨mem, unmarked⟩ := List.mem_filter.1 hc
    have notBlank := none_ c mem (by simpa using unmarked)
    simpa using notBlank
  have case : lower (s.filter fun c => !isMark c) = s.filter fun c => !isMark c :=
    lowerFrom_of_lowered (fun c hc => isLowered_of_isBlank (blank c hc)) []
  refine h ?_
  rw [plain, case]
  exact trim_eq_nil blank

/-- What stands in a text in lower case between two parts that say something stands in its plain
form. -/
theorem occursIn_plain {a m b : List Char} (split : lower s = a ++ m ++ b)
    (front : ∃ c ∈ a, isMark c = false ∧ isBlank c = false)
    (back : ∃ c ∈ b, isMark c = false ∧ isBlank c = false)
    (unmarked : ∀ c ∈ m, isMark c = false ∧ c ≠ '\u03C3' ∧ c ≠ '\u03C2') :
    occursIn m (plain s) = true := by
  have middle : (m.filter fun c => !isMark c).map unfinal = m := by
    have all : m.filter (fun c => !isMark c) = m := by
      refine List.filter_eq_self.2 fun c hc => ?_
      rw [(unmarked c hc).1]
      rfl
    have same : ∀ c ∈ m, unfinal c = c := fun c hc => unfinal_of_ne (unmarked c hc).2.2
    rw [all, List.map_congr_left same, List.map_id']
  have parts := map_unfinal_lower_filter s
  rw [split, List.filter_append, List.filter_append, List.map_append, List.map_append,
    middle] at parts
  obtain ⟨y, z, whole, left, right⟩ := List.map_eq_append_iff.1 parts
  obtain ⟨x, n, rfl, left, middle⟩ := List.map_eq_append_iff.1 left
  -- no character of the middle is a sigma
  have same : n = m := by
    have all : ∀ c ∈ n, unfinal c = c := by
      intro c hc
      have mem : unfinal c ∈ m := by
        rw [← middle]
        exact List.mem_map_of_mem hc
      exact (eq_of_unfinal_eq rfl (unmarked _ mem).2.1).symm
    rw [← middle, List.map_congr_left all, List.map_id']
  have said {t u : List Char} (h : ∃ c ∈ t, isMark c = false ∧ isBlank c = false)
      (eq : u.map unfinal = (t.filter fun c => !isMark c).map unfinal) :
      ∃ c ∈ u, isBlank c = false := by
    obtain ⟨c, hc, notMark, notBlank⟩ := h
    have mem : unfinal c ∈ u.map unfinal := by
      rw [eq]
      exact List.mem_map_of_mem (List.mem_filter.2 ⟨hc, by rw [notMark]; rfl⟩)
    obtain ⟨d, hd, dc⟩ := List.mem_map.1 mem
    exact ⟨d, hd, by rw [← unfinal_isBlank, dc, unfinal_isBlank, notBlank]⟩
  rw [plain, whole, trim, trimBy_append (said front left) (said back right), same]
  exact occursIn_append m _ _

end VoiceControl.Utterance
