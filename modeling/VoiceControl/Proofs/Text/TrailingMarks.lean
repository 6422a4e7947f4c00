import Mathlib.Data.List.DropRight
import VoiceControl.Proofs.Text.Gluing
import VoiceControl.Proofs.Text.PlainForm
import VoiceControl.Speech.Lexicon

/-!
# Marks at the end of a text

Marks that are attached to a text belong to its last word, or are a word of their own behind a
blank. Whether a word means something does not depend on the marks at its ends. So of a text with
marks attached there remains what remains of it without them, and the marks as well unless the last
word means nothing.
-/

namespace VoiceControl.Text

variable {s p w : List Char}

/-! ## Words -/

theorem words_append_blank {b : Char} (blank : isBlank b = true) (s t : List Char) :
    words (s ++ b :: t) = words s ++ words t := by
  rw [words, List.splitOnP_append_cons _ _ blank, List.filter_append]
  rfl

/-- What is attached to a text is attached to the part behind its last blank. -/
theorem exists_words_append (s : List Char) :
    ∃ front w, (∀ c ∈ w, isBlank c = false) ∧ (w = [] ↔ s = [] ∨ s.getLast?.any isBlank = true) ∧
      ∀ p, words (s ++ p) = front ++ words (w ++ p) := by
  induction s using List.reverseRecOn with
  | nil => exact ⟨[], [], nofun, by simp, fun p => rfl⟩
  | append_singleton s c ih =>
      by_cases blank : isBlank c = true
      · refine ⟨words s, [], nofun, ?_, ?_⟩
        · simp [blank]
        · intro p
          rw [List.append_assoc, List.singleton_append, words_append_blank blank, List.nil_append]
      · obtain ⟨front, w, unbroken, -, split⟩ := ih
        refine ⟨front, w ++ [c], ?_, ?_, ?_⟩
        · intro d hd
          rcases List.mem_append.1 hd with old | new
          · exact unbroken d old
          · rw [List.mem_singleton.1 new]
            exact Bool.eq_false_iff.2 blank
        · simp [blank]
        · intro p
          rw [List.append_assoc, split, List.append_assoc]

/-- What is trimmed away may as well be attached to the end. -/
theorem trimBy_append_of_all {q : Char → Bool} (all : ∀ c ∈ p, q c = true) (s : List Char) :
    trimBy q (s ++ p) = trimBy q s := by
  by_cases stays : ∃ c ∈ s, q c = false
  · have turned : ∀ c ∈ p.reverse, q c = true := fun c hc => all c (List.mem_reverse.1 hc)
    rw [trimBy, dropWhile_append_of_mem stays, List.reverse_append,
      List.dropWhile_append_of_pos turned]
    rfl
  · have here : ∀ c ∈ s, q c = true := by simpa using stays
    have none_ : (s ++ p).dropWhile q = [] := by
      refine List.dropWhile_eq_nil_iff.2 fun c hc => ?_
      exact (List.mem_append.1 hc).elim (here c) (all c)
    rw [trimBy, none_, trimBy, List.dropWhile_eq_nil_iff.2 here]

/-- Trimming stops at a last character that stays. -/
theorem getLast?_trimBy_concat {q : Char → Bool} {c : Char} (stays : q c = false) (s : List Char) :
    (trimBy q (s ++ [c])).getLast? = some c := by
  have front : ∃ t, (s ++ [c]).dropWhile q = t ++ [c] := by
    by_cases mixed : ∃ d ∈ s, q d = false
    · exact ⟨_, dropWhile_append_of_mem mixed⟩
    · have all : ∀ d ∈ s, q d = true := by simpa using mixed
      exact ⟨[], by rw [List.dropWhile_append_of_pos all, List.dropWhile_cons]; simp [stays]⟩
  obtain ⟨t, ht⟩ := front
  have whole : trimBy q (s ++ [c]) = t ++ [c] := by
    show ((s ++ [c]).dropWhile q).rdropWhile q = _
    rw [ht]
    exact List.rdropWhile_concat_neg q t c (by simp [stays])
  rw [whole, List.getLast?_concat]

/-- A last character that is in lower case stays the last one. -/
theorem exists_lower_concat (s : List Char) {c : Char} (lowered : IsLowered c) :
    ∃ t, lower (s ++ [c]) = t ++ [c] := by
  have ends (before : List Char) : ∃ t, lowerFrom before (s ++ [c]) = t ++ [c] := by
    induction s generalizing before with
    | nil =>
        refine ⟨[], ?_⟩
        rw [List.nil_append, lowerFrom, if_neg lowered.2, lowered.1]
        rfl
    | cons d s ih =>
        obtain ⟨t, ht⟩ := ih (d :: before)
        rw [List.cons_append, lowerFrom, ht, ← List.append_assoc]
        exact ⟨_, rfl⟩
  exact ends []

end VoiceControl.Text

namespace VoiceControl.Lexicon

open VoiceControl.Text

variable {lx : Lexicon} {s p w : List Char}

/-! ## Edge marks -/

theorem isBlank_of_isEdgeMark {c : Char} (h : isEdgeMark c = true) : isBlank c = false :=
  of_contains (P := fun d => isBlank d = false) (by decide) h

theorem isLowered_of_isEdgeMark {c : Char} (h : isEdgeMark c = true) : IsLowered c :=
  of_contains (P := IsLowered) (by decide) h

theorem isIgnored_append (marks : ∀ c ∈ p, isEdgeMark c = true) (w : List Char) :
    lx.isIgnored (w ++ p) = lx.isIgnored w := by
  rw [isIgnored, isIgnored, trimBy_append_of_all marks]

/-- Whether the last word of a text means nothing. -/
def endsIgnored (lx : Lexicon) (s : List Char) : Bool := (words s).getLast?.any lx.isIgnored

/-- What remains of a text, with marks attached as they are attached to the text. -/
def attach (lx : Lexicon) (s p : List Char) : List Char :=
  lx.significant s ++ if s.getLast?.any isBlank then ' ' :: p else p

/-- What remains of words is what remains of all but the last, and the last if it means
something. -/
theorem filter_concat (lx : Lexicon) (front : List (List Char)) (w : List Char) :
    (front ++ [w]).filter (fun v => !lx.isIgnored v) =
      if lx.isIgnored w then front.filter fun v => !lx.isIgnored v
      else front.filter (fun v => !lx.isIgnored v) ++ [w] := by
  rw [List.filter_append, List.filter_singleton]
  cases lx.isIgnored w <;> simp

/-- With marks attached a text ends in a mark. -/
theorem exists_attach_eq (marks : ∀ c ∈ p, isEdgeMark c = true) (some_ : p ≠ []) (s : List Char) :
    ∃ t c, lx.attach s p = t ++ [c] ∧ isEdgeMark c = true := by
  have last := marks _ (List.getLast_mem some_)
  rw [attach]
  split
  · refine ⟨lx.significant s ++ ' ' :: p.dropLast, p.getLast some_, ?_, last⟩
    rw [List.append_assoc, List.cons_append, List.dropLast_append_getLast]
  · refine ⟨lx.significant s ++ p.dropLast, p.getLast some_, ?_, last⟩
    rw [List.append_assoc, List.dropLast_append_getLast]

/-- Attached marks go with the last word. -/
theorem significant_append (marks : ∀ c ∈ p, isEdgeMark c = true) (some_ : p ≠ [])
    (said : lx.significant s ≠ []) :
    lx.significant (s ++ p) =
      if lx.endsIgnored (s ++ p) then lx.significant s else lx.attach s p := by
  obtain ⟨front, w, unbroken, bare, split⟩ := exists_words_append s
  have whole : words s = front ++ words w := by simpa using split []
  have last : words (s ++ p) = front ++ [w ++ p] := by
    have unbroken' : ∀ c ∈ w ++ p, isBlank c = false := by
      intro c hc
      exact (List.mem_append.1 hc).elim (unbroken c) fun mem => isBlank_of_isEdgeMark (marks c mem)
    rw [split, words_of_unbroken ⟨by simp [some_], unbroken'⟩]
  have ends : lx.endsIgnored (s ++ p) = lx.isIgnored w := by
    rw [endsIgnored, last, ← isIgnored_append marks w]
    simp
  have spoken : s ≠ [] := by
    rintro rfl
    exact said rfl
  rw [ends, significant, last, filter_concat, isIgnored_append marks]
  by_cases none_ : w = []
  · -- the marks are a word of their own
    subst none_
    have blank : s.getLast?.any isBlank = true := (bare.1 rfl).resolve_left spoken
    have rest : lx.significant s = unwords (front.filter fun v => !lx.isIgnored v) := by
      rw [significant, whole, words_nil, List.append_nil]
    split
    · exact rest.symm
    · have kept : (front.filter fun v => !lx.isIgnored v) ≠ [] := by
        intro nothing
        rw [rest, nothing] at said
        exact said rfl
      rw [attach, if_pos blank, rest, List.nil_append, unwords_append kept, spaced,
        unwords_singleton]
  · -- the marks belong to the last word
    have blank : ¬ s.getLast?.any isBlank = true := fun h => none_ (bare.2 (.inr h))
    have rest : lx.significant s = unwords (if lx.isIgnored w
        then front.filter fun v => !lx.isIgnored v
        else front.filter (fun v => !lx.isIgnored v) ++ [w]) := by
      rw [significant, whole, words_of_unbroken ⟨none_, unbroken⟩, filter_concat]
    rw [attach, if_neg blank, rest]
    split
    · rfl
    · exact unwords_concat _ w p

end VoiceControl.Lexicon
