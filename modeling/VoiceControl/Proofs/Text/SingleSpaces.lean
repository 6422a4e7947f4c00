import Mathlib.Data.List.Chain
import Mathlib.Data.List.TakeWhile
import VoiceControl.Proofs.Text.Gluing

/-!
# Single spaces

A text is singly spaced if its spaces are inside it and no two of them stand next to each other.
Which characters stand next to each other is said by infixes of two and proved along the list.

* `isChain_iff_neighbours`: the one is the other.
* `squeeze_eq_self`: a singly spaced text has its blanks as they are made.
* `singlySpaced_unwords`: words that are joined are singly spaced.
-/

namespace VoiceControl.Text

/-- Neighbours in a list are its infixes of two. -/
theorem isChain_iff_neighbours {R : Char → Char → Prop} {s : List Char} :
    s.IsChain R ↔ ∀ a b, [a, b] <:+: s → R a b := by
  rw [List.isChain_iff_forall_rel_of_append_cons_cons]
  constructor
  · rintro chain a b ⟨l, r, rfl⟩
    exact @chain a b l r (by simp)
  · rintro chain a b l r rfl
    exact chain a b ⟨l, r, by simp⟩

/-- All spaces are inside, and no two of them stand next to each other. -/
structure SinglySpaced (s : List Char) : Prop where
  apart : ¬ [' ', ' '] <:+: s
  front : s.head? ≠ some ' '
  back : s.getLast? ≠ some ' '

section Words

variable {s w b : List Char}

/-- What stands on both sides of a space, and that what follows it is singly spaced. -/
theorem SinglySpaced.of_append (h : SinglySpaced (w ++ ' ' :: b)) :
    w ≠ [] ∧ b ≠ [] ∧ SinglySpaced b := by
  have last : b ≠ [] := by
    rintro rfl
    exact h.back (by simp)
  refine ⟨?_, last, ?_, ?_, ?_⟩
  · rintro rfl
    exact h.front rfl
  · exact fun within => h.apart (within.trans ⟨w ++ [' '], [], by simp⟩)
  · intro first
    obtain ⟨b, rfl⟩ := List.head?_eq_some_iff.1 first
    exact h.apart ⟨w, b, by simp⟩
  · intro ends
    refine h.back ?_
    rw [List.getLast?_append, List.getLast?_cons, ends]
    rfl

/-- The words of a singly spaced text without other blanks give back the text. -/
theorem squeeze_eq_self (single : SinglySpaced s) (only : ∀ c ∈ s, isBlank c = true → c = ' ') :
    squeeze s = s := by
  -- behind the space that ends the first word there is a shorter such text
  induction size : s.length using Nat.strong_induction_on generalizing s with
  | h n ih =>
      subst size
      have whole : s.takeWhile (fun c => !isBlank c) ++ s.dropWhile (fun c => !isBlank c) = s :=
        List.takeWhile_append_dropWhile
      have word : ∀ c ∈ s.takeWhile fun c => !isBlank c, isBlank c = false := fun c hc => by
        simpa using List.mem_takeWhile_imp hc
      generalize s.takeWhile (fun c => !isBlank c) = w at whole word
      cases rest : s.dropWhile fun c => !isBlank c with
      | nil =>
          obtain rfl : w = s := by rwa [rest, List.append_nil] at whole
          by_cases none_ : w = []
          · rw [none_]
            rfl
          · rw [squeeze, words_of_unbroken ⟨none_, word⟩, unwords_singleton]
      | cons blank b =>
          have ends : isBlank blank = true := by
            have := List.head?_dropWhile_not (fun c => !isBlank c) s
            rw [rest] at this
            simpa using this
          rw [rest] at whole
          subst whole
          obtain rfl : blank = ' ' := only blank (by simp) ends
          obtain ⟨front, back, later⟩ := single.of_append
          have squeezed : squeeze b = b :=
            ih b.length (by simp; omega) later (fun c hc => only c (by simp [hc])) rfl
          have more : words b ≠ [] := by
            intro none_
            rw [squeeze, none_] at squeezed
            exact back squeezed.symm
          have split : words (w ++ ' ' :: b) = w :: words b := by
            rw [words, List.splitOnP_append_cons_of_forall_mem word ' ' (by decide),
              List.filter_cons, if_pos (by simpa using front)]
            rfl
          obtain ⟨v, vs, parts⟩ := List.exists_cons_of_ne_nil more
          rw [squeeze, split, parts, unwords_cons_cons, ← parts]
          exact congrArg (w ++ ' ' :: ·) squeezed

theorem Unbroken.ne_space (h : Unbroken w) {c : Char} (hc : c ∈ w) : c ≠ ' ' := by
  rintro rfl
  exact absurd (h.unbroken ' ' hc) (by decide)

/-- Words that are joined are singly spaced. -/
theorem singlySpaced_unwords {ws : List (List Char)} (word : ∀ w ∈ ws, Unbroken w) :
    SinglySpaced (unwords ws) := by
  induction ws with
  | nil => exact ⟨by simp [unwords], by simp [unwords], by simp [unwords]⟩
  | cons w ws ih =>
      obtain ⟨here, later⟩ := List.forall_mem_cons.1 word
      have first : ∀ t : List Char, (w ++ t).head? ≠ some ' ' := by
        intro t starts
        rw [List.head?_append_of_ne_nil w here.ne] at starts
        exact here.ne_space (List.mem_of_head? starts) rfl
      have alone : w.IsChain fun a b => ¬(a = ' ' ∧ b = ' ') :=
        isChain_iff_neighbours.2 fun a b within both =>
          here.ne_space (within.mem (List.mem_cons_self)) both.1
      cases ws with
      | nil =>
          rw [unwords_singleton]
          refine ⟨fun within => isChain_iff_neighbours.1 alone ' ' ' ' within ⟨rfl, rfl⟩, ?_, ?_⟩
          · exact List.append_nil w ▸ first []
          · exact fun ends => here.ne_space (List.mem_of_getLast? ends) rfl
      | cons v vs =>
          have tail := ih later
          rw [unwords_cons_cons]
          refine ⟨fun within => ?_, first _, fun ends => tail.back ?_⟩
          · have chain :
                (w ++ ' ' :: unwords (v :: vs)).IsChain fun a b => ¬(a = ' ' ∧ b = ' ') := by
              rw [List.isChain_append, List.isChain_cons]
              refine ⟨alone,
                ⟨fun b hb both => ?_, isChain_iff_neighbours.2 fun a b within both => ?_⟩,
                fun a ha b _ both => here.ne_space (List.mem_of_getLast? ha) both.1⟩
              · exact tail.front (both.2 ▸ hb)
              · obtain ⟨rfl, rfl⟩ := both
                exact tail.apart within
            exact isChain_iff_neighbours.1 chain ' ' ' ' within ⟨rfl, rfl⟩
          · have some_ : unwords (v :: vs) ≠ [] := by
              rw [unwords_cons]
              exact fun none_ => (later v List.mem_cons_self).ne (List.append_eq_nil_iff.1 none_).1
            rwa [List.getLast?_append_of_ne_nil _ (List.cons_ne_nil _ _),
              List.getLast?_cons_of_ne_nil some_] at ends

end Words

end VoiceControl.Text
