import VoiceControl.Similarity
import Mathlib.Data.Rat.Defs
import Mathlib.Logic.Function.Iterate

/-!
# Matching by longest blocks

The likeness of two texts counts the units that are matched block by block. The count is worked out
with windows into both texts and a stack of those still to do; it is what the recursive rule gives
for the two texts, and the rule leaves no choice.

* `Similarity.Window.Prefers`: the longest common block of a window, the first of several.
* `Similarity.Rule`: the recursive rule.
* `Similarity.turn`: one turn of the loop over the stack.
* `likeness_by_longest_blocks`: the loop ends with what the rule gives, and likeness is its share.
-/

namespace VoiceControl

namespace Similarity

variable {a b : List Nat} {i j : Nat} {w : Window} {k c : Block} {M : List Nat → List Nat → Nat}

/-! ## Blocks of a window -/

/-- A window lies inside two sequences. -/
structure Window.Within (w : Window) (a b : List Nat) : Prop where
  left : w.leftLow ≤ w.leftHigh ∧ w.leftHigh ≤ a.length
  right : w.rightLow ≤ w.rightHigh ∧ w.rightHigh ≤ b.length

/-- Two sequences have a block in common that lies in a window. -/
structure Window.Shares (w : Window) (a b : List Nat) (k : Block) : Prop where
  inside : k.Inside w
  same : a.extract k.left (k.left + k.size) = b.extract k.right (k.right + k.size)

/-- A block is the preferred one of those that two sequences have in common in a window. -/
structure Window.Prefers (w : Window) (a b : List Nat) (k : Block) : Prop where
  shares : w.Shares a b k
  precedes : ∀ c, w.Shares a b c → k.Precedes c

section Stretches

variable {l : List Nat} {low high start size : Nat}

theorem extract_all (l : List Nat) : l.extract 0 l.length = l := by simp

theorem take_extract (until_ : start ≤ high) :
    (l.extract low high).take (start - low) = l.extract low start := by
  rw [List.take_take, Nat.min_eq_left (by omega)]

theorem drop_extract (from_ : low ≤ start) :
    (l.extract low high).drop (start - low) = l.extract start high := by
  rw [List.drop_take, List.drop_drop, Nat.add_sub_cancel' from_,
    show high - low - (start - low) = high - start by omega]

/-- The units of a block are those of the stretch that it lies in. -/
theorem take_drop_extract (from_ : low ≤ start) (until_ : start + size ≤ high) :
    ((l.extract low high).drop (start - low)).take size = l.extract start (start + size) := by
  rw [drop_extract from_, ← take_extract until_, Nat.add_sub_cancel_left]

end Stretches

theorem shares_iff_common (within : w.Within a b) :
    w.Shares a b k ↔
      Common (a.extract w.leftLow w.leftHigh) (b.extract w.rightLow w.rightHigh) w.leftLow
        w.rightLow k := by
  obtain ⟨⟨left, left_end⟩, right, right_end⟩ := within
  have lengths : (a.extract w.leftLow w.leftHigh).length = w.leftHigh - w.leftLow ∧
      (b.extract w.rightLow w.rightHigh).length = w.rightHigh - w.rightLow := by
    simp only [List.length_take, List.length_drop]
    omega
  constructor
  · rintro ⟨⟨left_low, left_high, right_low, right_high⟩, same⟩
    refine ⟨left_low, by omega, right_low, by omega, ?_⟩
    rw [take_drop_extract left_low left_high, take_drop_extract right_low right_high, same]
  · rintro ⟨left_low, left_high, right_low, right_high, same⟩
    have inside : k.Inside w := ⟨left_low, by omega, right_low, by omega⟩
    rw [take_drop_extract left_low inside.left_high,
      take_drop_extract right_low inside.right_high] at same
    exact ⟨inside, same⟩

theorem prefers_iff_longest (within : w.Within a b) :
    w.Prefers a b k ↔
      Longest (a.extract w.leftLow w.leftHigh) (b.extract w.rightLow w.rightHigh) w.leftLow
        w.rightLow k := by
  constructor
  · rintro ⟨shares, precedes⟩
    exact ⟨(shares_iff_common within).1 shares,
      fun c common => precedes c ((shares_iff_common within).2 common)⟩
  · rintro ⟨common, precedes⟩
    exact ⟨(shares_iff_common within).2 common,
      fun c shares => precedes c ((shares_iff_common within).1 shares)⟩

theorem within_whole (a b : List Nat) : (Window.whole a b).Within a b :=
  ⟨⟨Nat.zero_le _, Nat.le_refl _⟩, Nat.zero_le _, Nat.le_refl _⟩

theorem prefers_whole_iff : (Window.whole a b).Prefers a b k ↔ Longest a b 0 0 k := by
  rw [prefers_iff_longest (within_whole a b), Window.whole, extract_all, extract_all]

theorem longest_whole (a b : List Nat) : Longest a b 0 0 (longestMatch a b (.whole a b)) := by
  have longest := longest_longestMatch a b (.whole a b)
  simp only [Window.whole, extract_all] at longest ⊢
  exact longest

/-- The preferred block is empty exactly if nothing is shared. -/
theorem Longest.size_eq_zero_iff (h : Longest a b i j k) : k.size = 0 ↔ ∀ x ∈ a, x ∉ b := by
  constructor
  · intro empty x left right
    -- a shared unit is a block of its own
    obtain ⟨p, hp, rfl⟩ := List.getElem_of_mem left
    obtain ⟨q, hq, same⟩ := List.getElem_of_mem right
    have common : Common a b i j ⟨i + p, j + q, 1⟩ := by
      refine ⟨by simp, by dsimp only; omega, by simp, by dsimp only; omega, ?_⟩
      dsimp only
      rw [Nat.add_sub_cancel_left, Nat.add_sub_cancel_left, List.drop_eq_getElem_cons hp,
        List.drop_eq_getElem_cons hq, same]
      rfl
    have precedes := h.precedes _ common
    unfold Block.Precedes at precedes
    dsimp only at precedes
    omega
  · intro apart
    obtain ⟨left_low, left_high, right_low, right_high, same⟩ := h.common
    refine Classical.byContradiction fun some_ => ?_
    have left : k.left - i < a.length := by omega
    have right : k.right - j < b.length := by omega
    obtain ⟨n, size⟩ := Nat.exists_eq_succ_of_ne_zero some_
    rw [size, List.drop_eq_getElem_cons left, List.drop_eq_getElem_cons right,
      List.take_succ_cons, List.take_succ_cons, List.cons.injEq] at same
    exact apart _ (List.getElem_mem left) (same.1 ▸ List.getElem_mem right)

theorem Longest.size_ne_zero_iff (h : Longest a b i j k) : k.size ≠ 0 ↔ ∃ x ∈ a, x ∈ b := by
  rw [Ne, h.size_eq_zero_iff]
  push Not
  rfl

/-! ## The rule -/

/-- The rule by which units are matched: none where nothing is shared, and else those of the
preferred block and of the parts on either side of it. -/
structure Rule (M : List Nat → List Nat → Nat) : Prop where
  apart : ∀ {a b}, (∀ x ∈ a, x ∉ b) → M a b = 0
  shared : ∀ {a b k}, (∃ x ∈ a, x ∈ b) → (Window.whole a b).Prefers a b k →
    M a b = k.size + M (a.take k.left) (b.take k.right) +
      M (a.drop (k.left + k.size)) (b.drop (k.right + k.size))

/-- Where two stretches start has no part in which of their blocks is preferred. -/
theorem Longest.shift (h : Longest a b i j k) :
    Longest a b 0 0 ⟨k.left - i, k.right - j, k.size⟩ := by
  obtain ⟨left_low, left_high, right_low, right_high, same⟩ := h.common
  refine ⟨⟨Nat.zero_le _, ?_, Nat.zero_le _, ?_, same⟩, fun c common => ?_⟩
  · dsimp only
    omega
  · dsimp only
    omega
  · have lefts := common.left_high
    have rights := common.right_high
    have moved : Common a b i j ⟨i + c.left, j + c.right, c.size⟩ := by
      refine ⟨Nat.le_add_right _ _, ?_, Nat.le_add_right _ _, ?_, ?_⟩
      · dsimp only
        omega
      · dsimp only
        omega
      · dsimp only
        rw [Nat.add_sub_cancel_left, Nat.add_sub_cancel_left]
        exact common.same
    have precedes := h.precedes _ moved
    unfold Block.Precedes at *
    dsimp only at *
    omega

/-- The rule for two stretches, in terms of their preferred block at whatever positions. -/
theorem matchedLength_eq (h : Longest a b i j k) :
    matchedLength a b =
      if k.size = 0 then 0
      else
        k.size + matchedLength (a.take (k.left - i)) (b.take (k.right - j)) +
          matchedLength (a.drop (k.left + k.size - i)) (b.drop (k.right + k.size - j)) := by
  have found : longestMatch a b (.whole a b) = ⟨k.left - i, k.right - j, k.size⟩ :=
    (longest_whole a b).unique h.shift
  have left := h.common.left_low
  have right := h.common.right_low
  rw [matchedLength, found]
  dsimp only
  rw [show k.left - i + k.size = k.left + k.size - i by omega,
    show k.right - j + k.size = k.right + k.size - j by omega]

theorem rule_matchedLength : Rule matchedLength where
  apart {a b} apart := by
    have longest := longest_whole a b
    rw [matchedLength_eq longest, if_pos (longest.size_eq_zero_iff.2 apart)]
  shared {a b k} shared prefers := by
    have longest := prefers_whole_iff.1 prefers
    rw [matchedLength_eq longest, if_neg (longest.size_ne_zero_iff.2 shared)]
    rfl

/-- The rule leaves no choice. -/
theorem Rule.eq_matchedLength (rule : Rule M) (a b : List Nat) : M a b = matchedLength a b := by
  fun_induction matchedLength a b with
  | case1 a b k empty => exact rule.apart ((longest_whole a b).size_eq_zero_iff.1 empty)
  | case2 a b k some_ front back =>
      have longest := longest_whole a b
      rw [rule.shared (longest.size_ne_zero_iff.1 some_) (prefers_whole_iff.2 longest), front, back]

/-! ## The loop over the stack -/

/-- The number of units that the rule matches in a window. -/
def Window.matched (w : Window) (a b : List Nat) : Nat :=
  matchedLength (a.extract w.leftLow w.leftHigh) (b.extract w.rightLow w.rightHigh)

theorem Window.matched_of_empty (empty : (longestMatch a b w).size = 0) : w.matched a b = 0 := by
  rw [matched, matchedLength_eq (longest_longestMatch a b w), if_pos empty]

/-- What the rule matches in a window is its block and what it matches on either side of it. -/
theorem Window.matched_of_block (some_ : (longestMatch a b w).size ≠ 0) :
    w.matched a b = (longestMatch a b w).size + (w.front (longestMatch a b w)).matched a b +
      (w.back (longestMatch a b w)).matched a b := by
  obtain ⟨left_low, left_high, right_low, right_high⟩ := inside_longestMatch some_
  rw [matched, matchedLength_eq (longest_longestMatch a b w), if_neg some_,
    take_extract (by omega), take_extract (by omega), drop_extract (by omega),
    drop_extract (by omega)]
  rfl

/-- A window with an empty stretch holds nothing that the rule matches. -/
theorem Window.matched_of_flat (flat : ¬ (w.leftLow < w.leftHigh ∧ w.rightLow < w.rightHigh)) :
    w.matched a b = 0 := by
  refine matched_of_empty (Classical.byContradiction fun some_ => flat ?_)
  obtain ⟨left_low, left_high, right_low, right_high⟩ := inside_longestMatch some_
  omega

/-- The number of units that the rule matches in all windows of a stack. -/
def matchedIn (a b : List Nat) : List Window → Nat
  | [] => 0
  | w :: rest => w.matched a b + matchedIn a b rest

theorem matchedIn_defer (w : Window) (rest : List Window) :
    matchedIn a b (defer w rest) = w.matched a b + matchedIn a b rest := by
  unfold defer
  split
  · rfl
  · rename_i flat
    rw [Window.matched_of_flat flat, Nat.zero_add]

/-- One turn of the loop: the window that was added last is looked into. -/
def turn (a b : List Nat) : List Window × Nat → List Window × Nat
  | ([], total) => ([], total)
  | (w :: rest, total) =>
      let k := longestMatch a b w
      if k.size = 0 then (rest, total) else (sides w k rest, total + k.size)

/-- A turn takes units from the windows to the total. -/
theorem matchedIn_turn (a b : List Nat) (s : List Window × Nat) :
    (turn a b s).2 + matchedIn a b (turn a b s).1 = s.2 + matchedIn a b s.1 := by
  obtain ⟨pending, total⟩ := s
  cases pending with
  | nil => rfl
  | cons w rest =>
      rw [turn, matchedIn]
      dsimp only
      split
      · rename_i empty
        rw [Window.matched_of_empty empty, Nat.zero_add]
      · rename_i some_
        rw [Window.matched_of_block some_, sides, matchedIn_defer, matchedIn_defer]
        omega

/-- A turn leaves less work, as long as there is any. -/
theorem work_turn_lt (a b : List Nat) {s : List Window × Nat} (some_ : s.1 ≠ []) :
    work (turn a b s).1 < work s.1 := by
  obtain ⟨pending, total⟩ := s
  cases pending with
  | nil => exact absurd rfl some_
  | cons w rest =>
      rw [turn]
      dsimp only
      split
      · dsimp only [work]
        omega
      · rename_i block
        exact work_sides_lt rest (inside_longestMatch block) block

/-- After as many turns as there was work nothing is left to do, and the total is what the rule
matches. -/
theorem iterate_turn (a b : List Nat) (s : List Window × Nat) {n : Nat} (enough : work s.1 ≤ n) :
    (turn a b)^[n] s = ([], s.2 + matchedIn a b s.1) := by
  induction n generalizing s with
  | zero =>
      obtain ⟨pending, total⟩ := s
      cases pending with
      | nil => rfl
      | cons w rest =>
          dsimp only [work] at enough
          omega
  | succ n ih =>
      rw [Function.iterate_succ_apply, ih (turn a b s), matchedIn_turn]
      by_cases idle : s.1 = []
      · obtain ⟨pending, total⟩ := s
        obtain rfl : pending = [] := idle
        exact Nat.zero_le n
      · have less := work_turn_lt a b idle
        omega

/-- The loop goes on turn by turn. -/
theorem matchedCount_turn (a b : List Nat) (s : List Window × Nat) :
    matchedCount a b (turn a b s).1 (turn a b s).2 = matchedCount a b s.1 s.2 := by
  obtain ⟨pending, total⟩ := s
  cases pending with
  | nil => rfl
  | cons w rest =>
      rw [turn, matchedCount]
      dsimp only
      split <;> rfl

theorem matchedCount_iterate (a b : List Nat) (s : List Window × Nat) (n : Nat) :
    matchedCount a b ((turn a b)^[n] s).1 ((turn a b)^[n] s).2 = matchedCount a b s.1 s.2 := by
  induction n generalizing s with
  | zero => rfl
  | succ n ih => rw [Function.iterate_succ_apply, ih, matchedCount_turn]

/-- The loop over the stack ends and gives what the rule gives. -/
theorem loop_ends (a b : List Nat) :
    (∃ n ≤ a.length + b.length + 1,
      (turn a b)^[n] ([.whole a b], 0) = ([], matchedLength a b)) ∧
    matchedCount a b [.whole a b] 0 = matchedLength a b := by
  have work_whole : work [Window.whole a b] = a.length + b.length + 1 := rfl
  have all : matchedIn a b [.whole a b] = matchedLength a b := by
    show Window.matched (.whole a b) a b = _
    rw [Window.matched, Window.whole, extract_all, extract_all]
  have ended := iterate_turn a b ([.whole a b], 0) (Nat.le_of_eq work_whole)
  have same := matchedCount_iterate a b ([.whole a b], 0) (a.length + b.length + 1)
  rw [ended, Nat.zero_add, all, matchedCount] at same
  rw [Nat.zero_add, all] at ended
  exact ⟨⟨_, Nat.le_refl _, ended⟩, same.symm⟩

end Similarity

open Similarity Text

theorem Text.units_eq_nil_iff {s : List Char} : units s = [] ↔ s = [] := by
  cases s with
  | nil => exact iff_of_true rfl rfl
  | cons c s =>
      have some_ : unitsOf c ≠ [] := by
        unfold unitsOf
        dsimp only
        split <;> exact List.cons_ne_nil _ _
      simp [units, some_]

theorem likeness_eq (s t : List Char) :
    likeness s t =
      if s = [] ∧ t = [] then 1
      else (2 * matchedLength (units s) (units t) : Rat) /
        ((units s).length + (units t).length) := by
  have empty : (units s).length + (units t).length = 0 ↔ s = [] ∧ t = [] := by
    rw [Nat.add_eq_zero_iff, List.length_eq_zero_iff, List.length_eq_zero_iff,
      units_eq_nil_iff, units_eq_nil_iff]
  unfold likeness
  dsimp only
  rw [(loop_ends (units s) (units t)).2, Rat.mkRat_eq_div]
  simp only [empty]
  push_cast
  rfl

/-- What is found in a window of two sequences is their longest common block there; of several it is
the one that starts first in the first sequence, and of those the one that starts first in the
second. The rule that matches such blocks recursively determines how many units are matched; the loop
over the stack ends and counts just these. The likeness of two texts is twice their number over the
units of both texts, and that of two empty texts is one. -/
theorem similarity_by_longest_blocks :
    (∀ (a b : List Nat) (w : Window), w.Within a b → w.Prefers a b (longestMatch a b w)) ∧
    (Rule matchedLength ∧ ∀ M, Rule M → M = matchedLength) ∧
    (∀ a b,
      (∃ n ≤ a.length + b.length + 1,
        (turn a b)^[n] ([.whole a b], 0) = ([], matchedLength a b)) ∧
      matchedCount a b [.whole a b] 0 = matchedLength a b) ∧
    ∀ s t : List Char, similarity s t = .ofRat (
      if s = [] ∧ t = [] then 1
      else (2 * matchedLength (units s) (units t) : Rat) /
        ((units s).length + (units t).length)) := by
  refine ⟨fun a b w within => ?_, ⟨rule_matchedLength, fun M rule => ?_⟩, loop_ends,
    fun s t => ?_⟩
  · exact (prefers_iff_longest within).2 (longest_longestMatch a b w)
  · exact funext fun a => funext fun b => rule.eq_matchedLength a b
  · rw [similarity, likeness_eq]

/-- In a window of two texts that have several blocks in common. -/
theorem similarity_by_longest_blocks_window :
    let a := units "abxcd".toList
    let b := units "abcd".toList
    let w : Window := ⟨1, 5, 0, 4⟩
    w.Within a b ∧ w.Prefers a b ⟨3, 2, 2⟩ ∧ Rule matchedLength := by
  intro a b w
  have within : w.Within a b := by
    constructor <;> decide
  obtain ⟨prefers, ⟨rule, -⟩, -⟩ := similarity_by_longest_blocks
  have found : longestMatch a b w = ⟨3, 2, 2⟩ := by decide
  exact ⟨within, found ▸ prefers a b w within, rule⟩

end VoiceControl
