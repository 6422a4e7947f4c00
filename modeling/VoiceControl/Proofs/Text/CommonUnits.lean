import VoiceControl.Proofs.Text.Matching
import Mathlib.Algebra.Order.Field.Rat
import Mathlib.Tactic.Positivity
import Mathlib.Tactic.NormNum

/-!
# The units that two texts have in common

The loop over the stack of windows finds blocks. The windows on the stack lie one in front of the
other in both sequences, the last one added behind all others, and taking a block out of a window
keeps it so. Hence no unit is matched twice and no two blocks cross: in their order the blocks spell
a sequence that runs through both texts.
-/

namespace VoiceControl

namespace Similarity

variable {a b : List Nat} {w v : Window} {k c : Block} {pending rest : List Window}

/-! ## The blocks that are found -/

/-- The blocks that the loop over a stack of windows matches, in the order in which it finds
them. -/
def foundBlocks (a b : List Nat) (pending : List Window) : List Block :=
  match pending with
  | [] => []
  | w :: rest =>
      let k := longestMatch a b w
      if k.size = 0 then foundBlocks a b rest
      else k :: foundBlocks a b (sides w k rest)
termination_by work pending
decreasing_by
  · simp only [work]
    omega
  · rename_i some_
    exact work_sides_lt rest (inside_longestMatch some_) some_

/-- The loop counts the units of the blocks that it finds. -/
theorem matchedCount_eq (a b : List Nat) (pending : List Window) (total : Nat) :
    matchedCount a b pending total =
      total + ((foundBlocks a b pending).map Block.size).sum := by
  fun_induction foundBlocks a b pending generalizing total with
  | case1 => rw [matchedCount]; rfl
  | case2 w rest k empty ih => rw [matchedCount, if_pos empty, ih]
  | case3 w rest k some_ ih =>
      rw [matchedCount, if_neg some_, ih, List.map_cons, List.sum_cons, Nat.add_assoc]

/-! ## The order of windows and blocks -/

/-- A block ends before another one starts, in both sequences. -/
def Block.Before (k c : Block) : Prop :=
  k.left + k.size ≤ c.left ∧ k.right + k.size ≤ c.right

/-- A window ends before another one starts, in both sequences. -/
def Window.Before (w v : Window) : Prop := w.leftHigh ≤ v.leftLow ∧ w.rightHigh ≤ v.rightLow

/-- Two blocks have no unit in common and stand in the same order in both sequences. -/
def Block.Apart (k c : Block) : Prop := k.Before c ∨ c.Before k

theorem Block.Apart.symm (h : k.Apart c) : c.Apart k := Or.symm h

/-- The windows of a stack lie inside the sequences, and each lies behind those below it. -/
structure Stacked (a b : List Nat) (pending : List Window) : Prop where
  within : ∀ w ∈ pending, w.Within a b
  behind : pending.Pairwise fun w v => v.Before w

theorem Stacked.tail (h : Stacked a b (w :: rest)) : Stacked a b rest :=
  ⟨fun v hv => h.within v (List.mem_cons_of_mem w hv), (List.pairwise_cons.1 h.behind).2⟩

theorem mem_defer (h : v ∈ defer w rest) : v = w ∨ v ∈ rest := by
  unfold defer at h
  split at h
  · exact List.mem_cons.1 h
  · exact .inr h

theorem Stacked.defer (h : Stacked a b rest) (within : w.Within a b)
    (behind : ∀ v ∈ rest, v.Before w) : Stacked a b (defer w rest) := by
  unfold Similarity.defer
  split
  · exact ⟨List.forall_mem_cons.2 ⟨within, h.within⟩, List.pairwise_cons.2 ⟨behind, h.behind⟩⟩
  · exact h

/-- What lies in front of a window lies in front of the parts behind a block of it, and so do the
parts in front of that block. -/
theorem Stacked.sides (h : Stacked a b (w :: rest)) (inside : k.Inside w) :
    Stacked a b (sides w k rest) := by
  obtain ⟨⟨left, left_end⟩, right, right_end⟩ := h.within w List.mem_cons_self
  obtain ⟨left_low, left_high, right_low, right_high⟩ := inside
  have behind := (List.pairwise_cons.1 h.behind).1
  have front : Stacked a b (Similarity.defer (w.front k) rest) :=
    h.tail.defer ⟨⟨left_low, by dsimp only [Window.front]; omega⟩, right_low,
      by dsimp only [Window.front]; omega⟩ behind
  -- the part behind the block goes on top: the part in front of it lies before it, and so does
  -- everything that lay before the window
  refine front.defer ⟨⟨left_high, left_end⟩, right_high, right_end⟩ fun v hv => ?_
  rcases mem_defer hv with rfl | hv
  · exact ⟨Nat.le_add_right _ _, Nat.le_add_right _ _⟩
  · obtain ⟨lefts, rights⟩ := behind v hv
    constructor <;> dsimp only [Window.back] <;> omega

/-- A block of one of the sides of another block is apart from it. -/
theorem apart_of_mem_sides (behind : ∀ v ∈ rest, v.Before w) (inside : k.Inside w)
    (side : v ∈ sides w k rest) (within : c.Inside v) : k.Apart c := by
  obtain ⟨left_low, left_high, right_low, right_high⟩ := within
  rcases mem_defer side with rfl | side
  · exact .inl ⟨left_low, right_low⟩
  rcases mem_defer side with rfl | below
  · exact .inr ⟨left_high, right_high⟩
  · obtain ⟨lefts, rights⟩ := behind v below
    have from_left := inside.left_low
    have from_right := inside.right_low
    exact .inr ⟨by omega, by omega⟩

/-- Windows that lie in another one's sides lie in it or were on the stack before. -/
theorem inside_of_mem_sides (inside : k.Inside w) (side : v ∈ sides w k rest)
    (c_inside : c.Inside v) : c.Inside w ∨ v ∈ rest := by
  obtain ⟨left_low, left_high, right_low, right_high⟩ := inside
  obtain ⟨left_low', left_high', right_low', right_high'⟩ := c_inside
  rcases mem_defer side with rfl | side
  · dsimp only [Window.back] at *
    exact .inl ⟨by omega, by omega, by omega, by omega⟩
  rcases mem_defer side with rfl | below
  · dsimp only [Window.front] at *
    exact .inl ⟨by omega, by omega, by omega, by omega⟩
  · exact .inr below

/-! ## The blocks of a stack -/

/-- Every block that is found lies in a window of the stack. -/
theorem exists_inside_of_mem_foundBlocks (h : k ∈ foundBlocks a b pending) :
    ∃ w ∈ pending, k.Inside w := by
  fun_induction foundBlocks a b pending with
  | case1 => cases h
  | case2 w rest k' empty ih =>
      obtain ⟨v, hv, inside⟩ := ih h
      exact ⟨v, List.mem_cons_of_mem w hv, inside⟩
  | case3 w rest k' some_ ih =>
      have found := inside_longestMatch some_
      rcases List.mem_cons.1 h with rfl | later
      · exact ⟨w, List.mem_cons_self, found⟩
      · obtain ⟨v, hv, inside⟩ := ih later
        rcases inside_of_mem_sides found hv inside with here | below
        · exact ⟨w, List.mem_cons_self, here⟩
        · exact ⟨v, List.mem_cons_of_mem w below, inside⟩

/-- Every block that is found is common to both sequences and not empty. -/
theorem shares_of_mem_foundBlocks (stacked : Stacked a b pending)
    (h : k ∈ foundBlocks a b pending) :
    (Window.whole a b).Shares a b k ∧ k.size ≠ 0 := by
  fun_induction foundBlocks a b pending with
  | case1 => cases h
  | case2 w rest k' empty ih => exact ih stacked.tail h
  | case3 w rest k' some_ ih =>
      have found := inside_longestMatch some_
      rcases List.mem_cons.1 h with rfl | later
      · have within := stacked.within w List.mem_cons_self
        have shares := (shares_iff_common within).2 (longest_longestMatch a b w).common
        obtain ⟨⟨-, left_end⟩, -, right_end⟩ := within
        refine ⟨⟨⟨Nat.zero_le _, ?_, Nat.zero_le _, ?_⟩, shares.same⟩, some_⟩
        · exact Nat.le_trans found.left_high left_end
        · exact Nat.le_trans found.right_high right_end
      · exact ih (stacked.sides found) later

/-- No two blocks that are found overlap or cross. -/
theorem pairwise_apart_foundBlocks (stacked : Stacked a b pending) :
    (foundBlocks a b pending).Pairwise Block.Apart := by
  fun_induction foundBlocks a b pending with
  | case1 => exact List.Pairwise.nil
  | case2 w rest k empty ih => exact ih stacked.tail
  | case3 w rest k some_ ih =>
      have found := inside_longestMatch some_
      -- a block that is found later lies in one of the sides of this one, or further down
      refine List.pairwise_cons.2 ⟨fun c hc => ?_, ih (stacked.sides found)⟩
      obtain ⟨v, hv, inside⟩ := exists_inside_of_mem_foundBlocks hc
      exact apart_of_mem_sides (List.pairwise_cons.1 stacked.behind).1 found hv inside

/-! ## The common subsequence -/

/-- Non-empty blocks that are apart can be put in their order. -/
theorem exists_ordered {ks : List Block} (apart : ks.Pairwise Block.Apart)
    (some_ : ∀ k ∈ ks, k.size ≠ 0) : ∃ cs : List Block, cs.Perm ks ∧ cs.Pairwise Block.Before := by
  let earlier : Block → Block → Bool := fun k c => decide (k.left ≤ c.left)
  let sorted := ks.mergeSort earlier
  have perm : sorted.Perm ks := List.mergeSort_perm ks _
  have ascending : sorted.Pairwise fun k c => k.left ≤ c.left := by
    have transitive (i j k : Block) (h : earlier i j = true) (h' : earlier j k = true) :
        earlier i k = true :=
      decide_eq_true ((of_decide_eq_true h).trans (of_decide_eq_true h'))
    have total (i j : Block) : (earlier i j || earlier j i) = true := by
      simpa [earlier] using Nat.le_total i.left j.left
    exact (List.pairwise_mergeSort transitive total ks).imp of_decide_eq_true
  have apart' : sorted.Pairwise Block.Apart :=
    (perm.pairwise_iff fun h => h.symm).2 apart
  refine ⟨sorted, perm, ?_⟩
  refine (ascending.and apart').imp_of_mem fun {k c} hk hc both => ?_
  -- a block that starts no later cannot stand behind
  have size := some_ c (perm.mem_iff.1 hc)
  rcases both.2 with before | after
  · exact before
  · obtain ⟨lefts, rights⟩ := after
    have := both.1
    omega

/-- The units of some blocks of a sequence, where `start` says where a block starts in it. -/
def spelled (l : List Nat) (start : Block → Nat) (ks : List Block) : List Nat :=
  ks.flatMap fun k => l.extract (start k) (start k + k.size)

theorem spelled_sublist_drop (l : List Nat) (start : Block → Nat) {ks : List Block} {p : Nat}
    (ordered : ks.Pairwise fun k c => start k + k.size ≤ start c) (from_ : ∀ k ∈ ks, p ≤ start k) :
    (spelled l start ks).Sublist (l.drop p) := by
  induction ks generalizing p with
  | nil => exact List.nil_sublist _
  | cons k ks ih =>
      obtain ⟨first, rest⟩ := List.pairwise_cons.1 ordered
      have start_le := from_ k List.mem_cons_self
      have later := ih rest first
      have split : l.drop (start k) =
          l.extract (start k) (start k + k.size) ++ l.drop (start k + k.size) := by
        rw [← List.drop_drop]
        show _ = (l.drop (start k)).take (start k + k.size - start k) ++ _
        rw [Nat.add_sub_cancel_left, List.take_append_drop]
      have here : (spelled l start (k :: ks)).Sublist (l.drop (start k)) := by
        rw [split]
        exact later.append_left _
      exact here.trans (List.drop_sublist_drop_left l start_le)

theorem stacked_whole (a b : List Nat) : Stacked a b [.whole a b] :=
  ⟨by simpa using within_whole a b, List.pairwise_singleton _ _⟩

/-- A sequence is spelled by blocks of both sequences, in order and without overlap. -/
structure Aligned (a b : List Nat) (ks : List Block) : Prop where
  ordered : ks.Pairwise Block.Before
  shares : ∀ k ∈ ks, (Window.whole a b).Shares a b k

theorem Aligned.spelled_eq {ks : List Block} (h : Aligned a b ks) :
    spelled b Block.right ks = spelled a Block.left ks :=
  congrArg List.flatten (List.map_congr_left fun k hk => (h.shares k hk).same.symm)

theorem Aligned.sublist {ks : List Block} (h : Aligned a b ks) :
    (spelled a Block.left ks).Sublist a ∧ (spelled a Block.left ks).Sublist b := by
  have lefts := spelled_sublist_drop a Block.left
    (h.ordered.imp And.left) fun k _ => Nat.zero_le k.left
  have rights := spelled_sublist_drop b Block.right
    (h.ordered.imp And.right) fun k _ => Nat.zero_le k.right
  rw [List.drop_zero] at lefts rights
  exact ⟨lefts, h.spelled_eq ▸ rights⟩

theorem Aligned.length_spelled {ks : List Block} (h : Aligned a b ks) :
    (spelled a Block.left ks).length = (ks.map Block.size).sum := by
  rw [spelled, List.length_flatMap]
  refine congrArg List.sum (List.map_congr_left fun k hk => ?_)
  have inside := (h.shares k hk).inside.left_high
  dsimp only [Window.whole] at inside
  rw [List.length_take, List.length_drop]
  omega

/-- The blocks that the loop finds, put in their order, spell a common subsequence of as many units
as the loop counts. -/
theorem exists_aligned (a b : List Nat) :
    ∃ ks : List Block, ks.Perm (foundBlocks a b [.whole a b]) ∧ Aligned a b ks ∧
      (spelled a Block.left ks).length = matchedCount a b [.whole a b] 0 := by
  have stacked := stacked_whole a b
  obtain ⟨ks, perm, ordered⟩ := exists_ordered (pairwise_apart_foundBlocks stacked)
    fun k hk => (shares_of_mem_foundBlocks stacked hk).2
  have aligned : Aligned a b ks :=
    ⟨ordered, fun k hk => (shares_of_mem_foundBlocks stacked (perm.mem_iff.1 hk)).1⟩
  refine ⟨ks, perm, aligned, ?_⟩
  rw [aligned.length_spelled, matchedCount_eq, Nat.zero_add]
  exact (perm.map Block.size).sum_eq

/-! ## How many units are matched -/

/-- As many units as both sequences have are matched only in two equal ones. -/
theorem matchedLength_le (a b : List Nat) :
    matchedLength a b ≤ a.length ∧ matchedLength a b ≤ b.length ∧
      (matchedLength a b = a.length → matchedLength a b = b.length → a = b) := by
  obtain ⟨ks, -, aligned, length⟩ := exists_aligned a b
  obtain ⟨left, right⟩ := aligned.sublist
  rw [(loop_ends a b).2] at length
  rw [← length]
  refine ⟨left.length_le, right.length_le, fun all all' => ?_⟩
  rw [← left.eq_of_length all, right.eq_of_length all']

/-- All units of a sequence are matched with those of the same sequence. -/
theorem matchedLength_self (a : List Nat) : matchedLength a a = a.length := by
  have longest := longest_whole a a
  have common : Common a a 0 0 ⟨0, 0, a.length⟩ :=
    ⟨Nat.le_refl _, by simp, Nat.le_refl _, by simp, rfl⟩
  have size : a.length ≤ (longestMatch a a (.whole a a)).size := by
    have precedes := longest.precedes _ common
    unfold Block.Precedes at precedes
    dsimp only at precedes
    omega
  refine Nat.le_antisymm (matchedLength_le a a).1 (Nat.le_trans size ?_)
  rw [matchedLength_eq longest]
  split
  · omega
  · rw [Nat.add_assoc]
    exact Nat.le_add_right _ _

theorem matchedLength_eq_zero_iff (a b : List Nat) :
    matchedLength a b = 0 ↔ ∀ x ∈ a, x ∉ b := by
  have longest := longest_whole a b
  rw [← longest.size_eq_zero_iff, matchedLength_eq longest]
  split
  · rename_i empty
    exact iff_of_true rfl empty
  · rename_i some_
    exact iff_of_false (by omega) some_

/-! ## The share of the matched units -/

/-- The share of the units of two sequences that are matched, twice the number of those in one. -/
def share (a b : List Nat) : Rat :=
  if a.length + b.length = 0 then 1
  else mkRat (2 * matchedCount a b [.whole a b] 0) (a.length + b.length)

theorem share_eq (some_ : a.length + b.length ≠ 0) :
    share a b = (2 * matchedLength a b : Nat) / (a.length + b.length : Nat) := by
  rw [share, if_neg some_, (loop_ends a b).2, Rat.mkRat_eq_div]
  push_cast
  rfl

/-- The share of matched units lies between none and all. It is all exactly in two equal sequences,
and none exactly in two without a common unit, unless both are empty. -/
theorem share_bounds (a b : List Nat) :
    (0 ≤ share a b ∧ share a b ≤ 1) ∧ (share a b = 1 ↔ a = b) ∧
      (share a b = 0 ↔ (∀ x ∈ a, x ∉ b) ∧ ¬ (a = [] ∧ b = [])) := by
  by_cases none_ : a.length + b.length = 0
  · obtain ⟨rfl, rfl⟩ : a = [] ∧ b = [] := by
      simpa [Nat.add_eq_zero_iff] using none_
    have one : share [] [] = 1 := if_pos rfl
    rw [one]
    simp
  · have positive : (0 : Rat) < (a.length + b.length : Nat) := by
      exact_mod_cast Nat.pos_of_ne_zero none_
    obtain ⟨left, right, equal⟩ := matchedLength_le a b
    have notEmpty : ¬ (a = [] ∧ b = []) := by
      rintro ⟨rfl, rfl⟩
      exact none_ rfl
    rw [share_eq none_]
    refine ⟨⟨by positivity, ?_⟩, ?_, ?_⟩
    · rw [div_le_one positive]
      exact_mod_cast (by omega : 2 * matchedLength a b ≤ a.length + b.length)
    · rw [div_eq_one_iff_eq positive.ne', Nat.cast_inj]
      constructor
      · intro all
        exact equal (by omega) (by omega)
      · rintro rfl
        rw [matchedLength_self]
        omega
    · rw [div_eq_zero_iff, or_iff_left positive.ne', Nat.cast_eq_zero,
        and_iff_left notEmpty, ← matchedLength_eq_zero_iff]
      omega

end Similarity

end VoiceControl
