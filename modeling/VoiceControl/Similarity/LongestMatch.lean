/-!
# The longest common block

A scan over two stretches of units finds the longest block that both have in common. Row by row, for
each unit of the first stretch, it keeps the lengths of the common runs that end at each unit of the
second one, and the best block so far.

After every row the best block is the longest one of the rows so far and all of the second stretch,
and of several the one that starts first; that is the invariant behind `longest_longestMatch`. A
block therefore lies inside the stretches, which the search for further blocks relies on.
-/

namespace VoiceControl

namespace Similarity

/-- A block of units: where it starts in each of two sequences, and its length. -/
structure Block where
  left : Nat
  right : Nat
  size : Nat
  deriving Repr, DecidableEq

/-- The block of a length that ends at given positions of the two sequences. -/
def Block.endingAt (i j size : Nat) : Block := ⟨i + 1 - size, j + 1 - size, size⟩

/-- A stretch of each of two sequences, from one position up to another. -/
structure Window where
  leftLow : Nat
  leftHigh : Nat
  rightLow : Nat
  rightHigh : Nat
  deriving Repr, DecidableEq

/-- From the lengths of the common runs that end at each position of `b` just before `x`, the
lengths of those that end at `x`. The first entry of a row stands before `b`. -/
def runsEndingAt (x : Nat) : (before b : List Nat) → List Nat
  | p :: ps, y :: ys => (if x = y then p + 1 else 0) :: runsEndingAt x ps ys
  | _, _ => []

/-- The better of `best` and the runs of a row that end at position `i` of the first sequence and
from position `j` of the second on; the earlier of two equally long ones wins. -/
def bestInRow (i : Nat) : (j : Nat) → (row : List Nat) → (best : Block) → Block
  | _, [], best => best
  | j, size :: row, best =>
      bestInRow i (j + 1) row (if best.size < size then .endingAt i j size else best)

/-- Scans the rows from position `i` on, each against the units of `b` from position `j` on. -/
def longestFrom (b : List Nat) (j : Nat) : (i : Nat) → (a row : List Nat) → (best : Block) → Block
  | _, [], _, best => best
  | i, x :: a, row, best =>
      let runs := runsEndingAt x row b
      longestFrom b j (i + 1) a (0 :: runs) (bestInRow i j runs best)

/-- The longest common block of two sequences in a window; of several, the one that starts first in
`a`, and of those the one that starts first in `b`. -/
def longestMatch (a b : List Nat) (w : Window) : Block :=
  let right := b.extract w.rightLow w.rightHigh
  longestFrom right w.rightLow w.leftLow (a.extract w.leftLow w.leftHigh)
    (List.replicate (right.length + 1) 0) ⟨w.leftLow, w.rightLow, 0⟩

/-! ## Common blocks -/

/-- The order in which blocks are preferred: a longer one before a shorter one, and of equally long
ones the one that starts first. -/
def Block.Precedes (k c : Block) : Prop :=
  c.size < k.size ∨ c.size = k.size ∧ (k.left < c.left ∨ k.left = c.left ∧ k.right ≤ c.right)

theorem Block.Precedes.refl (k : Block) : k.Precedes k := .inr ⟨rfl, .inr ⟨rfl, Nat.le_refl _⟩⟩

theorem Block.Precedes.trans {k c d : Block} (h : k.Precedes c) (h' : c.Precedes d) :
    k.Precedes d := by
  unfold Precedes at *
  omega

theorem Block.Precedes.antisymm {k c : Block} (h : k.Precedes c) (h' : c.Precedes k) : k = c := by
  obtain ⟨l, r, s⟩ := k
  obtain ⟨l', r', s'⟩ := c
  simp only [Precedes, mk.injEq] at *
  omega

/-- A block is common to two stretches of units that start at positions `i` and `j`. -/
structure Common (a b : List Nat) (i j : Nat) (k : Block) : Prop where
  left_low : i ≤ k.left
  left_high : k.left + k.size ≤ i + a.length
  right_low : j ≤ k.right
  right_high : k.right + k.size ≤ j + b.length
  same : (a.drop (k.left - i)).take k.size = (b.drop (k.right - j)).take k.size

/-- A block is the preferred one of those that two stretches have in common. -/
structure Longest (a b : List Nat) (i j : Nat) (k : Block) : Prop where
  common : Common a b i j k
  precedes : ∀ c, Common a b i j c → k.Precedes c

variable {a b done : List Nat} {i j x : Nat} {k c best : Block}

theorem Longest.unique (h : Longest a b i j k) (h' : Longest a b i j c) : k = c :=
  (h.precedes c h'.common).antisymm (h'.precedes k h.common)

/-- Of the empty blocks the one at the start is preferred. -/
theorem Common.precedes_of_empty (h : Common a b i j c) (empty : c.size = 0) :
    Block.Precedes ⟨i, j, 0⟩ c := by
  have left := h.left_low
  have right := h.right_low
  unfold Block.Precedes
  dsimp only
  omega

theorem common_empty (a b : List Nat) (i j : Nat) : Common a b i j ⟨i, j, 0⟩ :=
  ⟨Nat.le_refl _, Nat.le_add_right _ _, Nat.le_refl _, Nat.le_add_right _ _, rfl⟩

/-- Before the first unit there are only empty blocks. -/
theorem longest_nil (b : List Nat) (i j : Nat) : Longest [] b i j ⟨i, j, 0⟩ where
  common := common_empty [] b i j
  precedes c h := by
    have low := h.left_low
    have high := h.left_high
    rw [List.length_nil] at high
    exact h.precedes_of_empty (by omega)

/-! ## Common runs -/

/-- The number of units in which two sequences agree from their start on. -/
def agreement : List Nat → List Nat → Nat
  | x :: xs, y :: ys => if x = y then agreement xs ys + 1 else 0
  | _, _ => 0

theorem le_agreement_iff {n : Nat} :
    n ≤ agreement a b ↔ n ≤ a.length ∧ n ≤ b.length ∧ a.take n = b.take n := by
  induction a generalizing b n with
  | nil => cases b <;> simp +contextual [agreement]
  | cons x a ih =>
      cases b with
      | nil => simp +contextual [agreement]
      | cons y b =>
          cases n with
          | zero => simp
          | succ n =>
              simp only [agreement, List.length_cons, List.take_succ_cons, List.cons.injEq]
              split
              · rename_i same
                simp [same, ih]
              · rename_i other
                simp [other]

/-- The lengths of the common runs that end at each place of a sequence, of which `before` is the
part that was passed, from the last unit back. -/
def rowFor (a : List Nat) : (before b : List Nat) → List Nat
  | before, [] => [agreement a before]
  | before, y :: b => agreement a before :: rowFor a (y :: before) b

theorem rowFor_nil (before b : List Nat) : rowFor [] before b = List.replicate (b.length + 1) 0 := by
  induction b generalizing before with
  | nil => rfl
  | cons y b ih => rw [rowFor, ih]; rfl

/-- The scan works out one row from the row before. -/
theorem rowFor_cons (x : Nat) (a before b : List Nat) :
    rowFor (x :: a) before b =
      agreement (x :: a) before :: runsEndingAt x (rowFor a before b) b := by
  induction b generalizing before with
  | nil => rfl
  | cons y b ih => rw [rowFor, ih, rowFor, runsEndingAt, agreement]

theorem getElem?_rowFor (a before b : List Nat) (t : Nat) :
    (rowFor a before b)[t]? =
      if t ≤ b.length then some (agreement a ((b.take t).reverse ++ before)) else none := by
  induction b generalizing before t with
  | nil => cases t <;> simp [rowFor]
  | cons y b ih => cases t <;> simp [rowFor, ih]

/-- A block that ends where two stretches end is common if it is no longer than their common run. -/
theorem common_iff_of_ends {t : Nat} (inside : t ≤ b.length) (left : k.left + k.size = i + a.length)
    (right : k.right + k.size = j + t) :
    Common a b i j k ↔ k.size ≤ agreement a.reverse (b.take t).reverse := by
  have length : (b.take t).length = t := List.length_take_of_le inside
  have lefts : a.reverse.take k.size = (a.drop (a.length - k.size)).reverse := List.take_reverse
  have rights : (b.take t).reverse.take k.size = ((b.take t).drop (t - k.size)).reverse := by
    rw [List.take_reverse, length]
  rw [le_agreement_iff, List.length_reverse, List.length_reverse, length, lefts, rights,
    List.reverse_inj, List.drop_take]
  -- both sides say that the units in front of the two ends agree
  constructor
  · rintro ⟨left_low, -, right_low, -, same⟩
    have fits : k.size ≤ a.length ∧ k.size ≤ t := by omega
    rw [show k.left - i = a.length - k.size by omega, show k.right - j = t - k.size by omega,
      List.take_of_length_le (by rw [List.length_drop]; omega)] at same
    rw [show t - (t - k.size) = k.size by omega]
    exact ⟨fits.1, fits.2, same⟩
  · rintro ⟨left_fits, right_fits, same⟩
    rw [show t - (t - k.size) = k.size by omega] at same
    refine ⟨by omega, by omega, by omega, by omega, ?_⟩
    rw [show k.left - i = a.length - k.size by omega, show k.right - j = t - k.size by omega,
      List.take_of_length_le (by rw [List.length_drop]; omega)]
    exact same

/-! ## The scan -/

/-- A block ends before a place of a row, so it was seen before. -/
def Block.EndsBefore (k : Block) (i j : Nat) : Prop :=
  k.left + k.size ≤ i ∨ k.left + k.size = i + 1 ∧ k.right + k.size ≤ j

/-- The best of a row is the best before or one of the row, and it precedes all of them. -/
theorem bestInRow_spec (i j : Nat) (row : List Nat) (best : Block)
    (fits : ∀ t s, row[t]? = some s → s ≤ i + 1 ∧ s ≤ j + t + 1) (ended : best.EndsBefore i j) :
    let r := bestInRow i j row best
    (r = best ∨ ∃ t s, row[t]? = some s ∧ r = .endingAt i (j + t) s) ∧
    r.Precedes best ∧
    ∀ t s, row[t]? = some s → r.Precedes (.endingAt i (j + t) s) := by
  induction row generalizing j best with
  | nil => exact ⟨.inl rfl, .refl best, by simp⟩
  | cons s row ih =>
      have first := fits 0 s rfl
      have later (t : Nat) : j + (t + 1) = j + 1 + t := by omega
      -- the better of the best before and the first of the row
      let better : Block := if best.size < s then .endingAt i j s else best
      have chosen : better = best ∨ better = .endingAt i j s := by
        unfold better
        split
        · exact .inr rfl
        · exact .inl rfl
      have precedes : better.Precedes best ∧ better.Precedes (.endingAt i j s) := by
        unfold better Block.Precedes Block.endingAt
        unfold Block.EndsBefore at ended
        split <;> dsimp only <;> omega
      have ended' : better.EndsBefore i (j + 1) := by
        unfold Block.EndsBefore at *
        rcases chosen with same | same <;> rw [same]
        · omega
        · dsimp only [Block.endingAt]
          omega
      have fits' (t s' : Nat) (h : row[t]? = some s') : s' ≤ i + 1 ∧ s' ≤ j + 1 + t + 1 := by
        have := fits (t + 1) s' h
        omega
      obtain ⟨origin, before, others⟩ := ih (j + 1) better fits' ended'
      refine ⟨?_, before.trans precedes.1, ?_⟩
      · rcases origin with same | ⟨t, s', h, same⟩
        · exact chosen.imp same.trans fun run => ⟨0, s, rfl, same.trans run⟩
        · exact .inr ⟨t + 1, s', h, later t ▸ same⟩
      · intro t s' h
        cases t with
        | zero =>
            obtain rfl : s = s' := Option.some.inj h
            exact before.trans precedes.2
        | succ t => exact later t ▸ others t s' h

/-- A block that ends before new units is common with them exactly if it is without them. -/
theorem common_append_iff (low : i ≤ c.left) (ended : c.left + c.size ≤ i + done.length) :
    Common (done ++ a) b i j c ↔ Common done b i j c := by
  have start : c.left - i ≤ done.length := by omega
  have rest : c.size ≤ (done.drop (c.left - i)).length := by
    rw [List.length_drop]
    omega
  have units : ((done ++ a).drop (c.left - i)).take c.size =
      (done.drop (c.left - i)).take c.size := by
    rw [List.drop_append_of_le_length start, List.take_append_of_le_length rest]
  constructor
  · rintro ⟨-, -, right_low, right_high, same⟩
    exact ⟨low, ended, right_low, right_high, units ▸ same⟩
  · rintro ⟨-, -, right_low, right_high, same⟩
    refine ⟨low, ?_, right_low, right_high, units.trans same⟩
    rw [List.length_append]
    omega

/-! ### One row -/

/-- The length of the longest common run that ends at the end of `a` and at position `t` of `b`. -/
def runAt (a b : List Nat) (t : Nat) : Nat := agreement a.reverse (b.take (t + 1)).reverse

theorem runAt_le (a b : List Nat) (t : Nat) : runAt a b t ≤ a.length ∧ runAt a b t ≤ t + 1 := by
  obtain ⟨left, right, -⟩ := le_agreement_iff.1 (Nat.le_refl (runAt a b t))
  rw [List.length_reverse] at left
  rw [List.length_reverse, List.length_take] at right
  exact ⟨left, Nat.le_trans right (Nat.min_le_left _ _)⟩

/-- The runs of a row are those that end at its unit and at each unit of `b`. -/
theorem getElem?_runs {t s : Nat} :
    (runsEndingAt x (rowFor done.reverse [] b) b)[t]? = some s ↔
      t < b.length ∧ runAt (done ++ [x]) b t = s := by
  have shifted := getElem?_rowFor (x :: done.reverse) [] b (t + 1)
  rw [rowFor_cons, List.getElem?_cons_succ, ← List.reverse_concat] at shifted
  rw [shifted, runAt, Option.ite_none_right_eq_some, Option.some.injEq, List.append_nil]
  exact Iff.rfl

section Run

variable {t : Nat}

/-- A longest run is a common block. -/
theorem common_run (inside : t < b.length) :
    Common (done ++ [x]) b i j
      (.endingAt (i + done.length) (j + t) (runAt (done ++ [x]) b t)) := by
  have bound := runAt_le (done ++ [x]) b t
  rw [List.length_append, List.length_singleton] at bound
  refine (common_iff_of_ends (t := t + 1) inside ?_ ?_).2 (Nat.le_refl _)
  · rw [List.length_append, List.length_singleton]
    dsimp only [Block.endingAt]
    omega
  · dsimp only [Block.endingAt]
    omega

/-- A longest run is preferred to the other blocks that end with it. -/
theorem precedes_run (common : Common (done ++ [x]) b i j c) (inside : t < b.length)
    (left : c.left + c.size = i + done.length + 1) (right : c.right + c.size = j + (t + 1)) :
    Block.Precedes (.endingAt (i + done.length) (j + t) (runAt (done ++ [x]) b t)) c := by
  have longer : c.size ≤ runAt (done ++ [x]) b t := by
    refine (common_iff_of_ends inside ?_ right).1 common
    rw [List.length_append, List.length_singleton]
    exact left
  unfold Block.Precedes Block.endingAt
  dsimp only
  omega

end Run

/-- The scan of one row takes the invariant to the next unit. -/
theorem Longest.snoc (h : Longest done b i j best) (x : Nat) :
    Longest (done ++ [x]) b i j
      (bestInRow (i + done.length) j (runsEndingAt x (rowFor done.reverse [] b) b) best) := by
  have fits (t s : Nat) (here : (runsEndingAt x (rowFor done.reverse [] b) b)[t]? = some s) :
      s ≤ i + done.length + 1 ∧ s ≤ j + t + 1 := by
    obtain ⟨-, rfl⟩ := getElem?_runs.1 here
    have bound := runAt_le (done ++ [x]) b t
    rw [List.length_append, List.length_singleton] at bound
    omega
  obtain ⟨origin, before, others⟩ := bestInRow_spec _ j _ best fits (.inl h.common.left_high)
  constructor
  · rcases origin with same | ⟨t, s, here, same⟩ <;> rw [same]
    · exact (common_append_iff h.common.left_low h.common.left_high).2 h.common
    · obtain ⟨inside, rfl⟩ := getElem?_runs.1 here
      exact common_run inside
  · intro c common
    have left := common.left_high
    have right := common.right_high
    have right_low := common.right_low
    rw [List.length_append, List.length_singleton] at left
    -- a common block ends before the new unit or with it
    by_cases ended : c.left + c.size ≤ i + done.length
    · exact before.trans (h.precedes c ((common_append_iff common.left_low ended).1 common))
    · by_cases empty : c.size = 0
      · exact before.trans ((h.precedes _ (common_empty done b i j)).trans
          (common.precedes_of_empty empty))
      · obtain ⟨t, ends⟩ : ∃ t, c.right + c.size = j + (t + 1) :=
          ⟨c.right + c.size - j - 1, by omega⟩
        have inside : t < b.length := by omega
        exact (others t _ (getElem?_runs.2 ⟨inside, rfl⟩)).trans
          (precedes_run common inside (by omega) ends)

/-- The scan goes on with the rows after those that are done. -/
theorem longest_longestFrom (h : Longest done b i j best) :
    Longest (done ++ a) b i j
      (longestFrom b j (i + done.length) a (rowFor done.reverse [] b) best) := by
  induction a generalizing done best with
  | nil => rwa [List.append_nil]
  | cons x a ih =>
      have next := ih (h.snoc x)
      rw [List.reverse_concat, rowFor_cons, List.length_append] at next
      rw [List.append_cons]
      exact next

/-- What is found in a window is its preferred common block. -/
theorem longest_longestMatch (a b : List Nat) (w : Window) :
    Longest (a.extract w.leftLow w.leftHigh) (b.extract w.rightLow w.rightHigh) w.leftLow
      w.rightLow (longestMatch a b w) := by
  have scan := longest_longestFrom (a := a.extract w.leftLow w.leftHigh)
    (longest_nil (b.extract w.rightLow w.rightHigh) w.leftLow w.rightLow)
  rw [List.reverse_nil, rowFor_nil] at scan
  exact scan

/-- A block lies inside a window. -/
structure Block.Inside (k : Block) (w : Window) : Prop where
  left_low : w.leftLow ≤ k.left
  left_high : k.left + k.size ≤ w.leftHigh
  right_low : w.rightLow ≤ k.right
  right_high : k.right + k.size ≤ w.rightHigh

/-- A block that is found in a window and not empty lies inside the window. -/
theorem inside_longestMatch {a b : List Nat} {w : Window} (some_ : (longestMatch a b w).size ≠ 0) :
    (longestMatch a b w).Inside w := by
  obtain ⟨left_low, left_high, right_low, right_high, -⟩ := (longest_longestMatch a b w).common
  rw [List.length_take] at left_high right_high
  constructor <;> omega

end Similarity

end VoiceControl
