import VoiceControl.Number.Basic
import VoiceControl.Similarity.LongestMatch
import VoiceControl.Text.Units

/-!
# Likeness of texts

Two texts are as alike as the share of their units that can be matched block by block: the longest
block that both have in common is matched, then the parts to its left and the parts to its right
are treated in the same way. `matchedCount` works through windows of the texts from a list of those
still to do; `matchedLength` is the rule itself. `likeness` is the resulting share as an exact
rational.
-/

namespace VoiceControl

namespace Similarity

/-- All of two sequences. -/
def Window.whole (a b : List Nat) : Window := ⟨0, a.length, 0, b.length⟩

/-- The parts of a window in front of a block. -/
def Window.front (w : Window) (k : Block) : Window := ⟨w.leftLow, k.left, w.rightLow, k.right⟩

/-- The parts of a window behind a block. -/
def Window.back (w : Window) (k : Block) : Window :=
  ⟨k.left + k.size, w.leftHigh, k.right + k.size, w.rightHigh⟩

/-- The number of positions in both stretches of a window. -/
def Window.extent (w : Window) : Nat := (w.leftHigh - w.leftLow) + (w.rightHigh - w.rightLow)

/-- The parts on both sides of a block are together shorter than the window. -/
theorem Window.extent_front_add_back {w : Window} {k : Block} (h : k.Inside w) :
    (w.front k).extent + (w.back k).extent + 2 * k.size = w.extent := by
  obtain ⟨left_low, left_high, right_low, right_high⟩ := h
  simp only [extent, front, back]
  omega

/-- Adds a window to those still to do; one with an empty stretch holds nothing to match. -/
def defer (w : Window) (rest : List Window) : List Window :=
  if w.leftLow < w.leftHigh ∧ w.rightLow < w.rightHigh then w :: rest else rest

/-- The work that a list of windows still holds. -/
def work : List Window → Nat
  | [] => 0
  | w :: rest => w.extent + 1 + work rest

theorem work_defer_le (w : Window) (rest : List Window) :
    work (defer w rest) ≤ w.extent + 1 + work rest := by
  unfold defer
  split
  · exact Nat.le_refl _
  · exact Nat.le_add_left _ _

/-- The windows still to do once a block of a window is matched; the parts behind it come first. -/
def sides (w : Window) (k : Block) (rest : List Window) : List Window :=
  defer (w.back k) (defer (w.front k) rest)

theorem work_sides_lt {w : Window} {k : Block} (rest : List Window) (h : k.Inside w)
    (some_ : k.size ≠ 0) : work (sides w k rest) < work (w :: rest) := by
  have front := work_defer_le (w.front k) rest
  have back := work_defer_le (w.back k) (defer (w.front k) rest)
  have shorter := Window.extent_front_add_back h
  simp only [sides, work]
  omega

/-- The number of matched units of two sequences in all pending windows, added to `total`; the
window that was added last is treated first. -/
def matchedCount (a b : List Nat) (pending : List Window) (total : Nat) : Nat :=
  match pending with
  | [] => total
  | w :: rest =>
      let k := longestMatch a b w
      if k.size = 0 then matchedCount a b rest total
      else matchedCount a b (sides w k rest) (total + k.size)
termination_by work pending
decreasing_by
  · simp only [work]
    omega
  · rename_i some_
    exact work_sides_lt rest (inside_longestMatch some_) some_

/-- The parts on either side of a block are shorter than the sequences. -/
theorem length_sides_lt {a b : List Nat} {k : Block} (h : k.Inside (.whole a b))
    (some_ : k.size ≠ 0) :
    (a.take k.left).length + (b.take k.right).length < a.length + b.length ∧
      (a.drop (k.left + k.size)).length + (b.drop (k.right + k.size)).length <
        a.length + b.length := by
  obtain ⟨-, left_high, -, right_high⟩ := h
  simp only [Window.whole, List.length_take, List.length_drop] at *
  omega

/-- The number of matched units by the rule: the longest common block, and what is matched on
either side of it. -/
def matchedLength (a b : List Nat) : Nat :=
  let k := longestMatch a b (.whole a b)
  if k.size = 0 then 0
  else
    k.size + matchedLength (a.take k.left) (b.take k.right) +
      matchedLength (a.drop (k.left + k.size)) (b.drop (k.right + k.size))
termination_by a.length + b.length
decreasing_by
  all_goals
    rename_i some_
    have shorter := length_sides_lt (inside_longestMatch some_) some_
  · exact shorter.1
  · exact shorter.2

end Similarity

open Similarity in
/-- Twice the matched units over all units of both texts; two empty texts are alike. -/
def likeness (a b : List Char) : Rat :=
  let x := Text.units a
  let y := Text.units b
  let length := x.length + y.length
  if length = 0 then 1 else mkRat (2 * matchedCount x y [.whole x y] 0) length

/-- The likeness of two texts as a number. -/
def similarity (a b : List Char) : Number := Number.ofRat (likeness a b)

end VoiceControl
