import VoiceControl.Grid
import VoiceControl.Proofs.Number.Natural
import Mathlib.Algebra.Order.Floor.Semiring
import Mathlib.Data.List.Induction
import Mathlib.Data.Rat.Floor
import Mathlib.Order.Interval.Set.Basic
import Mathlib.Tactic.Linarith
import Mathlib.Tactic.Ring

/-!
# Exact grids

In exact arithmetic the cells of a grid tile its rectangle: every point lies in one cell and no
other, however often the grid was narrowed. Rows and columns are settled apart from each other, by
one lemma about a stretch of a line that is cut into equal pieces.

* `Rect.Covers`, `Rect.Inside`, `Rect.midpoint`: rectangles without their right and lower edges.
* `Grid.descend`: a grid that is shown and narrowed into one cell after another.
* `Grid.State.Divides`: what a grid makes of its rectangle.
* `Grid.descend_divides`: every grid that is narrowed so divides a rectangle inside the screen.
-/

namespace VoiceControl

namespace Rect

/-- A point lies in a rectangle, of whose edges the left and the upper one belong to it. -/
def Covers (r : Rect Rat) (p : Point Rat) : Prop :=
  p.x ∈ Set.Ico r.x (r.x + r.width) ∧ p.y ∈ Set.Ico r.y (r.y + r.height)

/-- A rectangle lies inside another. -/
structure Inside (r outer : Rect Rat) : Prop where
  left : outer.x ≤ r.x
  right : r.x + r.width ≤ outer.x + outer.width
  top : outer.y ≤ r.y
  bottom : r.y + r.height ≤ outer.y + outer.height

/-- A rectangle has an area. -/
structure HasArea (r : Rect Rat) : Prop where
  width : 0 < r.width
  height : 0 < r.height

/-- The point halfway between opposite corners. -/
def midpoint (r : Rect Rat) : Point Rat :=
  ⟨(r.x + (r.x + r.width)) / 2, (r.y + (r.y + r.height)) / 2⟩

theorem Inside.refl (r : Rect Rat) : r.Inside r := ⟨le_rfl, le_rfl, le_rfl, le_rfl⟩

theorem Inside.trans {r s t : Rect Rat} (h : r.Inside s) (h' : s.Inside t) : r.Inside t :=
  ⟨h'.left.trans h.left, h.right.trans h'.right, h'.top.trans h.top, h.bottom.trans h'.bottom⟩

end Rect

namespace Grid

/-! ## Equal pieces of a line -/

section Pieces

variable {start length p : Rat} {k i : Nat}

/-- The piece that a coordinate lies in is the whole part of its distance from the start, measured
in pieces. -/
theorem mem_piece_iff (positive : 0 < length / k) (from_ : start ≤ p) :
    p ∈ Set.Ico (start + i * (length / k)) (start + i * (length / k) + length / k) ↔
      ⌊(p - start) / (length / k)⌋₊ = i := by
  have distance : 0 ≤ (p - start) / (length / k) := div_nonneg (by linarith) positive.le
  rw [Nat.floor_eq_iff distance, le_div_iff₀ positive, div_lt_iff₀ positive, Set.mem_Ico]
  constructor <;> rintro ⟨_, _⟩ <;> constructor <;> linarith

theorem mul_piece (length : Rat) (some_ : 0 < k) : (k : Rat) * (length / k) = length :=
  mul_div_cancel₀ length (Nat.cast_ne_zero.2 some_.ne')

/-- A coordinate of the stretch lies in one of the pieces. -/
theorem piece_lt (some_ : 0 < k) (positive : 0 < length / k) (within : p < start + length) :
    ⌊(p - start) / (length / k)⌋₊ < k := by
  rw [Nat.floor_lt' some_.ne', div_lt_iff₀ positive, mul_piece length some_]
  linarith

theorem piece_start_le (positive : 0 < length / k) : start ≤ start + i * (length / k) :=
  le_add_of_nonneg_right (mul_nonneg (Nat.cast_nonneg i) positive.le)

theorem piece_end_le (positive : 0 < length / k) (inside : i < k) :
    start + i * (length / k) + length / k ≤ start + length := by
  have next : ((i : Rat) + 1) * (length / k) ≤ k * (length / k) :=
    mul_le_mul_of_nonneg_right (by exact_mod_cast inside) positive.le
  rw [mul_piece length (Nat.zero_lt_of_lt inside)] at next
  linarith

/-- The middle of a piece. -/
theorem piece_middle (start side : Rat) (i : Nat) :
    start + ((i : Rat) + half) * side =
      (start + i * side + (start + i * side + side)) / 2 := by
  unfold half
  push_cast
  ring

end Pieces

/-! ## Cells of a rectangle -/

section Cells

variable {bounds : Rect Rat} {k i : Nat} {p : Point Rat}

theorem sides_pos (area : bounds.HasArea) (some_ : 0 < k) :
    0 < bounds.width / k ∧ 0 < bounds.height / k :=
  ⟨div_pos area.width (Nat.cast_pos.2 some_), div_pos area.height (Nat.cast_pos.2 some_)⟩

/-- The index of the cell that a point lies in. -/
def indexAt (bounds : Rect Rat) (k : Nat) (p : Point Rat) : Nat :=
  ⌊(p.x - bounds.x) / (bounds.width / k)⌋₊ + k * ⌊(p.y - bounds.y) / (bounds.height / k)⌋₊

theorem indexAt_lt (area : bounds.HasArea) (some_ : 0 < k) (covers : bounds.Covers p) :
    indexAt bounds k p < k * k := by
  obtain ⟨wide, high⟩ := sides_pos area some_
  have column := piece_lt some_ wide covers.1.2
  have row := piece_lt some_ high covers.2.2
  calc indexAt bounds k p
      < k + k * ⌊(p.y - bounds.y) / (bounds.height / k)⌋₊ := Nat.add_lt_add_right column _
    _ = k * (⌊(p.y - bounds.y) / (bounds.height / k)⌋₊ + 1) := by ring
    _ ≤ k * k := Nat.mul_le_mul_left k row

/-- A point lies in the cell with its index and in no other. -/
theorem covers_rectAt_iff (area : bounds.HasArea) (some_ : 0 < k) (covers : bounds.Covers p) :
    (rectAt bounds k i).Covers p ↔ i = indexAt bounds k p := by
  obtain ⟨wide, high⟩ := sides_pos area some_
  have column := mem_piece_iff (i := i % k) wide covers.1.1
  have row := mem_piece_iff (i := i / k) high covers.2.1
  -- the row is the quotient of the index, the column the remainder
  have index : i / k = ⌊(p.y - bounds.y) / (bounds.height / k)⌋₊ ∧
      i % k = ⌊(p.x - bounds.x) / (bounds.width / k)⌋₊ ↔ indexAt bounds k p = i := by
    rw [Nat.div_mod_unique some_, indexAt]
    exact and_iff_left (piece_lt some_ wide covers.1.2)
  rw [eq_comm, ← index, eq_comm, @eq_comm _ (i % k), and_comm]
  exact and_congr column row

theorem inside_rectAt (area : bounds.HasArea) (inside : i < k * k) :
    (rectAt bounds k i).Inside bounds := by
  have some_ : 0 < k := Nat.pos_of_mul_pos_left (Nat.zero_lt_of_lt inside)
  obtain ⟨wide, high⟩ := sides_pos area some_
  exact ⟨piece_start_le wide, piece_end_le wide (Nat.mod_lt i some_), piece_start_le high,
    piece_end_le high (Nat.div_lt_of_lt_mul inside)⟩

theorem area_rectAt (area : bounds.HasArea) (some_ : 0 < k) : (rectAt bounds k i).HasArea :=
  ⟨(sides_pos area some_).1, (sides_pos area some_).2⟩

theorem centerAt_eq_midpoint : centerAt bounds k i = (rectAt bounds k i).midpoint := by
  rw [centerAt, rectAt, Rect.midpoint, piece_middle, piece_middle]

end Cells

/-! ## Numbers of cells -/

namespace State

variable {K : Type} {s t : State K} {bounds : Rect K} {k i : Nat} {n : Number}

/-- A number is located exactly where it is one of those from 1 on that the grid has cells for. -/
theorem locate?_eq_some_iff :
    s.locate? n = some (bounds, k, i) ↔
      s.shape? = some (bounds, k) ∧ n = .finite ((i + 1 : Nat) : Rat) ∧ i < k * k := by
  rw [← Number.toNat?_eq_some_iff, locate?]
  split
  · rename_i b size m shape read
    rw [shape, read]
    split <;> grind
  · rename_i other
    constructor
    · intro h
      cases h
    · rintro ⟨shape, read, -⟩
      exact absurd read (other _ _ _ shape)

/-- A number other than those from 1 to the number of cells is not located. -/
theorem locate?_of_foreign (shape : s.shape? = some (bounds, k))
    (foreign : ∀ i : Nat, 1 ≤ i → i ≤ k * k → n ≠ .finite i) : s.locate? n = none := by
  cases found : s.locate? n with
  | none => rfl
  | some l =>
      obtain ⟨b, size, i⟩ := l
      obtain ⟨shape', named, inside⟩ := locate?_eq_some_iff.1 found
      obtain ⟨-, rfl⟩ := Prod.mk.inj (Option.some.inj (shape'.symm.trans shape))
      exact absurd named (foreign (i + 1) (by omega) inside)

end State

/-! ## Shown and narrowed grids -/

/-- The grid of so many rows over a screen, narrowed into one cell after another. -/
def descend {K : Type} [NatCast K] [Add K] [Mul K] [Div K] (screen : Screen K) (size : Nat)
    (cells : List Number) : Option (State K) :=
  cells.foldlM State.refine? (whole screen size)

theorem descend_append_singleton {K : Type} [NatCast K] [Add K] [Mul K] [Div K] (screen : Screen K)
    (size : Nat) (cells : List Number) (n : Number) :
    descend screen size (cells ++ [n]) = (descend screen size cells).bind (·.refine? n) := by
  simp [descend]

/-- A grid is shown for a positive integer and for nothing else. -/
theorem show?_eq_ok_iff {K : Type} [NatCast K] {screen : Screen K} {n : Number} {s : State K} :
    show? screen n = .ok s ↔ ∃ size : Nat, 0 < size ∧ n = .finite size ∧ s = whole screen size := by
  rw [show?]
  split
  · rename_i m read
    rw [Number.toNat?_eq_some_iff] at read
    subst read
    constructor
    · intro shown
      exact ⟨m + 1, Nat.succ_pos m, rfl, (Except.ok.inj shown).symm⟩
    · rintro ⟨size, -, same, rfl⟩
      obtain rfl : m + 1 = size := Nat.cast_inj.1 (Number.finite.inj same)
      rfl
  · rename_i other
    constructor
    · intro shown
      cases shown
    · rintro ⟨size, some_, rfl, -⟩
      obtain ⟨m, rfl⟩ := Nat.exists_eq_add_of_le' some_
      exact absurd (Number.toNat?_eq_some_iff.2 rfl) (other m)

namespace State

variable {screen : Screen Rat} {s t : State Rat} {bounds : Rect Rat} {k : Nat} {n : Number}

/-- A grid has so many rows of so many cells in a rectangle with an area on a screen. -/
structure Lies (screen : Screen Rat) (s : State Rat) (bounds : Rect Rat) (k : Nat) : Prop where
  shape : s.shape? = some (bounds, k)
  rows : 0 < k
  area : bounds.HasArea
  inside : bounds.Inside screen.rect

theorem lies_whole {size : Nat} (area : screen.rect.HasArea) (some_ : 0 < size) :
    (whole screen size).Lies screen screen.rect size :=
  ⟨rfl, some_, area, .refl _⟩

/-- A cell has an area, inside the rectangle that is divided. -/
theorem Lies.cell (h : s.Lies screen bounds k) {r : Rect Rat} (found : s.cellRect? n = some r) :
    r.HasArea ∧ r.Inside bounds := by
  obtain ⟨⟨b, size, i⟩, located, rfl⟩ := Option.map_eq_some_iff.1 found
  obtain ⟨shape, -, inside⟩ := locate?_eq_some_iff.1 located
  obtain ⟨rfl, rfl⟩ := Prod.mk.inj (Option.some.inj (shape.symm.trans h.shape))
  exact ⟨area_rectAt h.area h.rows, inside_rectAt h.area inside⟩

/-- A narrowed grid lies in the rectangle of the cell that it was narrowed to. -/
theorem Lies.refine (h : s.Lies screen bounds k) (narrowed : s.refine? n = some t) :
    ∃ r, s.cellRect? n = some r ∧ r.Inside bounds ∧ t.Lies screen r refinedSize := by
  obtain ⟨r, found, shape⟩ := shape?_of_refine? narrowed
  obtain ⟨area, within⟩ := h.cell found
  exact ⟨r, found, within, shape, by decide, area, within.trans h.inside⟩

/-- The centre of a cell is the midpoint of its rectangle. -/
theorem cellCenter?_eq (s : State Rat) (n : Number) :
    s.cellCenter? n = (s.cellRect? n).map Rect.midpoint := by
  rw [cellCenter?, cellRect?, Option.map_map]
  exact congrArg (Option.map · _) (funext fun _ => centerAt_eq_midpoint)

/-- What a grid makes of its rectangle. The cells have the numbers from 1 on, and the grid can be
narrowed to each; every point of the rectangle lies in one cell and no other; every centre is the
midpoint of its cell; other numbers stand for nothing and leave the grid as it is. -/
structure Divides (s : State Rat) (bounds : Rect Rat) (k : Nat) : Prop where
  shape : s.shape? = some (bounds, k)
  numbers : s.cells.map (·.number) = List.range' 1 (k * k)
  listed : ∀ c ∈ s.cells, s.cellRect? (.finite c.number) = some c.rect ∧
    s.cellCenter? (.finite c.number) = some c.center ∧
    s.refine? (.finite c.number) = some (.refined c.rect c.number)
  inside : ∀ c ∈ s.cells, c.rect.Inside bounds
  tiled : ∀ p, bounds.Covers p → ∃! c, c ∈ s.cells ∧ c.rect.Covers p
  middle : ∀ n, s.cellCenter? n = (s.cellRect? n).map Rect.midpoint
  foreign : ∀ n : Number, (∀ i : Nat, 1 ≤ i → i ≤ k * k → n ≠ .finite i) →
    s.cellRect? n = none ∧ s.cellCenter? n = none ∧ s.refine? n = none ∧ (s.refine? n).getD s = s

theorem mem_cells_iff (shape : s.shape? = some (bounds, k)) {c : Cell Rat} :
    c ∈ s.cells ↔ ∃ i < k * k, c = ⟨i + 1, rectAt bounds k i, centerAt bounds k i⟩ := by
  simp [cells, shape, eq_comm]

theorem Lies.tiled (h : s.Lies screen bounds k) {p : Point Rat} (covers : bounds.Covers p) :
    ∃! c, c ∈ s.cells ∧ c.rect.Covers p := by
  have holds {i : Nat} := covers_rectAt_iff (i := i) h.area h.rows covers
  refine ⟨_, ⟨(mem_cells_iff h.shape).2 ⟨_, indexAt_lt h.area h.rows covers, rfl⟩,
    holds.2 rfl⟩, ?_⟩
  rintro c ⟨mem, covered⟩
  obtain ⟨i, -, rfl⟩ := (mem_cells_iff h.shape).1 mem
  rw [holds.1 covered]

theorem Lies.divides (h : s.Lies screen bounds k) : s.Divides bounds k where
  shape := h.shape
  numbers := by
    rw [numbers_cells, cellCount, h.shape, List.range'_eq_map_range]
    simp [Nat.add_comm]
  listed c mem := by
    obtain ⟨i, inside, rfl⟩ := (mem_cells_iff h.shape).1 mem
    have found := locate?_eq_some_iff.2 ⟨h.shape, rfl, inside⟩
    exact ⟨by rw [cellRect?, found, Option.map_some], by rw [cellCenter?, found, Option.map_some],
      by rw [refine?, found, Option.map_some]⟩
  inside c mem := by
    obtain ⟨i, inside, rfl⟩ := (mem_cells_iff h.shape).1 mem
    exact inside_rectAt h.area inside
  tiled _ covers := h.tiled covers
  middle := cellCenter?_eq s
  foreign n other := by
    have missing := locate?_of_foreign h.shape other
    simp [cellRect?, cellCenter?, refine?, missing]

end State

/-- A grid that is shown on a screen and narrowed lies on the screen. -/
theorem lies_descend {screen : Screen Rat} (area : screen.rect.HasArea) {size : Nat}
    (some_ : 0 < size) {cells : List Number} {s : State Rat}
    (narrowed : descend screen size cells = some s) : ∃ bounds k, s.Lies screen bounds k := by
  induction cells using List.reverseRecOn generalizing s with
  | nil =>
      obtain rfl : whole screen size = s := Option.some.inj narrowed
      exact ⟨_, _, State.lies_whole area some_⟩
  | append_singleton cells n ih =>
      -- only the last cell decides which rectangle is divided now
      rw [descend_append_singleton] at narrowed
      obtain ⟨t, before, last⟩ := Option.bind_eq_some_iff.1 narrowed
      obtain ⟨bounds, k, lies⟩ := ih before
      obtain ⟨r, -, -, lies'⟩ := lies.refine last
      exact ⟨r, refinedSize, lies'⟩

/-- In exact arithmetic the grid is shown on every screen with an area, in any number of rows, and
however it is narrowed then, it divides a rectangle inside the screen; narrowing it further goes to
the rectangle of the cell, inside the rectangle before. -/
theorem descend_divides {screen : Screen Rat} (wide : 0 < screen.width) (high : 0 < screen.height)
    {size : Nat} (some_ : 1 ≤ size) :
    show? screen (.finite size) = .ok (whole screen size) ∧
    ∀ cells s, descend screen size cells = some s →
      ∃ bounds k, s.Divides bounds k ∧ bounds.Inside screen.rect ∧
        ∀ n t, s.refine? n = some t →
          ∃ r, s.cellRect? n = some r ∧ t.shape? = some (r, refinedSize) ∧ r.Inside bounds := by
  refine ⟨show?_eq_ok_iff.2 ⟨size, some_, rfl, rfl⟩, fun cells s narrowed => ?_⟩
  obtain ⟨bounds, k, lies⟩ := lies_descend ⟨wide, high⟩ some_ narrowed
  refine ⟨bounds, k, lies.divides, lies.inside, fun n t further => ?_⟩
  obtain ⟨r, cell, within, next⟩ := lies.refine further
  exact ⟨r, cell, next.shape, within⟩

/-- A grid of nine rows on a screen, narrowed twice. -/
theorem descend_divides_twice :
    let screen : Screen Rat := ⟨1920, 1080⟩
    let s : State Rat := .refined ⟨8960 / 9, 560, 640 / 9, 40⟩ 9
    descend screen 9 [.finite 41, .finite 9] = some s ∧
      ∃ bounds k, s.Divides bounds k ∧ bounds.Inside screen.rect := by
  intro screen s
  have narrowed : descend screen 9 [.finite 41, .finite 9] = some s := by decide +kernel
  have wide : 0 < screen.width := by decide
  have high : 0 < screen.height := by decide
  obtain ⟨bounds, k, divides, inside, -⟩ :=
    (descend_divides wide high (by decide : 1 ≤ 9)).2 _ _ narrowed
  exact ⟨narrowed, bounds, k, divides, inside⟩

end Grid

end VoiceControl
