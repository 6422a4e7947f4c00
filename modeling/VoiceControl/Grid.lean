import VoiceControl.Failure
import VoiceControl.Geometry

/-!
# The numbered grid

A rectangle divided into `size × size` cells, numbered from 1 from left to right and top to bottom.
Refinement narrows the grid to one cell and divides that again into nine, so a few short
utterances address any point of the screen. Everything here is a function on grid states; drawing
is the business of an overlay. The coordinates may be of any type with arithmetic, so the same
definitions speak of the numbers the program computes with and of exact rationals.
-/

namespace VoiceControl

namespace Grid

/-- A refined grid has three rows of three cells. -/
def refinedSize : Nat := 3

/-- What the grid currently addresses. -/
inductive State (K : Type) where
  | unshown
  | full (bounds : Rect K) (size : Nat)
  | refined (bounds : Rect K) (parent : Nat)
  deriving Repr, DecidableEq, Inhabited

/-- A numbered cell with its rectangle and centre. -/
structure Cell (K : Type) where
  number : Nat
  rect : Rect K
  center : Point K
  deriving Repr, DecidableEq

namespace State

variable {K : Type}

/-- The divided rectangle and the number of cells along each side. -/
def shape? : State K → Option (Rect K × Nat)
  | .unshown => none
  | .full bounds size => some (bounds, size)
  | .refined bounds _ => some (bounds, refinedSize)

/-- The cell a refined grid was narrowed to. -/
def parent? : State K → Option Nat
  | .refined _ parent => some parent
  | _ => none

/-- The number of cells. -/
def cellCount (s : State K) : Nat :=
  match s.shape? with
  | some (_, size) => size * size
  | none => 0

/-- The divided rectangle, the number of cells along each side and the index of a numbered cell
from 0, when the number is one of the grid's. -/
def locate? (s : State K) (cell : Number) : Option (Rect K × Nat × Nat) :=
  match s.shape?, cell.toNat? with
  | some (bounds, size), some (n + 1) => if n < size * size then some (bounds, size, n) else none
  | _, _ => none

end State

variable {K : Type} [NatCast K] [Add K] [Mul K] [Div K]

/-- One half. -/
def half : K := ((1 : Nat) : K) / ((2 : Nat) : K)

/-- The rectangle of the cell with index `i`, counted from 0. -/
def rectAt (bounds : Rect K) (size i : Nat) : Rect K :=
  let width := bounds.width / (size : K)
  let height := bounds.height / (size : K)
  ⟨bounds.x + ((i % size : Nat) : K) * width, bounds.y + ((i / size : Nat) : K) * height,
    width, height⟩

/-- The centre of the cell with index `i`, counted from 0. -/
def centerAt (bounds : Rect K) (size i : Nat) : Point K :=
  let width := bounds.width / (size : K)
  let height := bounds.height / (size : K)
  ⟨bounds.x + (((i % size : Nat) : K) + half) * width,
    bounds.y + (((i / size : Nat) : K) + half) * height⟩

namespace State

/-- The rectangle of a numbered cell. -/
def cellRect? (s : State K) (cell : Number) : Option (Rect K) :=
  (s.locate? cell).map fun (bounds, size, i) => rectAt bounds size i

/-- The centre of a numbered cell. -/
def cellCenter? (s : State K) (cell : Number) : Option (Point K) :=
  (s.locate? cell).map fun (bounds, size, i) => centerAt bounds size i

/-- The grid narrowed to a numbered cell. -/
def refine? (s : State K) (cell : Number) : Option (State K) :=
  (s.locate? cell).map fun (bounds, size, i) => .refined (rectAt bounds size i) (i + 1)

/-- All cells in the order of their numbers. -/
def cells (s : State K) : List (Cell K) :=
  match s.shape? with
  | none => []
  | some (bounds, size) =>
      (List.range (size * size)).map fun i => ⟨i + 1, rectAt bounds size i, centerAt bounds size i⟩

end State

/-- The grid over a whole screen. -/
def whole (screen : Screen K) (size : Nat) : State K := .full screen.rect size

/-- The grid over a whole screen, whose size must be a positive integer. -/
def show? (screen : Screen K) (size : Number) : Except Failure (State K) :=
  match size.toNat? with
  | some (n + 1) => .ok (whole screen (n + 1))
  | _ => .error (.outOfRange ("Grid size must be a positive integer, got " ++ size.text))

omit [NatCast K] [Add K] [Mul K] [Div K] in
@[simp] theorem State.locate?_unshown (cell : Number) :
    (State.unshown : State K).locate? cell = none := by
  simp [State.locate?, State.shape?]

/-- A refined grid lists the rectangle it was narrowed to as its bounds. -/
theorem State.shape?_of_refine? {s t : State K} {cell : Number} (h : s.refine? cell = some t) :
    ∃ r, s.cellRect? cell = some r ∧ t.shape? = some (r, refinedSize) := by
  obtain ⟨⟨b, n, i⟩, hl, rfl⟩ := Option.map_eq_some_iff.1 h
  exact ⟨rectAt b n i, by simp [State.cellRect?, hl], rfl⟩

/-- The listed cells are numbered from 1 without gaps. -/
theorem State.numbers_cells (s : State K) :
    s.cells.map (·.number) = (List.range s.cellCount).map (· + 1) := by
  cases s <;> simp [State.cells, State.cellCount, State.shape?, Function.comp_def]

end Grid

end VoiceControl
