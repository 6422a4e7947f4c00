import VoiceControl.Number.Basic

/-!
# Points, rectangles and screens

Positions over any type of coordinates: the program works with `Number`, statements about exact
geometry with rationals.
-/

namespace VoiceControl

/-- A position on the screen, from its left upper corner. -/
structure Point (K : Type) where
  x : K
  y : K
  deriving Repr, DecidableEq, Inhabited

/-- A rectangle by its left upper corner and its extent. -/
structure Rect (K : Type) where
  x : K
  y : K
  width : K
  height : K
  deriving Repr, DecidableEq, Inhabited

/-- The extent of a screen. -/
structure Screen (K : Type) where
  width : K
  height : K
  deriving Repr, DecidableEq, Inhabited

/-- The nearest point with integer coordinates, halves upwards. -/
def Point.round (p : Point Number) : Point Number := ⟨p.x.round, p.y.round⟩

/-- The middle of a rectangle. -/
def Rect.middle (r : Rect Number) : Point Number := ⟨r.x + r.width / 2, r.y + r.height / 2⟩

/-- The rectangle that covers a screen. -/
def Screen.rect {K : Type} [NatCast K] (s : Screen K) : Rect K :=
  ⟨((0 : Nat) : K), ((0 : Nat) : K), s.width, s.height⟩

/-- Whether a screen has an area. -/
def Screen.hasArea (s : Screen Number) : Bool := Number.lt 0 s.width && Number.lt 0 s.height

end VoiceControl
