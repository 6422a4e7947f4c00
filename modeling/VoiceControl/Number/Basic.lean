/-!
# Numbers of 53 significant bits

Coordinates, spoken numbers and settings are binary numbers of 53 significant bits with an exponent
of eleven bits. A `Number` holds its exact rational value; every operation is the exact one on
rationals followed by `ofRat`, which rounds to the nearest such number and a half to the even
neighbour. So each rounding is a visible step, and what the operations do between roundings is
ordinary rational arithmetic. Zero has one sign.
-/

namespace VoiceControl

/-- A binary number: not a number, an infinity, or an exact value. -/
inductive Number where
  | nan
  | infinite (negative : Bool)
  | finite (value : Rat)
  deriving Repr, DecidableEq, Inhabited

namespace Number

/-- Two to an integer power. -/
def twoPow (e : Int) : Rat :=
  if e < 0 then mkRat 1 (Nat.pow 2 e.natAbs) else (Nat.pow 2 e.natAbs : Rat)

/-- Two to the 53rd power; every integer up to here is a number. -/
def exactLimit : Nat := 9007199254740992

/-- `n / d` rounded to the nearest natural number, a half to the even one. -/
def roundEven (n d : Nat) : Nat :=
  let q := n / d
  let r := n % d
  if 2 * r < d then q else if d < 2 * r then q + 1 else if q % 2 = 0 then q else q + 1

/-- The exponent of the last bit kept of the positive quotient `n / d`: 52 places below its first
bit, but not below the smallest place there is. -/
def lastPlace (n d : Nat) : Int :=
  let guess : Int := (Nat.log2 n : Int) - (Nat.log2 d : Int)
  let reached : Bool :=
    if guess < 0 then d ≤ n * Nat.pow 2 guess.natAbs else d * Nat.pow 2 guess.natAbs ≤ n
  max ((if reached then guess else guess - 1) - 52) (-1074)

/-- The significand of the positive quotient `n / d` when its last bit is worth `2 ^ place`. -/
def significand (n d : Nat) (place : Int) : Nat :=
  if place < 0 then roundEven (n * Nat.pow 2 place.natAbs) d
  else roundEven n (d * Nat.pow 2 place.natAbs)

/-- The nearest number to a rational, a half to the even neighbour; from half a place above the
largest number on, an infinity. -/
def ofRat (q : Rat) : Number :=
  if q.den = 1 ∧ q.num.natAbs ≤ exactLimit then .finite q
  else
    let place := lastPlace q.num.natAbs q.den
    let magnitude := (significand q.num.natAbs q.den place : Rat) * twoPow place
    if magnitude ≥ twoPow 1024 then .infinite (q < 0)
    else .finite (if q < 0 then -magnitude else magnitude)

/-- The nearest number to an integer. -/
def ofInt (n : Int) : Number := ofRat n

instance : NatCast Number := ⟨fun n => ofRat n⟩

instance (n : Nat) : OfNat Number n := ⟨ofRat n⟩

/-- The exact value, when there is one. -/
def toRat? : Number → Option Rat
  | .finite q => some q
  | _ => none

/-- The sign of a value that is not zero, as `true` for negative. -/
def isNegative : Number → Bool
  | .infinite s => s
  | .finite q => q < 0
  | .nan => false

protected def neg : Number → Number
  | .nan => .nan
  | .infinite s => .infinite !s
  | .finite q => .finite (-q)

protected def add : Number → Number → Number
  | .finite a, .finite b => ofRat (a + b)
  | .nan, _ => .nan
  | _, .nan => .nan
  | .infinite a, .infinite b => if a == b then .infinite a else .nan
  | .infinite a, _ => .infinite a
  | _, .infinite b => .infinite b

protected def sub (a b : Number) : Number := a.add b.neg

protected def mul : Number → Number → Number
  | .finite a, .finite b => ofRat (a * b)
  | .nan, _ => .nan
  | _, .nan => .nan
  | a, b =>
      if a = .finite 0 ∨ b = .finite 0 then .nan else .infinite (a.isNegative != b.isNegative)

protected def div : Number → Number → Number
  | .finite a, .finite b =>
      if b = 0 then (if a = 0 then .nan else .infinite (a < 0)) else ofRat (a / b)
  | .finite _, .infinite _ => .finite 0
  | .infinite s, .finite b => .infinite (s != decide (b < 0))
  | _, _ => .nan

instance : Neg Number := ⟨Number.neg⟩
instance : Add Number := ⟨Number.add⟩
instance : Sub Number := ⟨Number.sub⟩
instance : Mul Number := ⟨Number.mul⟩
instance : Div Number := ⟨Number.div⟩

/-- Strictly smaller; nothing compares with a value that is not a number. -/
def lt : Number → Number → Bool
  | .finite a, .finite b => a < b
  | .nan, _ => false
  | _, .nan => false
  | .infinite a, .infinite b => a && !b
  | .infinite a, .finite _ => a
  | .finite _, .infinite b => !b

/-- Smaller or equal; nothing compares with a value that is not a number. -/
def le : Number → Number → Bool
  | .nan, _ => false
  | _, .nan => false
  | a, b => !b.lt a

/-- The smaller of two numbers. -/
def min (a b : Number) : Number := if a.lt b then a else b

/-- The larger of two numbers. -/
def max (a b : Number) : Number := if b.lt a then a else b

/-- The largest integer not above the value. -/
def floor : Number → Number
  | .finite q => .finite q.floor
  | x => x

/-- The nearest integer, a half upwards. -/
def round : Number → Number
  | .finite q => .finite ((q + mkRat 1 2).floor : Int)
  | x => x

/-- Whether the value is an integer. -/
def isInteger : Number → Bool
  | .finite q => q.den == 1
  | _ => false

/-- Whether the value is neither infinite nor missing. -/
def isFinite : Number → Bool
  | .finite _ => true
  | _ => false

/-- The value as a natural number, when it is one. -/
def toNat? : Number → Option Nat
  | .finite q => if q.den = 1 ∧ 0 ≤ q.num then some q.num.toNat else none
  | _ => none

/-- How many of `length` elements a cut at this number keeps: the fraction is dropped, a negative
number counts from the end, and a value that is not a number keeps nothing. -/
def cut (length : Nat) : Number → Nat
  | .nan => 0
  | .infinite negative => if negative then 0 else length
  | .finite q =>
      if q < 0 then length - (-q).floor.toNat else Nat.min length q.floor.toNat

/-- The remainder of a division that truncates, with the sign of the dividend. -/
def remainder : Number → Number → Number
  | .finite a, .finite b =>
      if b = 0 then .nan
      else
        let q := a / b
        let whole : Int := if q < 0 then -((-q).floor) else q.floor
        ofRat (a - b * whole)
  | .finite a, .infinite _ => .finite a
  | _, _ => .nan

@[simp] theorem round_nan : round nan = nan := rfl

@[simp] theorem isInteger_round_finite (q : Rat) : (round (finite q)).isInteger = true := by
  simp [round, isInteger]

/-- A natural number of at most 53 bits is itself a number. -/
theorem natCast_eq_finite {n : Nat} (h : n ≤ exactLimit) : (n : Number) = .finite n := by
  show ofRat n = .finite n
  exact if_pos ⟨rfl, h⟩

end Number

end VoiceControl
