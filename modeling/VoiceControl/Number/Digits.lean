import VoiceControl.Number.Basic

/-!
# Numbers as text

A number is written with the fewest decimal digits that read back to it, the nearest such digits
where there is a choice. `shortest` selects them by exact arithmetic on the rounding interval;
`Layout` holds the choices of the written form, and `Number.text` is the form of every answer,
report and data file.
-/

namespace VoiceControl

/-- Decimal digits and the place of their point: `digits · 10 ^ exponent`. -/
structure Decimal where
  digits : Nat
  exponent : Int
  deriving Repr, DecidableEq

namespace Number

/-- Ten to an integer power. -/
def tenPow (e : Int) : Rat :=
  if e < 0 then mkRat 1 (Nat.pow 10 e.natAbs) else (Nat.pow 10 e.natAbs : Rat)

/-- The number of decimal digits of a natural number; zero has one. -/
def digitCount (n : Nat) : Nat := (Nat.toDigits 10 n).length

/-- The least `k` with `q < 10 ^ k`, for a positive `q`. -/
def magnitude10 (q : Rat) : Int :=
  if 1 ≤ q then digitCount q.floor.toNat
  else
    let w := (1 / q).ceil.toNat
    1 - (if w ≤ 1 then 0 else (digitCount (w - 1) : Int))

/-- The ends of the interval of rationals that round to the positive number `q`, and whether they
belong to it. -/
def roundingInterval (q : Rat) : Rat × Rat × Bool :=
  let place := lastPlace q.num.natAbs q.den
  let m := significand q.num.natAbs q.den place
  let half := twoPow (place - 1)
  -- below a power of two the numbers lie twice as close
  let below := if 2 * m = exactLimit ∧ place > -1074 then half / 2 else half
  (q - below, q + half, m % 2 == 0)

/-- The candidates for `q` on the grid of step `10 ^ e` that lie in its rounding interval, the
nearer first and of two equally near the even one. -/
def gridHit? (q : Rat) (e : Int) : Option Nat :=
  let (lo, hi, closed) := roundingInterval q
  let step := tenPow e
  let inside (n : Nat) : Bool :=
    let v := (n : Rat) * step
    if closed then lo ≤ v && v ≤ hi else lo < v && v < hi
  -- `q` lies between the neighbours `a` and `b` on the grid; no other point can be nearer
  let a := (q / step).floor.toNat
  let b := a + 1
  let preferLow : Bool :=
    let dl := q - (a : Rat) * step
    let dh := (b : Rat) * step - q
    if dl < dh then true else if dh < dl then false else a % 2 == 0
  let first := if preferLow then a else b
  let second := if preferLow then b else a
  if inside first then some first else if inside second then some second else none

/-- The first hit when the grid is refined one digit at a time. -/
def firstHit (q : Rat) (k : Int) : (tries : Nat) → (digits : Nat) → Decimal
  | 0, n => ⟨((q / tenPow (k - n)).floor).toNat, k - n⟩
  | tries + 1, n =>
      match gridHit? q (k - n) with
      | some d => ⟨d, k - n⟩
      | none => firstHit q k tries (n + 1)

/-- Drops the zeros at the end of the digits. -/
def trimZeros : (fuel : Nat) → Decimal → Decimal
  | 0, d => d
  | fuel + 1, d =>
      if d.digits ≠ 0 ∧ d.digits % 10 = 0 then trimZeros fuel ⟨d.digits / 10, d.exponent + 1⟩
      else d

/-- The fewest digits that read back to the positive number `q`; seventeen always suffice. -/
def shortest (q : Rat) : Decimal := trimZeros 400 (firstHit q (magnitude10 q) 17 1)

/-- The choices of a written form: between which powers of ten a number is written without an
exponent, and how the special values are spelled. -/
structure Layout where
  leastPoint : Int
  mostPoint : Int
  nan : String
  infinity : String

/-- Numbers from a millionth up to, but not including, `10 ^ 21` are written without an exponent. -/
def plainLayout : Layout := ⟨-6, 21, "NaN", "Infinity"⟩

/-- Writes digits by a layout: an integer without a point, a fraction with digits on both sides of
it, and otherwise one digit before the point and a signed exponent. -/
def Layout.write (l : Layout) (d : Decimal) : String :=
  let ds := (Nat.repr d.digits).toList
  let count : Int := ds.length
  let point := count + d.exponent
  if l.leastPoint < point ∧ point ≤ l.mostPoint then
    if 0 ≤ d.exponent then String.ofList (ds ++ List.replicate d.exponent.toNat '0')
    else if 0 < point then
      String.ofList (ds.take point.toNat ++ '.' :: ds.drop point.toNat)
    else String.ofList ('0' :: '.' :: List.replicate (-point).toNat '0' ++ ds)
  else
    let e := point - 1
    let mantissa := match ds with
      | [] => []
      | [c] => [c]
      | c :: r => c :: '.' :: r
    String.ofList (mantissa ++ 'e' :: (if e < 0 then '-' else '+') :: (Nat.repr e.natAbs).toList)

/-- The text of a number in the form of every answer. -/
def text (x : Number) : String :=
  match x with
  | .nan => plainLayout.nan
  | .infinite negative => (if negative then "-" else "") ++ plainLayout.infinity
  | .finite q =>
      if q.den = 1 ∧ q.num.natAbs ≤ exactLimit then toString q.num
      else if q < 0 then "-" ++ plainLayout.write (shortest (-q))
      else plainLayout.write (shortest q)

end Number

end VoiceControl
