import VoiceControl.Number.Basic
import VoiceControl.Text.Blank

/-!
# Reading numbers

Digit runs, decimal literals and the looser numerals of environment variables. Reading computes the
exact rational and rounds it once, so every numeral gives the nearest number.
-/

namespace VoiceControl

namespace Number

open VoiceControl.Text

/-- The value of a digit in a base up to sixteen. -/
def digitValue? (base : Nat) (c : Char) : Option Nat :=
  let n := c.toNat
  let v :=
    if 48 ≤ n ∧ n ≤ 57 then some (n - 48)
    else if 97 ≤ n ∧ n ≤ 102 then some (n - 87)
    else if 65 ≤ n ∧ n ≤ 70 then some (n - 55)
    else none
  v.filter (· < base)

/-- The natural number that digits stand for, most significant first. -/
def natOfDigits (base : Nat) (ds : List Char) : Nat :=
  ds.foldl (fun n c => n * base + (digitValue? base c).getD 0) 0

/-- The number that a run of decimal digits stands for. -/
def ofDigits (ds : List Char) : Number := ((natOfDigits 10 ds : Nat) : Number)

/-- The nearest number to `digits · 10 ^ exponent`. Exponents far outside the range of numbers are
decided without computing the power. -/
def ofScaled (digits : Nat) (exponent : Int) : Number :=
  if digits = 0 then .finite 0
  else
    let size : Int := (Nat.log2 digits : Int) + 1
    if exponent > 400 then .infinite false
    else if size + 3 * exponent < -1200 then .finite 0
    else if exponent < 0 then ofRat (mkRat digits (Nat.pow 10 exponent.natAbs))
    else ofRat ((digits * Nat.pow 10 exponent.natAbs : Nat) : Rat)

/-- A maximal run of decimal digits and what follows it. -/
def digitRun (s : List Char) : List Char × List Char := s.span Char.isDigit

/-- An optional exponent part: its value and what follows it. -/
def exponentPart (s : List Char) : Option (Int × List Char) :=
  match s with
  | c :: r =>
      if c = 'e' ∨ c = 'E' then
        let (negative, r) := match r with
          | '-' :: r => (true, r)
          | '+' :: r => (false, r)
          | r => (false, r)
        match digitRun r with
        | ([], _) => none
        | (ds, rest) =>
            -- an exponent of more than twelve digits decides the value whatever it is
            let e : Int := natOfDigits 10 (if ds.length > 12 then '9' :: List.replicate 12 '9' else ds)
            some (if negative then -e else e, rest)
      else some (0, s)
  | [] => some (0, [])

/-- An unsigned decimal literal over the whole text: digits, a point and an exponent, with at least
one digit before or after the point. -/
def unsignedDecimal? (s : List Char) : Option Number :=
  let (whole, rest) := digitRun s
  let (fraction, rest) := match rest with
    | '.' :: r => digitRun r
    | r => ([], r)
  if whole.isEmpty ∧ fraction.isEmpty then none
  else
    match exponentPart rest with
    | some (e, []) => some (ofScaled (natOfDigits 10 (whole ++ fraction)) (e - fraction.length))
    | _ => none

/-- The sign of a numeral, as `true` for negative, and the rest. -/
def signPart : List Char → Bool × List Char
  | '-' :: r => (true, r)
  | '+' :: r => (false, r)
  | s => (false, s)

/-- Digits of one base over the whole text, at least one. -/
def basedInteger? (base : Nat) (s : List Char) : Option Number :=
  if s.isEmpty ∨ ¬ s.all (fun c => (digitValue? base c).isSome) then none
  else some ((natOfDigits base s : Nat) : Number)

/-- The number a numeral of an environment variable stands for. Blanks at the ends are dropped and
nothing counts as zero; hexadecimal, octal and binary integers and signed decimals are numerals,
as is a signed infinity; every other text is not a number. -/
def ofNumeral (text : String) : Number :=
  match trim text.toList with
  | [] => .finite 0
  | s =>
      let based := match s with
        | '0' :: b :: r =>
            if b = 'x' ∨ b = 'X' then some (basedInteger? 16 r)
            else if b = 'o' ∨ b = 'O' then some (basedInteger? 8 r)
            else if b = 'b' ∨ b = 'B' then some (basedInteger? 2 r)
            else none
        | _ => none
      match based with
      | some n => n.getD .nan
      | none =>
          let (negative, r) := signPart s
          let magnitude :=
            if r = "Infinity".toList then .infinite false else (unsignedDecimal? r).getD .nan
          if negative then -magnitude else magnitude

end Number

end VoiceControl
