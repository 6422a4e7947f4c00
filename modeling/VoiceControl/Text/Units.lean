/-!
# Sixteen-bit units

Lengths and similarity of utterances are counted in UTF-16 units: a character above `0xFFFF`
counts twice. Text stays a list of characters; the units are a view of it.
-/

namespace VoiceControl.Text

/-- The UTF-16 units of one character: itself, or a surrogate pair. -/
def unitsOf (c : Char) : List Nat :=
  let n := c.toNat
  if n < 0x10000 then [n] else [0xD800 + (n - 0x10000) / 0x400, 0xDC00 + (n - 0x10000) % 0x400]

/-- The UTF-16 units of a text. -/
def units (s : List Char) : List Nat := s.flatMap unitsOf

/-- The number of UTF-16 units of a text. -/
def unitCount (s : List Char) : Nat := (units s).length

/-- The longest start of a text that has at most `n` units. -/
def takeUnits : Nat → List Char → List Char
  | _, [] => []
  | n, c :: r => if (unitsOf c).length ≤ n then c :: takeUnits (n - (unitsOf c).length) r else []

@[simp] theorem units_nil : units [] = [] := rfl

@[simp] theorem units_append (s t : List Char) : units (s ++ t) = units s ++ units t := by
  simp [units]

@[simp] theorem unitCount_append (s t : List Char) :
    unitCount (s ++ t) = unitCount s + unitCount t := by
  simp [unitCount]

end VoiceControl.Text
