import VoiceControl.Text.CaseTable
import VoiceControl.Text.Category

/-!
# Lower case and caseless comparison

`lower` is the full lower-case mapping of Unicode: one capital letter may become two characters,
and a capital sigma becomes the final form at the end of a word. `caseKey` is the simple
upper-case mapping used where two characters are compared without regard to case; it never leads
from outside ASCII into ASCII.
-/

namespace VoiceControl.Text

/-- Applies the first row that covers `n`, if there is one. -/
def shiftBy (rows : List (Nat × Nat × Nat × Int)) (n : Nat) : Nat :=
  match rows.find? fun (lo, hi, step, _) => lo ≤ n && n ≤ hi && (n - lo) % step == 0 with
  | some (_, _, _, shift) => (n + shift).toNat
  | none => n

/-- Lower case of a character outside any context. -/
def lowerChar (c : Char) : List Char :=
  if c.toNat < 0x80 then [c.toLower]
  else if c.toNat = 0x130 then ['i', '\u0307']
  else [Char.ofNat (shiftBy lowerRows c.toNat)]

/-- Whether the first character that a case rule does not look past has case. -/
def meetsCased (s : List Char) : Bool :=
  match s.dropWhile fun c => inRanges caseIgnorableRanges c.toNat with
  | [] => false
  | c :: _ => inRanges casedRanges c.toNat

/-- Lower case of `s` where `before` is the text in front of it, last character first. -/
def lowerFrom (before : List Char) : (s : List Char) → List Char
  | [] => []
  | c :: r =>
      let here :=
        if c = '\u03A3' then [if meetsCased before && !meetsCased r then '\u03C2' else '\u03C3']
        else lowerChar c
      here ++ lowerFrom (c :: before) r

/-- Lower case of a text. -/
def lower (s : List Char) : List Char := lowerFrom [] s

/-- Lower case of a string. -/
def lowerText (s : String) : String := String.ofList (lower s.toList)

/-- The character that stands for `c` in comparisons without regard to case. -/
def caseKey (c : Char) : Char :=
  if c.toNat < 0x80 then c.toUpper
  else if c.toNat < 0x10000 then Char.ofNat (shiftBy upperRows c.toNat)
  else c

/-- What follows `start` in `s` when `s` begins with it up to case, with the part of `s` that
stands for it. -/
def afterCaseless? : (start s : List Char) → Option (List Char × List Char)
  | [], s => some ([], s)
  | _ :: _, [] => none
  | a :: p, c :: s =>
      if caseKey a = caseKey c then (afterCaseless? p s).map fun (m, rest) => (c :: m, rest)
      else none

@[simp] theorem lower_nil : lower [] = [] := rfl

/-- A caseless start and what follows it make up the text. -/
theorem eq_append_of_afterCaseless? {p s m rest : List Char}
    (h : afterCaseless? p s = some (m, rest)) : s = m ++ rest := by
  induction p generalizing s m with
  | nil =>
      simp only [afterCaseless?, Option.some.injEq, Prod.mk.injEq] at h
      obtain ⟨rfl, rfl⟩ := h
      rfl
  | cons a p ih =>
      cases s with
      | nil => simp [afterCaseless?] at h
      | cons c s =>
          unfold afterCaseless? at h
          split at h
          · obtain ⟨⟨m', r'⟩, hs, hm⟩ := Option.map_eq_some_iff.1 h
            simp only [Prod.mk.injEq] at hm
            obtain ⟨rfl, rfl⟩ := hm
            simp [ih hs]
          · simp at h

end VoiceControl.Text
