/-!
# Finding one text inside another

Starts, occurrences and splits of character lists, the only searches that matching an utterance
needs.
-/

namespace VoiceControl.Text

/-- What follows `start` in `s`, when `s` begins with it. -/
def after? : (start s : List Char) → Option (List Char)
  | [], s => some s
  | _ :: _, [] => none
  | a :: p, c :: s => if a = c then after? p s else none

theorem after?_eq_some_iff {p s t : List Char} : after? p s = some t ↔ s = p ++ t := by
  induction p generalizing s with
  | nil => simp [after?, eq_comm]
  | cons a p ih =>
      cases s with
      | nil => simp [after?]
      | cons c s =>
          by_cases h : a = c
          · simp [after?, h, ih]
          · simp [after?, h, Ne.symm h]

/-- Whether `s` begins with `start`. -/
def startsWith (start s : List Char) : Bool := (after? start s).isSome

/-- Splits `s` around the first occurrence of `needle`. -/
def splitAt? (needle : List Char) : List Char → Option (List Char × List Char)
  | [] => if needle.isEmpty then some ([], []) else none
  | c :: s =>
      match after? needle (c :: s) with
      | some rest => some ([], rest)
      | none => (splitAt? needle s).map fun (before, rest) => (c :: before, rest)

/-- A split takes nothing away. -/
theorem eq_of_splitAt? {needle s before rest : List Char}
    (h : splitAt? needle s = some (before, rest)) : s = before ++ needle ++ rest := by
  induction s generalizing before with
  | nil =>
      unfold splitAt? at h
      split at h <;> simp_all
  | cons c s ih =>
      unfold splitAt? at h
      split at h
      · rename_i r hr
        simp only [Option.some.injEq, Prod.mk.injEq] at h
        obtain ⟨rfl, rfl⟩ := h
        simpa using after?_eq_some_iff.1 hr
      · obtain ⟨⟨b, r⟩, hs, hb⟩ := Option.map_eq_some_iff.1 h
        simp only [Prod.mk.injEq] at hb
        obtain ⟨rfl, rfl⟩ := hb
        simp [ih hs]

/-- Whether `needle` occurs in `s`. -/
def occursIn (needle s : List Char) : Bool := (splitAt? needle s).isSome

end VoiceControl.Text
