import VoiceControl.Text.Case

/-!
# What is in lower case

A text that was put in lower case stays as it is when it is put in lower case again. A capital sigma
is what depends on its surroundings, and none is left. For the other characters it is a property of
the table: no row leads to a code point that a row covers.
-/

namespace VoiceControl.Text

/-- A character that is in lower case wherever it stands. -/
def IsLowered (c : Char) : Prop := lowerChar c = [c] ∧ c ≠ '\u03A3'

instance (c : Char) : Decidable (IsLowered c) := inferInstanceAs (Decidable (_ ∧ _))

theorem lowerFrom_of_lowered {s : List Char} (lowered : ∀ c ∈ s, IsLowered c)
    (before : List Char) : lowerFrom before s = s := by
  induction s generalizing before with
  | nil => rfl
  | cons c r ih =>
      obtain ⟨same, notSigma⟩ := lowered c List.mem_cons_self
      rw [lowerFrom, if_neg notSigma, same, ih fun d hd => lowered d (List.mem_cons_of_mem c hd)]
      rfl

/-! ## The table -/

/-- Whether a row covers none of the code points that are reached from `first` to `last`, every one
or, if `alternate` is set, every other one: they are below it, above it or between those that it
covers. -/
def isPast (first last : Nat) (alternate : Bool) : Nat × Nat × Nat × Int → Bool
  | (lo, hi, step, _) =>
      Nat.blt last lo || Nat.blt hi first ||
        (alternate && Nat.beq step 2 && Nat.beq ((first + lo) % 2) 1)

/-- Whether a row leads to code points that are in lower case: to small letters if to ASCII, and
past the exception and all rows of the table. -/
def leadsToLowered : Nat × Nat × Nat × Int → Bool
  | (lo, hi, step, shift) =>
      let first := (lo + shift).toNat
      let last := (hi + shift).toNat
      (Nat.ble 128 first || (Nat.ble 97 first && Nat.ble last 122)) &&
        (Nat.blt last 0x130 || Nat.blt 0x130 first) &&
        lowerRows.all (isPast first last (Nat.beq step 2 || Nat.beq lo hi))

theorem leadsToLowered_lowerRows : ∀ row ∈ lowerRows, leadsToLowered row = true :=
  List.all_eq_true.1 (by decide +kernel)

/-- The code points that a row of the table leads to. -/
theorem shiftBy_cases (n : Nat) :
    shiftBy lowerRows n = n ∨
      ∃ lo hi step shift, (lo, hi, step, shift) ∈ lowerRows ∧
        lo ≤ n ∧ n ≤ hi ∧ (n - lo) % step = 0 ∧ shiftBy lowerRows n = (n + shift).toNat := by
  unfold shiftBy
  split
  · rename_i lo hi step shift found
    have covers := List.find?_some found
    simp only [Bool.and_eq_true, decide_eq_true_eq, beq_iff_eq] at covers
    exact .inr ⟨lo, hi, step, shift, List.mem_of_find?_eq_some found, covers.1.1, covers.1.2,
      covers.2, rfl⟩
  · exact .inl rfl

/-- No row applies after a row was applied, and what is reached is a small letter if it is in
ASCII. -/
theorem shiftBy_settles (n : Nat) :
    shiftBy lowerRows n = n ∨
      shiftBy lowerRows (shiftBy lowerRows n) = shiftBy lowerRows n ∧
        shiftBy lowerRows n ≠ 0x130 ∧
        (128 ≤ shiftBy lowerRows n ∨ 97 ≤ shiftBy lowerRows n ∧ shiftBy lowerRows n ≤ 122) := by
  rcases shiftBy_cases n with same | ⟨lo, hi, step, shift, mem, above, below, onStep, eq⟩
  · exact .inl same
  right
  rw [eq]
  have leads := leadsToLowered_lowerRows _ mem
  simp only [leadsToLowered, Bool.and_eq_true, Bool.or_eq_true, Nat.ble_eq, Nat.blt_eq] at leads
  obtain ⟨⟨ascii, exception⟩, past⟩ := leads
  refine ⟨?_, by omega, by omega⟩
  -- a row that covered what is reached would be led past
  have uncovered : lowerRows.find? (fun (lo', hi', step', _) =>
      lo' ≤ (n + shift).toNat && (n + shift).toNat ≤ hi' &&
        ((n + shift).toNat - lo') % step' == 0) = none := by
    refine List.find?_eq_none.2 fun (lo', hi', step', _) mem' covers => ?_
    have here := List.all_eq_true.1 past _ mem'
    simp only [isPast, Bool.and_eq_true, Bool.or_eq_true, Nat.blt_eq, Nat.beq_eq] at here
    simp only [Bool.and_eq_true, decide_eq_true_eq, beq_iff_eq] at covers
    rcases here with (under | above) | ⟨⟨single, rfl⟩, odd⟩
    · omega
    · omega
    · rcases single with rfl | rfl <;> omega
  rw [shiftBy, uncovered]

/-! ## Characters and texts -/

theorem isLowered_toLower : ∀ n < 128, IsLowered (Char.ofNat n).toLower := by decide +kernel

theorem isLowered_of_small : ∀ n < 123, 97 ≤ n → IsLowered (Char.ofNat n) := by decide +kernel

/-- Beyond ASCII the table decides. -/
theorem isLowered_of_fixed {c : Char} (beyond : 128 ≤ c.toNat) (plain : c.toNat ≠ 0x130)
    (fixed : shiftBy lowerRows c.toNat = c.toNat) : IsLowered c := by
  refine ⟨?_, ?_⟩
  · rw [lowerChar, if_neg (by omega), if_neg plain, fixed, Char.ofNat_toNat]
  · rintro rfl
    exact absurd fixed (by decide)

theorem isLowered_of_mem_lowerChar {c d : Char} (h : d ∈ lowerChar c) : IsLowered d := by
  unfold lowerChar at h
  split at h
  · rename_i ascii
    rw [List.mem_singleton.1 h, ← Char.ofNat_toNat c]
    exact isLowered_toLower _ ascii
  split at h
  · have dotted : IsLowered 'i' ∧ IsLowered '\u0307' := by decide
    simp only [List.mem_cons, List.not_mem_nil, or_false] at h
    rcases h with rfl | rfl
    · exact dotted.1
    · exact dotted.2
  rename_i beyond plain
  obtain rfl := List.mem_singleton.1 h
  rcases shiftBy_settles c.toNat with same | ⟨fixed, exception, reach⟩
  · rw [same, Char.ofNat_toNat]
    exact isLowered_of_fixed (by omega) plain same
  · generalize shiftBy lowerRows c.toNat = m at fixed exception reach
    by_cases valid : m.isValidChar
    · rcases reach with above | small
      · have toNat : (Char.ofNat m).toNat = m := by
          rw [Char.ofNat, dif_pos valid]
          rfl
        refine isLowered_of_fixed ?_ ?_ ?_ <;> rw [toNat] <;> assumption
      · exact isLowered_of_small m (by omega) small.1
    · -- there is no such character
      rw [Char.ofNat, dif_neg valid]
      decide

theorem isLowered_of_mem_lowerFrom {s before : List Char} {d : Char} (h : d ∈ lowerFrom before s) :
    IsLowered d := by
  induction s generalizing before with
  | nil => cases h
  | cons c r ih =>
      rcases List.mem_append.1 h with here | later
      · split at here
        · have small : IsLowered '\u03C2' ∧ IsLowered '\u03C3' := by decide +kernel
          rw [List.mem_singleton.1 here]
          split
          · exact small.1
          · exact small.2
        · exact isLowered_of_mem_lowerChar here
      · exact ih later

/-- What was put in lower case is in lower case. -/
theorem lower_lower (s : List Char) : lower (lower s) = lower s :=
  lowerFrom_of_lowered (fun _ h => isLowered_of_mem_lowerFrom h) []

theorem lowerText_lowerText (s : String) : lowerText (lowerText s) = lowerText s := by
  rw [lowerText, lowerText, String.toList_ofList, lower_lower]

end VoiceControl.Text
