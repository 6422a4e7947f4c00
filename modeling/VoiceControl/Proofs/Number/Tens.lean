import Mathlib.Data.Rat.Lemmas
import Mathlib.Tactic.Linarith
import VoiceControl.Proofs.Number.Fractions
import VoiceControl.Speech.Lexicon

/-!
# Tens and units

Which numbers are tens is told by their remainder, which is rounded. Between twenty and ninety no
number is so close to a multiple of ten that its remainder is rounded away.
-/

namespace VoiceControl.Lexicon

variable {x : Number}

/-- Units are the numbers from one to nine. -/
theorem isUnits_iff : isUnits x = true ↔ ∃ q : Rat, x = .finite q ∧ 1 ≤ q ∧ q ≤ 9 := by
  have one : (1 : Number) = .finite 1 := by decide
  have nine : (9 : Number) = .finite 9 := by decide
  rw [isUnits, one, nine]
  cases x with
  | nan => simp [Number.le]
  | infinite negative => cases negative <;> simp [Number.le, Number.lt]
  | finite q => simp [Number.le, Number.lt]

theorem isTens_iff_remainder :
    isTens x = true ↔ ∃ q : Rat, x = .finite q ∧ 20 ≤ q ∧ q ≤ 90 ∧
      Number.ofRat (q - (10 * (q / 10).floor : Int)) = .finite 0 := by
  have zero : (0 : Number) = .finite 0 := by decide
  have ten : (10 : Number) = .finite 10 := by decide
  have twenty : (20 : Number) = .finite 20 := by decide
  have ninety : (90 : Number) = .finite 90 := by decide
  rw [isTens, zero, ten, twenty, ninety]
  cases x with
  | nan => simp [Number.le]
  | infinite negative => cases negative <;> simp [Number.le, Number.lt]
  | finite q =>
      have divides (least : 20 ≤ q) : (Number.finite q).remainder (.finite 10) =
          Number.ofRat (q - (10 * (q / 10).floor : Int)) := by
        have sign : ¬ q / 10 < 0 := not_lt_of_ge (div_nonneg (le_trans (by norm_num) least)
          (by norm_num))
        rw [Number.remainder, if_neg (by norm_num)]
        dsimp only
        rw [if_neg sign]
        push_cast
        rfl
      constructor
      · intro tens
        simp only [Number.le, Number.lt, Bool.and_eq_true, Bool.not_eq_true',
          decide_eq_false_iff_not, not_lt, decide_eq_true_eq] at tens
        exact ⟨q, rfl, tens.1.1, tens.1.2, (divides tens.1.1).symm.trans tens.2⟩
      · rintro ⟨_, same, least, most, rest⟩
        obtain rfl := Number.finite.inj same
        simp only [Number.le, Number.lt, Bool.and_eq_true, Bool.not_eq_true',
          decide_eq_false_iff_not, not_lt, decide_eq_true_eq]
        exact ⟨⟨least, most⟩, (divides least).trans rest⟩

/-- Tens do not follow tens within one number. -/
theorem isUnits_of_isTens (tens : isTens x = true) : isUnits x = false := by
  obtain ⟨q, rfl, least, -⟩ := isTens_iff_remainder.1 tens
  refine Bool.eq_false_iff.2 fun units => ?_
  obtain ⟨_, same, -, most⟩ := isUnits_iff.1 units
  rw [← Number.finite.inj same] at most
  exact absurd (least.trans most) (by norm_num)

/-- The tens are twenty, thirty and so on to ninety: what is left of another number when it is
divided by ten is not rounded away. -/
theorem isTens_iff (rounded : ∀ q, x = .finite q → Number.ofRat q = .finite q) :
    isTens x = true ↔ ∃ k : Nat, 2 ≤ k ∧ k ≤ 9 ∧ x = ((10 * k : Nat) : Number) := by
  rw [isTens_iff_remainder]
  constructor
  · rintro ⟨q, rfl, least, most, rest⟩
    have below : (((q / 10).floor : Int) : Rat) ≤ q / 10 := Rat.floor_le _
    have whole : q = (10 * (q / 10).floor : Int) := by
      refine eq_of_sub_eq_zero (le_antisymm (not_lt.1 fun more => ?_) ?_)
      · refine Number.ofRat_ne_zero more ?_ rest
        rw [Rat.sub_intCast_den]
        exact Number.den_lt_of_ofRat_eq (le_trans (by norm_num) least) (rounded q rfl)
      · rw [sub_nonneg]
        push_cast
        linarith
    generalize (q / 10).floor = k at whole
    subst whole
    have low : 20 ≤ 10 * k := by exact_mod_cast least
    have high : 10 * k ≤ 90 := by exact_mod_cast most
    obtain ⟨n, rfl⟩ : ∃ n : Nat, k = n := ⟨k.toNat, by omega⟩
    refine ⟨n, by omega, by omega, ?_⟩
    rw [Number.natCast_eq_finite (by unfold Number.exactLimit; omega)]
    push_cast
    rfl
  · rintro ⟨k, low, high, rfl⟩
    have small : 10 * k ≤ Number.exactLimit := by
      unfold Number.exactLimit
      omega
    refine ⟨(10 * k : Nat), Number.natCast_eq_finite small, ?_, ?_, ?_⟩
    · exact_mod_cast (by omega : 20 ≤ 10 * k)
    · exact_mod_cast (by omega : 10 * k ≤ 90)
    · have tenth : (((10 * k : Nat) : Rat) / 10).floor = k := by
        rw [show ((10 * k : Nat) : Rat) / 10 = (k : Int) by push_cast; ring]
        exact Rat.floor_intCast _
      rw [tenth]
      push_cast
      rw [sub_self]
      rfl

end VoiceControl.Lexicon
