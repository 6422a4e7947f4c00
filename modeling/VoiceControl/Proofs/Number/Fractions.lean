import Mathlib.Algebra.Order.Field.Rat
import Mathlib.Tactic.Positivity
import Mathlib.Tactic.NormNum
import Mathlib.Tactic.Ring
import VoiceControl.Proofs.Number.Natural

/-!
# Fractions as numbers

A fraction between zero and one is rounded to a number between zero and one. Numbers below one lie
so close that a fraction whose denominator has at most 54 bits reaches neither end: what is left of
it to one is more than half of the last bit that is kept, and it is not lost as too small. The
numbers from one on have such denominators themselves.
-/

namespace VoiceControl

namespace Number

variable {n d k : Nat} {q : Rat}

/-! ## Rounding a quotient -/

/-- A quotient that is less than a half above a natural number is not rounded above it. -/
theorem roundEven_le (below : 2 * n < (2 * k + 1) * d) : roundEven n d ≤ k := by
  have whole : d * (n / d) + n % d = n := Nat.div_add_mod n d
  have half : (2 * k + 1) * d = 2 * (d * k) + d := by ring
  have quotient : n / d ≤ k := by
    refine Nat.le_of_lt_succ (Nat.lt_of_not_le fun above => ?_)
    have more := Nat.mul_le_mul_left d above
    rw [Nat.mul_succ] at more
    omega
  unfold roundEven
  dsimp only
  -- rounding adds at most one, and nothing where the quotient is `k` already
  rcases Nat.lt_or_eq_of_le quotient with less | same
  · split
    · omega
    · split
      · omega
      · split <;> omega
  · have nearer : 2 * (n % d) < d := by
      rw [same] at whole
      omega
    rw [if_pos nearer]
    exact quotient

/-- The last place kept lies 52 places below the first bit, which the lengths of numerator and
denominator tell up to one place. -/
theorem lastPlace_bounds (n d : Nat) :
    Max.max ((Nat.log2 n : Int) - Nat.log2 d - 53) (-1074) ≤ lastPlace n d ∧
      lastPlace n d ≤ Max.max ((Nat.log2 n : Int) - Nat.log2 d - 52) (-1074) := by
  unfold lastPlace
  dsimp only
  split <;> split <;> omega

/-- Something is kept of a quotient whose denominator has at most 54 bits. -/
theorem significand_pos (positive : 0 < n) (small : d < 2 ^ 54) (some_ : 0 < d) :
    0 < significand n d (lastPlace n d) := by
  obtain ⟨-, most⟩ := lastPlace_bounds n d
  generalize lastPlace n d = place at most
  have first : 2 ^ Nat.log2 n ≤ n := Nat.log2_self_le (by omega)
  have last : d < 2 ^ (Nat.log2 d + 1) := Nat.lt_log2_self
  rw [significand]
  -- the quotient is shifted so far that it is at least one, by its numerator or its denominator
  split
  · rename_i negative
    obtain ⟨p, rfl⟩ : ∃ p : Nat, place = -(p : Int) := ⟨place.natAbs, by omega⟩
    refine Nat.lt_of_lt_of_le (Nat.div_pos ?_ some_) (div_le_roundEven _ d)
    rw [Int.natAbs_neg, Int.natAbs_natCast, Nat.pow_eq]
    by_cases late : 54 ≤ p
    · calc d ≤ 2 ^ 54 := Nat.le_of_lt small
        _ ≤ 2 ^ p := Nat.pow_le_pow_right (by decide) late
        _ ≤ n * 2 ^ p := Nat.le_mul_of_pos_left _ positive
    · calc d ≤ 2 ^ (Nat.log2 d + 1) := Nat.le_of_lt last
        _ ≤ 2 ^ (Nat.log2 n + p) := Nat.pow_le_pow_right (by decide) (by omega)
        _ = 2 ^ Nat.log2 n * 2 ^ p := Nat.pow_add _ _ _
        _ ≤ n * 2 ^ p := Nat.mul_le_mul_right _ first
  · obtain ⟨p, rfl⟩ : ∃ p : Nat, place = (p : Int) := ⟨place.toNat, by omega⟩
    rw [Int.natAbs_natCast, Nat.pow_eq]
    have whole : d * 2 ^ p ≤ n :=
      calc d * 2 ^ p ≤ 2 ^ (Nat.log2 d + 1) * 2 ^ p := Nat.mul_le_mul_right _ (Nat.le_of_lt last)
        _ = 2 ^ (Nat.log2 d + 1 + p) := (Nat.pow_add _ _ _).symm
        _ ≤ 2 ^ Nat.log2 n := Nat.pow_le_pow_right (by decide) (by omega)
        _ ≤ n := first
    exact Nat.lt_of_lt_of_le (Nat.div_pos whole (Nat.mul_pos some_ (Nat.two_pow_pos p)))
      (div_le_roundEven n _)

/-! ## Powers of two -/

theorem one_lt_twoPow {e : Int} (positive : 0 < e) : 1 < twoPow e := by
  rw [twoPow, if_neg (by omega)]
  exact_mod_cast Nat.one_lt_two_pow (by omega : e.natAbs ≠ 0)

theorem twoPow_neg (p : Nat) : twoPow (-(p : Int)) = 1 / (2 ^ p : Nat) := by
  rw [twoPow, Int.natAbs_neg, Int.natAbs_natCast, Nat.pow_eq]
  split
  · exact Rat.mkRat_eq_div 1 (2 ^ p)
  · have zero : p = 0 := by omega
    rw [zero]
    norm_num

/-! ## What is kept of a positive rational -/

/-- A positive rational with a denominator of at most 54 bits is not lost as too small. -/
theorem ofRat_ne_zero (positive : 0 < q) (small : q.den < 2 ^ 54) : ofRat q ≠ .finite 0 := by
  have sign : ¬ q < 0 := not_lt_of_gt positive
  have num_pos : 0 < q.num.natAbs := by
    have := Rat.num_pos.2 positive
    omega
  have kept : (0 : Rat) < significand q.num.natAbs q.den (lastPlace q.num.natAbs q.den) := by
    exact_mod_cast significand_pos num_pos small q.den_pos
  have magnitude := mul_pos kept (twoPow_pos (lastPlace q.num.natAbs q.den))
  rw [ofRat]
  split
  · exact fun same => positive.ne' (finite.inj same)
  · dsimp only
    split
    · intro same
      cases same
    · exact fun same => magnitude.ne' (finite.inj same)

/-- A number from one on has a denominator of at most 54 bits. -/
theorem den_lt_of_ofRat_eq (least : 1 ≤ q) (fixed : ofRat q = .finite q) : q.den < 2 ^ 54 := by
  have sign : ¬ q < 0 := not_lt_of_ge (le_trans (by norm_num) least)
  have proper : q.den ≤ q.num.natAbs := by
    have quotient := (Rat.le_iff 1 q).1 least
    rw [Rat.num_one, Rat.den_one] at quotient
    omega
  have logs : Nat.log2 q.den ≤ Nat.log2 q.num.natAbs := by
    rw [Nat.le_log2 (by have := q.den_pos; omega)]
    exact Nat.le_trans (Nat.log2_self_le q.den_nz) proper
  have place := (lastPlace_bounds q.num.natAbs q.den).1
  rw [ofRat] at fixed
  split at fixed
  · rename_i whole
    rw [whole.1]
    decide
  · dsimp only at fixed
    generalize lastPlace q.num.natAbs q.den = e at place fixed
    split at fixed
    · cases fixed
    · -- the value is so many bits of the last place
      have value := finite.inj fixed
      generalize significand q.num.natAbs q.den e = m at value
      rcases Int.lt_or_le e 0 with negative | _
      · obtain ⟨p, rfl⟩ : ∃ p : Nat, e = -(p : Int) := ⟨e.natAbs, by omega⟩
        have divides := Rat.den_dvd m (2 ^ p : Nat)
        rw [twoPow_neg, mul_one_div] at value
        rw [Rat.divInt_eq_div, Int.cast_natCast, Int.cast_natCast, value,
          Int.natCast_dvd_natCast] at divides
        calc q.den ≤ 2 ^ p := Nat.le_of_dvd (Nat.two_pow_pos p) divides
          _ ≤ 2 ^ 53 := Nat.pow_le_pow_right (by decide) (by omega)
          _ < 2 ^ 54 := by decide
      · rw [twoPow, if_neg (by omega)] at value
        have whole : q = ((m * Nat.pow 2 e.natAbs : Nat) : Rat) := by
          rw [← value]
          push_cast
          rfl
        rw [whole, Rat.den_natCast]
        decide

/-! ## The rounded fraction -/

/-- The last bit kept of a fraction is worth less than one, and `2 ^ -53` from a half on. -/
theorem exists_lastPlace_eq (positive : 0 < n) (less : n < d) :
    ∃ p : Nat, lastPlace n d = -(p : Int) ∧ 0 < p ∧ (d ≤ 2 * n → p = 53) := by
  have logs : Nat.log2 n ≤ Nat.log2 d := by
    rw [Nat.le_log2 (by omega)]
    exact Nat.le_of_lt (Nat.lt_of_le_of_lt (Nat.log2_self_le (by omega)) less)
  have near (half : d ≤ 2 * n) : Nat.log2 d ≤ Nat.log2 n + 1 := by
    rw [← Nat.log2_two_mul (by omega), Nat.le_log2 (by omega)]
    exact Nat.le_trans (Nat.log2_self_le (by omega)) half
  suffices h : ∃ e : Int, lastPlace n d = Max.max (e - 52) (-1074) ∧ e ≤ -1 ∧
      (d ≤ 2 * n → e = -1) by
    obtain ⟨e, place, below, half⟩ := h
    refine ⟨(lastPlace n d).natAbs, by omega, by omega, fun h => ?_⟩
    have exponent := half h
    omega
  unfold lastPlace
  dsimp only
  generalize hg : (Nat.log2 n : Int) - (Nat.log2 d : Int) = guess
  rcases Nat.lt_or_eq_of_le logs with lower | equal
  · rw [if_pos (by omega : guess < 0)]
    by_cases reached : d ≤ n * Nat.pow 2 guess.natAbs
    · refine ⟨guess, by rw [decide_eq_true reached, if_pos rfl], by omega, fun half => ?_⟩
      have := near half
      omega
    · refine ⟨guess - 1, by rw [decide_eq_false reached, if_neg Bool.false_ne_true], by omega,
        fun half => ?_⟩
      -- a guess of -1 is reached from a half on
      have one : guess = -1 := by
        have := near half
        omega
      refine absurd ?_ reached
      rw [one, Nat.mul_comm]
      exact half
  · have missed : ¬ d * Nat.pow 2 guess.natAbs ≤ n := by
      rw [show guess = 0 by omega, Nat.not_le]
      exact Nat.lt_of_lt_of_eq less (Nat.mul_one d).symm
    have level : ¬ guess < 0 := by omega
    refine ⟨guess - 1, ?_, by omega, fun _ => by omega⟩
    rw [if_neg level, decide_eq_false missed, if_neg Bool.false_ne_true]

/-- How many of the last bits that are kept a fraction is rounded to. -/
theorem roundEven_fraction {p : Nat} (less : n < d) (half : d ≤ 2 * n → p = 53) :
    roundEven (n * 2 ^ p) d ≤ 2 ^ p ∧ (d < 2 ^ 54 → roundEven (n * 2 ^ p) d < 2 ^ p) := by
  have power : 0 < 2 ^ p := Nat.two_pow_pos p
  constructor
  · refine roundEven_le ?_
    have whole : n * 2 ^ p ≤ d * 2 ^ p := Nat.mul_le_mul_right _ (Nat.le_of_lt less)
    have sum : (2 * 2 ^ p + 1) * d = 2 * (d * 2 ^ p) + d := by ring
    omega
  · intro small
    -- one below the power is not exceeded
    suffices h : roundEven (n * 2 ^ p) d ≤ 2 ^ p - 1 by omega
    refine roundEven_le ?_
    by_cases upper : d ≤ 2 * n
    · rw [half upper]
      omega
    · have all : (2 * (2 ^ p - 1) + 1) * d = 2 ^ p * (2 * d) - d := by
        rw [show 2 * (2 ^ p - 1) + 1 = 2 * 2 ^ p - 1 by omega, Nat.sub_mul]
        ring_nf
      have lower : 2 ^ p * (2 * n + 1) ≤ 2 ^ p * d := Nat.mul_le_mul_left _ (by omega)
      have double : 2 ^ p * (2 * d) = 2 ^ p * d + 2 ^ p * d := by ring
      have least : 1 * d ≤ 2 ^ p * d := Nat.mul_le_mul_right _ power
      have left : 2 ^ p * (2 * n + 1) = 2 * (n * 2 ^ p) + 2 ^ p := by ring
      omega

/-- What a fraction is rounded to, as so many of the last bits that are kept. -/
theorem exists_ofRat_eq (positive : 0 < q) (less : q < 1) :
    ∃ m p : Nat, ofRat q = .finite (m / (2 ^ p : Nat)) ∧ m ≤ 2 ^ p ∧
      (q.den < 2 ^ 54 → m < 2 ^ p) := by
  have sign : ¬ q < 0 := not_lt_of_gt positive
  have num_pos := Rat.num_pos.2 positive
  have num_lt : q.num.natAbs < q.den := by
    have below := (Rat.lt_iff q 1).1 less
    rw [Rat.num_one, Rat.den_one] at below
    omega
  obtain ⟨p, place, negative, half⟩ := exists_lastPlace_eq (by omega) num_lt
  obtain ⟨most, proper⟩ := roundEven_fraction num_lt half
  have outside : ¬ (q.den = 1 ∧ q.num.natAbs ≤ exactLimit) := by omega
  have kept : significand q.num.natAbs q.den (-(p : Int)) =
      roundEven (q.num.natAbs * 2 ^ p) q.den := by
    rw [significand, if_pos (by omega), Int.natAbs_neg, Int.natAbs_natCast]
    rfl
  generalize roundEven (q.num.natAbs * 2 ^ p) q.den = m at most proper kept
  have bounded : ¬ (m : Rat) / (2 ^ p : Nat) ≥ twoPow 1024 := by
    have power : (0 : Rat) < (2 ^ p : Nat) := by exact_mod_cast Nat.two_pow_pos p
    have quotient : (m : Rat) / (2 ^ p : Nat) ≤ 1 := by
      rw [div_le_one power]
      exact_mod_cast most
    exact not_le_of_gt (lt_of_le_of_lt quotient (one_lt_twoPow (by decide)))
  refine ⟨m, p, ?_, most, proper⟩
  rw [ofRat, if_neg outside]
  dsimp only
  rw [place, kept, twoPow_neg, mul_one_div, if_neg bounded, if_neg sign]

/-- A share of a whole is rounded to a share of it. With a denominator of at most 54 bits it is
rounded to all or to nothing only if it is that. -/
theorem exists_ofRat_eq_share (least : 0 ≤ q) (most : q ≤ 1) :
    ∃ r : Rat, ofRat q = .finite r ∧ (0 ≤ r ∧ r ≤ 1) ∧
      (q.den < 2 ^ 54 → (r = 1 ↔ q = 1) ∧ (r = 0 ↔ q = 0)) := by
  rcases least.eq_or_lt with rfl | positive
  · exact ⟨0, by decide, by norm_num, fun _ => by norm_num⟩
  · rcases most.eq_or_lt with rfl | less
    · exact ⟨1, by decide, by norm_num, fun _ => by norm_num⟩
    · obtain ⟨m, p, value, bound, proper⟩ := exists_ofRat_eq positive less
      have power : (0 : Rat) < (2 ^ p : Nat) := by exact_mod_cast Nat.two_pow_pos p
      refine ⟨_, value, ⟨by positivity, ?_⟩, fun small => ⟨?_, ?_⟩⟩
      · rw [div_le_one power]
        exact_mod_cast bound
      · rw [div_eq_one_iff_eq power.ne', Nat.cast_inj]
        exact iff_of_false (proper small).ne less.ne
      · refine iff_of_false (fun nothing => ?_) positive.ne'
        rw [nothing] at value
        exact ofRat_ne_zero positive small value

end Number

end VoiceControl
