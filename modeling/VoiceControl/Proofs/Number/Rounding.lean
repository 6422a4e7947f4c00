import Mathlib.Algebra.Order.Field.Power
import Mathlib.Tactic.Linarith
import VoiceControl.Proofs.Number.Fractions

/-!
# Rounding keeps to the numbers around

A rational lies between numbers, and rounding it does not lead past any of them. A number whose last
place is at least that of the rational is a whole count of this place, so the rounded count stays on
its side. One with a smaller last place is at most the smallest rational that has the larger place.

* `Fits`: the rationals that are numbers, as far as they are not negative.
* `le_ofRat`, `ofRat_le`: rounding stays on the side of a number.
* `ofRat_of_fits`: a number is rounded to itself.
* `max_zero_ofRat`, `min_ofRat`: cutting at a number goes before or after rounding alike.
-/

namespace VoiceControl.Number

variable {n d k : Nat} {q b : Rat}

theorem twoPow_eq_zpow (e : Int) : twoPow e = (2 : Rat) ^ e := by
  rcases Int.eq_nat_or_neg e with ⟨p, rfl | rfl⟩
  · rw [twoPow_natCast, zpow_natCast]
    push_cast
    rfl
  · rw [twoPow_neg, zpow_neg, zpow_natCast, one_div]
    push_cast
    rfl

/-! ## Rounding a quotient -/

theorem le_roundEven (above : k * d ≤ n) (some_ : 0 < d) : k ≤ roundEven n d :=
  Nat.le_trans ((Nat.le_div_iff_mul_le some_).2 above) (div_le_roundEven n d)

theorem roundEven_le_of_le (below : n ≤ k * d) (some_ : 0 < d) : roundEven n d ≤ k := by
  refine roundEven_le ?_
  have half : (2 * k + 1) * d = 2 * (k * d) + d := by ring
  omega

/-- The significand lies on the same side of a whole number as the quotient in units of its last
place. -/
theorem significand_sides (some_ : 0 < d) (place : Int) (k : Nat) :
    ((k : Rat) * 2 ^ place ≤ n / d → k ≤ significand n d place) ∧
      ((n : Rat) / d ≤ k * 2 ^ place → significand n d place ≤ k) := by
  have positive : (0 : Rat) < d := by exact_mod_cast some_
  rw [le_div_iff₀ positive, div_le_iff₀ positive, significand]
  by_cases below : place < 0
  · obtain ⟨p, rfl⟩ : ∃ p : Nat, place = -(p : Int) := ⟨place.natAbs, by omega⟩
    have power : (0 : Rat) < 2 ^ p := by positivity
    have scaled : (k : Rat) * 2 ^ (-(p : Int)) * d = (k * d : Nat) / 2 ^ p := by
      rw [zpow_neg, zpow_natCast]
      push_cast
      ring
    have count : (n : Rat) * 2 ^ p = (n * 2 ^ p : Nat) := by push_cast; rfl
    rw [if_pos below, Int.natAbs_neg, Int.natAbs_natCast, Nat.pow_eq, scaled,
      div_le_iff₀ power, le_div_iff₀ power, count, Nat.cast_le, Nat.cast_le]
    exact ⟨fun h => le_roundEven h some_, fun h => roundEven_le_of_le h some_⟩
  · obtain ⟨p, rfl⟩ : ∃ p : Nat, place = (p : Int) := ⟨place.natAbs, by omega⟩
    have unit : 0 < d * 2 ^ p := Nat.mul_pos some_ (Nat.two_pow_pos p)
    have scaled : (k : Rat) * 2 ^ (p : Int) * d = (k * (d * 2 ^ p) : Nat) := by
      rw [zpow_natCast]
      push_cast
      ring
    rw [if_neg below, Int.natAbs_natCast, Nat.pow_eq, scaled, Nat.cast_le, Nat.cast_le]
    exact ⟨fun h => le_roundEven h unit, fun h => roundEven_le_of_le h unit⟩

/-- The power of two below a natural number. -/
theorem log2_sides (positive : 0 < n) :
    (2 : Rat) ^ (Nat.log2 n : Int) ≤ n ∧ (n : Rat) < 2 ^ ((Nat.log2 n : Int) + 1) := by
  have low : 2 ^ Nat.log2 n ≤ n := Nat.log2_self_le (by omega)
  have high : n < 2 ^ (Nat.log2 n + 1) := Nat.lt_log2_self
  constructor
  · rw [zpow_natCast]
    exact_mod_cast low
  · rw [← Int.natCast_succ, zpow_natCast]
    exact_mod_cast high

/-- The last place is told by the first bit of the quotient. -/
theorem exists_lastPlace_eq_firstBit (positive : 0 < n) (some_ : 0 < d) :
    ∃ first : Int, lastPlace n d = Max.max (first - 52) (-1074) ∧
      (2 : Rat) ^ first ≤ n / d ∧ (n : Rat) / d < 2 ^ (first + 1) := by
  have hd : (0 : Rat) < d := by exact_mod_cast some_
  have two : (2 : Rat) ≠ 0 := two_ne_zero
  obtain ⟨low_n, high_n⟩ := log2_sides positive
  obtain ⟨low_d, high_d⟩ := log2_sides some_
  rw [lastPlace]
  generalize guess_eq : (Nat.log2 n : Int) - (Nat.log2 d : Int) = guess
  have high : (n : Rat) / d < 2 ^ (guess + 1) := by
    rw [div_lt_iff₀ hd]
    calc (n : Rat) < 2 ^ ((Nat.log2 n : Int) + 1) := high_n
      _ = 2 ^ (guess + 1) * 2 ^ (Nat.log2 d : Int) := by
          rw [← zpow_add₀ two]
          congr 1
          omega
      _ ≤ 2 ^ (guess + 1) * d := mul_le_mul_of_nonneg_left low_d (by positivity)
  have low : (2 : Rat) ^ (guess - 1) ≤ n / d := by
    rw [le_div_iff₀ hd]
    calc (2 : Rat) ^ (guess - 1) * d
        ≤ 2 ^ (guess - 1) * 2 ^ ((Nat.log2 d : Int) + 1) :=
          mul_le_mul_of_nonneg_left high_d.le (by positivity)
      _ = 2 ^ (Nat.log2 n : Int) := by
          rw [← zpow_add₀ two]
          congr 1
          omega
      _ ≤ n := low_n
  have reached : (if guess < 0 then decide (d ≤ n * Nat.pow 2 guess.natAbs)
      else decide (d * Nat.pow 2 guess.natAbs ≤ n)) = decide ((2 : Rat) ^ guess ≤ n / d) := by
    by_cases below : guess < 0
    · obtain ⟨p, rfl⟩ : ∃ p : Nat, guess = -(p : Int) := ⟨guess.natAbs, by omega⟩
      have power : (0 : Rat) < 2 ^ p := by positivity
      have scaled : (2 : Rat) ^ (-(p : Int)) * d = d / 2 ^ p := by
        rw [zpow_neg, zpow_natCast, mul_comm, div_eq_mul_inv]
      have count : (n : Rat) * 2 ^ p = (n * 2 ^ p : Nat) := by push_cast; rfl
      rw [if_pos below, Int.natAbs_neg, Int.natAbs_natCast, Nat.pow_eq, decide_eq_decide,
        le_div_iff₀ hd, scaled, div_le_iff₀ power, count, Nat.cast_le]
    · obtain ⟨p, rfl⟩ : ∃ p : Nat, guess = (p : Int) := ⟨guess.natAbs, by omega⟩
      have scaled : (2 : Rat) ^ (p : Int) * d = (d * 2 ^ p : Nat) := by
        rw [zpow_natCast]
        push_cast
        ring
      rw [if_neg below, Int.natAbs_natCast, Nat.pow_eq, decide_eq_decide, le_div_iff₀ hd, scaled,
        Nat.cast_le]
  rw [reached]
  by_cases there : (2 : Rat) ^ guess ≤ n / d
  · exact ⟨guess, by rw [if_pos (decide_eq_true there)], there, high⟩
  · refine ⟨guess - 1, by rw [if_neg (by simpa using there)], low, ?_⟩
    rw [sub_add_cancel]
    exact lt_of_not_ge there

/-- The quotient has at most 53 bits above its last place, and as many unless that is the smallest
place there is. -/
theorem lastPlace_spec (positive : 0 < n) (some_ : 0 < d) :
    -1074 ≤ lastPlace n d ∧ (n : Rat) / d < 2 ^ (lastPlace n d + 53) ∧
      (-1074 < lastPlace n d → (2 : Rat) ^ (lastPlace n d + 52) ≤ n / d) := by
  obtain ⟨first, place, low, high⟩ := exists_lastPlace_eq_firstBit positive some_
  refine ⟨by omega, ?_, fun normal => ?_⟩
  · exact high.trans_le (zpow_le_zpow_right₀ one_le_two (by omega))
  · rwa [show lastPlace n d + 52 = first by omega]

/-- A rounded quotient, as its significand counts the last place. -/
def magnitude (n d : Nat) : Rat := significand n d (lastPlace n d) * 2 ^ lastPlace n d

theorem magnitude_nonneg (n d : Nat) : 0 ≤ magnitude n d := by
  unfold magnitude
  positivity

section Magnitude

variable {f : Int}

/-- A number with a smaller last place than a quotient is at most the smallest quotient with
that place. -/
theorem number_le_of_place_lt (bits : k ≤ exactLimit) {place : Int} (lower : f < place) :
    (k : Rat) * 2 ^ f ≤ 2 ^ (place + 52) := by
  have most : (k : Rat) ≤ 2 ^ (53 : Int) := by
    have cast : ((exactLimit : Nat) : Rat) = 2 ^ (53 : Int) := by norm_num [exactLimit]
    rw [← cast]
    exact_mod_cast bits
  calc (k : Rat) * 2 ^ f ≤ 2 ^ (53 : Int) * 2 ^ f :=
        mul_le_mul_of_nonneg_right most (by positivity)
    _ = 2 ^ (53 + f) := (zpow_add₀ two_ne_zero _ _).symm
    _ ≤ 2 ^ (place + 52) := zpow_le_zpow_right₀ one_le_two (by omega)

/-- The smallest count of a place that needs all 53 bits. -/
theorem least_count (place : Int) : ((2 ^ 52 : Nat) : Rat) * 2 ^ place = 2 ^ (place + 52) := by
  rw [Nat.cast_pow, Nat.cast_ofNat, ← zpow_natCast, ← zpow_add₀ two_ne_zero, add_comm]
  rfl

/-- A number with a last place that is not smaller is a whole count of the place of a quotient. -/
theorem number_eq_count {place : Int} (above : place ≤ f) :
    (k : Rat) * 2 ^ f = (k * 2 ^ (f - place).natAbs : Nat) * 2 ^ place := by
  have split : f = ((f - place).natAbs : Int) + place := by omega
  conv_lhs => rw [split, zpow_add₀ two_ne_zero, zpow_natCast]
  push_cast
  ring

/-- Rounding a quotient does not lead below a number that is not above it. -/
theorem number_le_magnitude (positive : 0 < n) (some_ : 0 < d) (bits : k ≤ exactLimit)
    (least : -1074 ≤ f) (below : (k : Rat) * 2 ^ f ≤ n / d) :
    (k : Rat) * 2 ^ f ≤ magnitude n d := by
  obtain ⟨-, -, normal⟩ := lastPlace_spec positive some_
  have unit : (0 : Rat) ≤ 2 ^ lastPlace n d := by positivity
  have sides := significand_sides (n := n) some_ (lastPlace n d)
  unfold magnitude
  generalize lastPlace n d = place at normal unit sides
  rcases le_or_gt place f with above | lower
  · rw [number_eq_count above] at below ⊢
    exact mul_le_mul_of_nonneg_right (by exact_mod_cast (sides _).1 below) unit
  · have full : 2 ^ 52 ≤ significand n d place := by
      refine (sides (2 ^ 52)).1 ?_
      rw [least_count]
      exact normal (by omega)
    calc (k : Rat) * 2 ^ f ≤ 2 ^ (place + 52) := number_le_of_place_lt bits lower
      _ = ((2 ^ 52 : Nat) : Rat) * 2 ^ place := (least_count place).symm
      _ ≤ significand n d place * 2 ^ place :=
          mul_le_mul_of_nonneg_right (by exact_mod_cast full) unit

/-- Rounding a quotient does not lead above a number that is not below it. -/
theorem magnitude_le_number (positive : 0 < n) (some_ : 0 < d) (bits : k ≤ exactLimit)
    (least : -1074 ≤ f) (above : (n : Rat) / d ≤ k * 2 ^ f) :
    magnitude n d ≤ (k : Rat) * 2 ^ f := by
  obtain ⟨-, -, normal⟩ := lastPlace_spec positive some_
  have unit : (0 : Rat) ≤ 2 ^ lastPlace n d := by positivity
  have sides := significand_sides (n := n) some_ (lastPlace n d)
  unfold magnitude
  generalize lastPlace n d = place at normal unit sides
  rcases le_or_gt place f with count | lower
  · rw [number_eq_count count] at above ⊢
    exact mul_le_mul_of_nonneg_right (by exact_mod_cast (sides _).2 above) unit
  · -- the quotient is the smallest one with its place, and the number is this quotient
    have bound := number_le_of_place_lt bits lower
    have full : significand n d place ≤ 2 ^ 52 := by
      refine (sides (2 ^ 52)).2 ?_
      rw [least_count]
      exact above.trans bound
    calc significand n d place * (2 : Rat) ^ place ≤ ((2 ^ 52 : Nat) : Rat) * 2 ^ place :=
          mul_le_mul_of_nonneg_right (by exact_mod_cast full) unit
      _ = 2 ^ (place + 52) := least_count place
      _ ≤ n / d := normal (by omega)
      _ ≤ k * 2 ^ f := above

end Magnitude

/-! ## Rationals that are numbers -/

/-- A rational that is not negative is a number: it has at most 53 bits down from a place that there
is, and it is not too large. -/
def Fits (b : Rat) : Prop :=
  ∃ (k : Nat) (f : Int), k ≤ exactLimit ∧ -1074 ≤ f ∧ b = k * 2 ^ f ∧ b < 2 ^ (1024 : Int)

/-- What a positive rational is rounded to. -/
theorem ofRat_of_pos (positive : 0 < q) :
    ofRat q = .finite q ∧ q.den = 1 ∧ q.num.natAbs ≤ exactLimit ∨
      ofRat q = .infinite false ∧ 2 ^ (1024 : Int) ≤ magnitude q.num.natAbs q.den ∨
      ofRat q = .finite (magnitude q.num.natAbs q.den) ∧
        magnitude q.num.natAbs q.den < 2 ^ (1024 : Int) := by
  have sign : ¬ q < 0 := not_lt_of_gt positive
  by_cases whole : q.den = 1 ∧ q.num.natAbs ≤ exactLimit
  · exact .inl ⟨if_pos whole, whole⟩
  · have rounded : ofRat q = if magnitude q.num.natAbs q.den ≥ 2 ^ (1024 : Int) then .infinite false
        else .finite (magnitude q.num.natAbs q.den) := by
      rw [ofRat, if_neg whole]
      dsimp only
      rw [twoPow_eq_zpow, twoPow_eq_zpow, if_neg sign, decide_eq_false sign]
      rfl
    rw [rounded]
    by_cases large : magnitude q.num.natAbs q.den ≥ 2 ^ (1024 : Int)
    · exact .inr (.inl ⟨if_pos large, large⟩)
    · exact .inr (.inr ⟨if_neg large, lt_of_not_ge large⟩)

/-- A negative rational is rounded to nothing above zero. -/
theorem ofRat_of_neg (negative : q < 0) :
    ofRat q = .infinite true ∨ ∃ r ≤ 0, ofRat q = .finite r := by
  rw [ofRat]
  split
  · exact .inr ⟨q, negative.le, rfl⟩
  · dsimp only
    rw [decide_eq_true negative]
    split
    · exact .inl rfl
    · refine .inr ⟨_, neg_nonpos.2 ?_, rfl⟩
      rw [twoPow_eq_zpow]
      positivity

/-- A positive rational as a quotient of natural numbers. -/
theorem num_div_den_of_pos (positive : 0 < q) :
    0 < q.num.natAbs ∧ (q.num.natAbs : Rat) / q.den = q := by
  have num_pos : 0 < q.num := Rat.num_pos.2 positive
  refine ⟨by omega, ?_⟩
  rw [Nat.cast_natAbs, abs_of_pos num_pos]
  exact Rat.num_div_den q

theorem fits_zero : Fits 0 := ⟨0, 0, by decide, by decide, by simp, by positivity⟩

theorem fits_magnitude (positive : 0 < n) (some_ : 0 < d)
    (bounded : magnitude n d < 2 ^ (1024 : Int)) : Fits (magnitude n d) := by
  obtain ⟨least, most, -⟩ := lastPlace_spec positive some_
  refine ⟨_, _, (significand_sides some_ _ exactLimit).2 ?_, least, rfl, bounded⟩
  have full : ((exactLimit : Nat) : Rat) = 2 ^ (53 : Int) := by norm_num [exactLimit]
  rw [full, ← zpow_add₀ two_ne_zero, add_comm]
  exact most.le

theorem fits_natCast (small : n ≤ exactLimit) : Fits n := by
  refine ⟨n, 0, small, by decide, by simp, ?_⟩
  calc (n : Rat) ≤ (exactLimit : Nat) := by exact_mod_cast small
    _ < 2 ^ (1024 : Int) := by
      rw [show ((exactLimit : Nat) : Rat) = 2 ^ (53 : Int) by norm_num [exactLimit]]
      exact zpow_lt_zpow_right₀ one_lt_two (by decide)

/-- What a rational is rounded to fits, unless it is negative. -/
theorem fits_of_ofRat_eq (rounded : ofRat q = .finite b) (least : 0 ≤ b) : Fits b := by
  rcases lt_trichotomy q 0 with negative | rfl | positive
  · rcases ofRat_of_neg negative with infinite | ⟨r, most, finite⟩
    · rw [infinite] at rounded
      cases rounded
    · rw [finite] at rounded
      obtain rfl := Number.finite.inj rounded
      rw [le_antisymm most least]
      exact fits_zero
  · obtain rfl := Number.finite.inj rounded
    exact fits_zero
  · obtain ⟨num_pos, quotient⟩ := num_div_den_of_pos positive
    rcases ofRat_of_pos positive with ⟨same, whole, small⟩ | ⟨infinite, -⟩ | ⟨same, bounded⟩
    · rw [same] at rounded
      obtain rfl := Number.finite.inj rounded
      rw [whole, Nat.cast_one, div_one] at quotient
      rw [← quotient]
      exact fits_natCast small
    · rw [infinite] at rounded
      cases rounded
    · rw [same] at rounded
      obtain rfl := Number.finite.inj rounded
      exact fits_magnitude num_pos q.den_pos bounded

/-- Rounding does not lead below a number. -/
theorem le_ofRat (fits : Fits b) (below : b ≤ q) :
    ofRat q = .infinite false ∨ ∃ r, b ≤ r ∧ ofRat q = .finite r := by
  obtain ⟨k, f, bits, place, rfl, -⟩ := fits
  have least : (0 : Rat) ≤ k * 2 ^ f := by positivity
  rcases (least.trans below).eq_or_lt with rfl | positive
  · exact .inr ⟨0, below, rfl⟩
  · obtain ⟨num_pos, quotient⟩ := num_div_den_of_pos positive
    rcases ofRat_of_pos positive with ⟨same, -⟩ | ⟨infinite, -⟩ | ⟨same, -⟩
    · exact .inr ⟨q, below, same⟩
    · exact .inl infinite
    · have kept := number_le_magnitude num_pos q.den_pos bits place (below.trans_eq quotient.symm)
      exact .inr ⟨_, kept, same⟩

/-- Rounding what is not negative does not lead above a number. -/
theorem ofRat_le (fits : Fits b) (least : 0 ≤ q) (above : q ≤ b) :
    ∃ r, 0 ≤ r ∧ r ≤ b ∧ ofRat q = .finite r := by
  obtain ⟨k, f, bits, place, rfl, bounded⟩ := fits
  rcases least.eq_or_lt with rfl | positive
  · exact ⟨0, le_rfl, above, rfl⟩
  · obtain ⟨num_pos, quotient⟩ := num_div_den_of_pos positive
    have kept := magnitude_le_number num_pos q.den_pos bits place (quotient.trans_le above)
    rcases ofRat_of_pos positive with ⟨same, -⟩ | ⟨-, large⟩ | ⟨same, -⟩
    · exact ⟨q, least, above, same⟩
    · exact absurd (large.trans kept) (not_le_of_gt bounded)
    · exact ⟨_, magnitude_nonneg _ _, kept, same⟩

/-- A number is rounded to itself. -/
theorem ofRat_of_fits (fits : Fits b) : ofRat b = .finite b := by
  have least : 0 ≤ b := by
    obtain ⟨k, f, -, -, rfl, -⟩ := fits
    positivity
  obtain ⟨r, -, most, same⟩ := ofRat_le fits least le_rfl
  rcases le_ofRat fits le_rfl with infinite | ⟨r', least', same'⟩
  · rw [infinite] at same
    cases same
  · obtain rfl := Number.finite.inj (same.symm.trans same')
    rw [same, le_antisymm most least']

/-! ## Bounds -/

theorem finite_le_iff {a b : Rat} : (Number.finite a).le (.finite b) = true ↔ a ≤ b := by
  show (!decide (b < a)) = true ↔ a ≤ b
  rw [Bool.not_eq_true', decide_eq_false_iff_not, not_lt]

/-- A sum fits, unless it is negative. -/
theorem fits_of_add_eq {x y : Number} (sum : x + y = .finite b) (least : 0 ≤ b) : Fits b := by
  cases x <;> cases y <;> first
    | exact fits_of_ofRat_eq sum least
    | cases sum
    | (rename_i s t; cases s <;> cases t <;> cases sum)

/-- Cutting at zero may as well be done before rounding. -/
theorem max_zero_ofRat (q : Rat) : Number.max 0 (ofRat q) = ofRat (Max.max 0 q) := by
  rw [zero_eq_finite]
  rcases lt_or_ge q 0 with negative | least
  · rw [max_eq_left negative.le]
    rcases ofRat_of_neg negative with infinite | ⟨r, most, same⟩
    · rw [infinite]
      rfl
    · rw [same]
      rcases most.lt_or_eq with below | rfl
      · exact if_pos (decide_eq_true below)
      · rfl
  · rw [max_eq_right least]
    rcases le_ofRat fits_zero least with infinite | ⟨r, least', same⟩
    · rw [infinite]
      rfl
    · rw [same]
      exact if_neg (by simpa [lt] using least')

/-- So may cutting at a number. -/
theorem min_ofRat (fits : Fits b) (least : 0 ≤ q) :
    Number.min (.finite b) (ofRat q) = ofRat (Min.min b q) := by
  rcases le_total q b with below | above
  · rw [min_eq_right below]
    obtain ⟨r, -, most, same⟩ := ofRat_le fits least below
    rw [same]
    exact if_neg (by simpa [lt] using most)
  · rw [min_eq_left above, ofRat_of_fits fits]
    rcases le_ofRat fits above with infinite | ⟨r, least', same⟩
    · rw [infinite]
      rfl
    · rw [same]
      rcases least'.lt_or_eq with less | rfl
      · exact if_pos (decide_eq_true less)
      · exact if_neg (by simp [lt])

theorem min_infinite (x : Number) : Number.min (.infinite false) x = x := by
  cases x <;> rfl

end VoiceControl.Number
