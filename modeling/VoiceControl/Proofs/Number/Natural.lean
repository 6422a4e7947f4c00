import VoiceControl.Number.Basic
import Mathlib.Data.Rat.Defs
import Mathlib.Algebra.Order.Ring.Rat
import Mathlib.Data.Nat.Cast.Order.Ring

/-!
# Natural numbers as numbers

A small natural number is itself a number, and a large one is rounded to its first 53 bits. Rounding
keeps the sign, so a positive natural number of any size is a positive number. What a large number
is rounded to is large too, so a rounded number never picks one of few entries that it did not name.
Small natural numbers are added, subtracted and compared as numbers just as they are otherwise.
-/

namespace VoiceControl

namespace Number

variable {n : Nat}

theorem twoPow_pos (e : Int) : 0 < twoPow e := by
  have power : 0 < Nat.pow 2 e.natAbs := Nat.pow_pos (by decide)
  rw [twoPow]
  split
  · rw [Rat.mkRat_eq_div]
    have positive : (0 : Rat) < (Nat.pow 2 e.natAbs : Nat) := by exact_mod_cast power
    exact div_pos (by decide) positive
  · exact_mod_cast power

/-- Rounding a quotient goes at most down to its whole part. -/
theorem div_le_roundEven (n d : Nat) : n / d ≤ roundEven n d := by
  unfold roundEven
  dsimp only
  split
  · exact Nat.le_refl _
  · split
    · exact Nat.le_succ _
    · split
      · exact Nat.le_refl _
      · exact Nat.le_succ _

theorem le_log2_of_large (large : exactLimit < n) : 53 ≤ Nat.log2 n := by
  have limit : exactLimit = 2 ^ 53 := rfl
  rw [Nat.le_log2 (by omega)]
  omega

/-- The last bit kept of a large natural number is worth at least one. -/
theorem lastPlace_of_large (large : exactLimit < n) : lastPlace n 1 = (Nat.log2 n : Int) - 52 := by
  have bits := le_log2_of_large large
  have one : Nat.log2 1 = 0 := by decide
  have guess : ((Nat.log2 n : Int) - (Nat.log2 1 : Int)) = (Nat.log2 n : Int) := by
    rw [one]
    omega
  have reached :
      (if (Nat.log2 n : Int) < 0 then decide (1 ≤ n * Nat.pow 2 (Nat.log2 n : Int).natAbs)
        else decide (1 * Nat.pow 2 (Nat.log2 n : Int).natAbs ≤ n)) = true := by
    rw [if_neg (by omega), Int.natAbs_natCast, Nat.one_mul]
    exact decide_eq_true (Nat.log2_self_le (by omega))
  rw [lastPlace, guess, if_pos reached]
  omega

theorem twoPow_natCast (p : Nat) : twoPow (p : Int) = ((2 ^ p : Nat) : Rat) := by
  rw [twoPow, if_neg (by omega), Int.natAbs_natCast]
  norm_cast

/-- A large natural number is rounded to a multiple of the worth of its last bit kept, which keeps
its first bit. -/
theorem exists_magnitude_eq (large : exactLimit < n) :
    ∃ m : Nat, (significand n 1 (lastPlace n 1) : Rat) * twoPow (lastPlace n 1) = (m : Rat) ∧
      2 ^ Nat.log2 n ≤ m := by
  have place := lastPlace_of_large large
  have bits := le_log2_of_large large
  obtain ⟨p, hp⟩ := Nat.exists_eq_add_of_le (Nat.le_trans (by decide : 52 ≤ 53) bits)
  have last : lastPlace n 1 = (p : Int) := by omega
  have kept : 2 ^ 52 ≤ significand n 1 (p : Int) := by
    rw [significand, if_neg (by omega), Nat.one_mul, Int.natAbs_natCast]
    refine Nat.le_trans ?_ (div_le_roundEven n _)
    have whole : 2 ^ 52 * 2 ^ p ≤ n := by
      rw [← Nat.pow_add, ← hp]
      exact Nat.log2_self_le (by omega)
    exact (Nat.le_div_iff_mul_le (Nat.two_pow_pos p)).2 whole
  refine ⟨significand n 1 (p : Int) * 2 ^ p, ?_, ?_⟩
  · rw [last, twoPow_natCast]
    exact (Nat.cast_mul _ _).symm
  · rw [hp, Nat.pow_add]
    exact Nat.mul_le_mul_right (2 ^ p) kept

/-- A large natural number is rounded to a large one, or to infinity. -/
theorem natCast_of_large (large : exactLimit < n) :
    (n : Number) = .infinite false ∨ ∃ m : Nat, (n : Number) = .finite m ∧ exactLimit ≤ m := by
  have sign : ¬ ((n : Rat) < 0) := not_lt_of_ge (by exact_mod_cast Nat.zero_le n)
  have outside : ¬ ((n : Rat).den = 1 ∧ (n : Rat).num.natAbs ≤ exactLimit) :=
    fun h => Nat.not_le_of_lt large h.2
  have bits : 2 ^ 53 ≤ 2 ^ Nat.log2 n :=
    Nat.pow_le_pow_right (by decide) (le_log2_of_large large)
  obtain ⟨m, magnitude, least⟩ := exists_magnitude_eq large
  show ofRat n = _ ∨ ∃ m : Nat, ofRat n = _ ∧ _
  rw [ofRat, if_neg outside]
  dsimp only
  rw [Rat.den_natCast, Rat.num_natCast, Int.natAbs_natCast, if_neg sign, magnitude]
  split
  · rw [decide_eq_false sign]
    exact .inl rfl
  · exact .inr ⟨m, rfl, Nat.le_trans bits least⟩

theorem zero_eq_finite : (0 : Number) = .finite 0 := by decide

/-- A positive natural number is a positive number, however large it is. -/
theorem zero_lt_natCast (positive : 0 < n) : Number.lt 0 (n : Number) = true := by
  rw [zero_eq_finite]
  by_cases small : n ≤ exactLimit
  · rw [natCast_eq_finite small]
    have above : (0 : Rat) < n := by exact_mod_cast positive
    exact decide_eq_true above
  · rcases natCast_of_large (Nat.lt_of_not_le small) with infinite | ⟨m, finite, least⟩
    · rw [infinite]
      rfl
    · rw [finite]
      have limit : 0 < exactLimit := by decide
      have above : (0 : Rat) < m := by exact_mod_cast Nat.lt_of_lt_of_le limit least
      exact decide_eq_true above

/-- A number is read as a natural number exactly if its exact value is that. -/
theorem toNat?_eq_some_iff {x : Number} {m : Nat} : x.toNat? = some m ↔ x = .finite m := by
  constructor
  · intro read
    cases x with
    | finite q =>
        rw [toNat?] at read
        split at read
        · rename_i whole
          obtain rfl := Option.some.inj read
          have value : ((q.num.toNat : Int) : Rat) = q := by
            rw [Int.toNat_of_nonneg whole.2]
            exact Rat.coe_int_num_of_den_eq_one whole.1
          exact congrArg finite (by exact_mod_cast value.symm)
        · cases read
    | nan => cases read
    | infinite => cases read
  · rintro rfl
    simp [toNat?]

theorem toNat?_natCast (small : n ≤ exactLimit) : (n : Number).toNat? = some n :=
  toNat?_eq_some_iff.2 (natCast_eq_finite small)

/-- A natural number is never read as a smaller one that is exact. -/
theorem toNat?_natCast_eq_some_iff {m : Nat} (small : m < exactLimit) :
    (n : Number).toNat? = some m ↔ n = m := by
  by_cases exact_ : n ≤ exactLimit
  · rw [toNat?_natCast exact_]
    exact Option.some_inj
  · have large : exactLimit < n := Nat.lt_of_not_le exact_
    refine iff_of_false (fun read => ?_) (by omega)
    rw [toNat?_eq_some_iff] at read
    rcases natCast_of_large large with h | ⟨k, h, least⟩ <;> rw [h] at read
    · cases read
    · have same : k = m := by exact_mod_cast finite.inj read
      omega

/-- Of few entries, the one that a natural number picks when they are counted from 1 is the one at
its place. -/
theorem entry?_natCast {α : Type} {l : List α} (few : l.length < exactLimit) (n : Nat) :
    (match (n : Number).toNat? with
      | some (i + 1) => l[i]?
      | _ => none) =
      match n with
      | i + 1 => l[i]?
      | 0 => none := by
  by_cases exact_ : n ≤ exactLimit
  · rw [toNat?_natCast exact_]
    cases n <;> rfl
  · -- a number that is not exact names none of the places
    obtain ⟨i, rfl⟩ : ∃ i, n = i + 1 := Nat.exists_eq_add_of_le' (by omega)
    dsimp only
    rw [List.getElem?_eq_none (by omega : l.length ≤ i)]
    cases read : ((i + 1 : Nat) : Number).toNat? with
    | none => rfl
    | some m =>
        cases m with
        | zero => rfl
        | succ j =>
            refine List.getElem?_eq_none (Nat.le_of_not_lt fun inside => ?_)
            have named := (toNat?_natCast_eq_some_iff (by omega)).1 read
            omega

/-- As many of few elements are kept as are asked for. -/
theorem cut_natCast {length : Nat} (few : length ≤ exactLimit) :
    (n : Number).cut length = Nat.min n length := by
  by_cases exact_ : n ≤ exactLimit
  · have sign : ¬ ((n : Rat) < 0) := not_lt_of_ge (by exact_mod_cast Nat.zero_le n)
    rw [natCast_eq_finite exact_, cut, if_neg sign, show ((n : Rat).floor) = (n : Int) from
      Rat.floor_intCast (n : Int), Int.toNat_natCast]
    exact Nat.min_comm _ _
  · have large : exactLimit < n := Nat.lt_of_not_le exact_
    have all : Nat.min n length = length := Nat.min_eq_right (by omega)
    rw [all]
    rcases natCast_of_large large with h | ⟨m, h, least⟩ <;> rw [h, cut]
    · rfl
    · have sign : ¬ ((m : Rat) < 0) := not_lt_of_ge (by exact_mod_cast Nat.zero_le m)
      have floor : (m : Rat).floor = (m : Int) := Rat.floor_intCast (m : Int)
      rw [if_neg sign, floor]
      exact Nat.min_eq_left (by omega)

theorem take_cut_natCast {α : Type} {l : List α} (few : l.length < exactLimit) :
    l.take ((n : Number).cut l.length) = l.take n := by
  rw [cut_natCast (Nat.le_of_lt few)]
  exact List.take_eq_take_min.symm

theorem isInteger_natCast (small : n ≤ exactLimit) : (n : Number).isInteger = true := by
  rw [natCast_eq_finite small]
  rfl

theorem lt_natCast {m : Nat} (hm : m ≤ exactLimit) (hn : n ≤ exactLimit) :
    Number.lt (m : Number) (n : Number) = decide (m < n) := by
  rw [natCast_eq_finite hm, natCast_eq_finite hn]
  show decide ((m : Rat) < n) = _
  rw [decide_eq_decide]
  exact_mod_cast Iff.rfl

/-- A natural number is not rounded below a smaller one that is exact. -/
theorem not_lt_natCast {m : Nat} (small : m ≤ exactLimit) (h : m ≤ n) :
    Number.lt (n : Number) (m : Number) = false := by
  by_cases exact_ : n ≤ exactLimit
  · rw [lt_natCast exact_ small]
    exact decide_eq_false (Nat.not_lt.2 h)
  · rw [natCast_eq_finite small]
    rcases natCast_of_large (Nat.lt_of_not_le exact_) with infinite | ⟨k, finite, least⟩
    · rw [infinite]
      rfl
    · rw [finite]
      have above : (m : Rat) ≤ k := by exact_mod_cast Nat.le_trans small least
      exact decide_eq_false (not_lt_of_ge above)

/-- An exact natural number times another one is infinite, or a multiple of it that is as large
unless the other one is beyond what is exact. -/
theorem natCast_mul {m : Nat} (small : m ≤ exactLimit) (positive : 0 < m) (n : Nat) :
    (m : Number) * (n : Number) = .infinite false ∨
      ∃ k : Nat, (m : Number) * (n : Number) = ((m * k : Nat) : Number) ∧
        Nat.min n exactLimit ≤ k := by
  have product (k : Nat) : Number.finite m * Number.finite k = ((m * k : Nat) : Number) := by
    show ofRat ((m : Rat) * k) = ofRat ((m * k : Nat) : Rat)
    rw [Nat.cast_mul]
  rw [natCast_eq_finite small]
  by_cases exact_ : n ≤ exactLimit
  · rw [natCast_eq_finite exact_]
    exact .inr ⟨n, product n, Nat.min_le_left _ _⟩
  · rcases natCast_of_large (Nat.lt_of_not_le exact_) with infinite | ⟨k, finite, least⟩
    · left
      have nonzero : ¬ (m : Rat) = 0 := by exact_mod_cast Nat.ne_of_gt positive
      have sign : ¬ (m : Rat) < 0 := not_lt_of_ge (by exact_mod_cast Nat.zero_le m)
      rw [infinite]
      show Number.mul (.finite m) (.infinite false) = _
      simp [Number.mul, isNegative, nonzero, sign]
    · rw [finite]
      exact .inr ⟨k, product k, Nat.le_trans (Nat.min_le_right _ _) least⟩

theorem natCast_min {m : Nat} (hm : m ≤ exactLimit) (hn : n ≤ exactLimit) :
    Number.min (m : Number) (n : Number) = ((Nat.min m n : Nat) : Number) := by
  rw [Number.min, lt_natCast hm hn]
  by_cases h : m < n
  · rw [decide_eq_true h, if_pos rfl, Nat.min_eq_min, Nat.min_eq_left (Nat.le_of_lt h)]
  · rw [decide_eq_false h, if_neg Bool.false_ne_true, Nat.min_eq_min,
      Nat.min_eq_right (Nat.le_of_not_lt h)]

theorem natCast_add {m : Nat} (hm : m ≤ exactLimit) (hn : n ≤ exactLimit) :
    (m : Number) + (n : Number) = ((m + n : Nat) : Number) := by
  rw [natCast_eq_finite hm, natCast_eq_finite hn]
  show ofRat ((m : Rat) + n) = ofRat ((m + n : Nat) : Rat)
  rw [Nat.cast_add]

theorem ofInt_eq_finite {n : Int} (small : n.natAbs ≤ exactLimit) : ofInt n = .finite (n : Rat) :=
  if_pos ⟨Rat.den_intCast n, by rwa [Rat.num_intCast]⟩

/-- The difference of exact natural numbers is exact. -/
theorem natCast_sub {m : Nat} (hm : m ≤ exactLimit) (hn : n ≤ exactLimit) :
    (m : Number) - (n : Number) = .finite ((m - n : Int) : Rat) := by
  have difference : (m : Rat) + -(n : Rat) = ((m - n : Int) : Rat) := by
    push_cast
    exact (sub_eq_add_neg _ _).symm
  rw [natCast_eq_finite hm, natCast_eq_finite hn]
  show ofRat ((m : Rat) + -(n : Rat)) = _
  rw [difference]
  exact ofInt_eq_finite (by omega)

theorem natCast_sub_of_le {m : Nat} (hm : m ≤ exactLimit) (h : n ≤ m) :
    (m : Number) - (n : Number) = ((m - n : Nat) : Number) := by
  have difference : (m - n : Int) = ((m - n : Nat) : Int) := by omega
  rw [natCast_sub hm (Nat.le_trans h hm), natCast_eq_finite (Nat.le_trans (Nat.sub_le m n) hm),
    difference]
  rfl

end Number

end VoiceControl
