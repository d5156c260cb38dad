import BundleLedger.Proofs.Rounding
import BundleLedger.Store.Fixed

/-!
# Amounts that are stored and read back

An amount is read with six decimal places from the nearest binary number. An amount that was read before is
read back with the same value once it is stored again (`Fixed.storedValue?_toDecimal`), and so is every amount
with six places whose size is below `2 ^ 33` (`Fixed.storedValue?_of_lt`); larger ones may change in their
last places.
-/

set_option autoImplicit false

namespace BundleLedger

/-- The value of a finite numeral. -/
def Decimal.value? : Decimal → Option ℚ
  | .finite negative coefficient exponent =>
    some ((if negative then -1 else 1) * (coefficient * 10 ^ exponent))
  | .infinite _ | .notANumber .. => none

namespace Fixed

open Double (size ratio roundRatio nearest)

/-! ### Units of the last place -/

section Units

variable {places mantissa : ℕ} {exponent : ℤ}

theorem units_ratio (places mantissa : ℕ) (exponent : ℤ) :
    (((ratio mantissa exponent).1 * Nat.pow 10 places : ℕ) : ℚ) / (ratio mantissa exponent).2 =
      size mantissa exponent * 10 ^ places := by
  rw [← Double.ratio_eq_size]
  simp only [Nat.pow_eq]
  push_cast
  ring

theorem unitsOf_eq_roundRatio (places mantissa : ℕ) (exponent : ℤ) :
    unitsOf places mantissa exponent =
      roundRatio ((ratio mantissa exponent).1 * Nat.pow 10 places) (ratio mantissa exponent).2 := rfl

theorem abs_div_sub_eq (c : ℕ) (x : ℚ) :
    |(c : ℚ) / 10 ^ places - x| = |(c : ℚ) - x * 10 ^ places| / 10 ^ places := by
  have hpos : (0 : ℚ) < 10 ^ places := by positivity
  rw [eq_div_iff hpos.ne', ← abs_of_pos hpos, ← abs_mul, abs_of_pos hpos, sub_mul, div_mul_cancel₀ _ hpos.ne']

theorem unitsOf_spec (places mantissa : ℕ) (exponent : ℤ) :
    |(unitsOf places mantissa exponent : ℚ) / 10 ^ places - size mantissa exponent| <
        1 / 2 / 10 ^ places ∨
      |(unitsOf places mantissa exponent : ℚ) / 10 ^ places - size mantissa exponent| =
        1 / 2 / 10 ^ places ∧ Even (unitsOf places mantissa exponent) := by
  have h := Double.roundRatio_spec (n := (ratio mantissa exponent).1 * Nat.pow 10 places)
    (Double.ratio_snd_pos mantissa exponent)
  rw [units_ratio] at h
  have hpos : (0 : ℚ) < 10 ^ places := by positivity
  rw [abs_div_sub_eq, div_lt_div_iff_of_pos_right hpos, div_left_inj' hpos.ne']
  exact h

/-- The units of a number that is at most half a unit from a number of units, a tie being even. -/
theorem unitsOf_eq {c : ℕ} (h : |(c : ℚ) / 10 ^ places - size mantissa exponent| ≤ 1 / 2 / 10 ^ places)
    (heven : |(c : ℚ) / 10 ^ places - size mantissa exponent| = 1 / 2 / 10 ^ places → Even c) :
    unitsOf places mantissa exponent = c := by
  have hpos : (0 : ℚ) < 10 ^ places := by positivity
  rw [abs_div_sub_eq, div_le_div_iff_of_pos_right hpos] at h
  rw [abs_div_sub_eq, div_left_inj' hpos.ne'] at heven
  rw [unitsOf_eq_roundRatio]
  refine Double.roundRatio_eq (Double.ratio_snd_pos mantissa exponent) ?_ ?_
  · rw [units_ratio]
    exact h
  · rw [units_ratio]
    exact heven

theorem unitsOf_zero (places : ℕ) (exponent : ℤ) : unitsOf places 0 exponent = 0 := by
  refine unitsOf_eq ?_ fun _ ↦ Even.zero
  rw [size, Nat.cast_zero, zero_mul, zero_div, sub_zero, abs_zero]
  positivity

end Units

/-! ### Stored amounts -/

/-- The largest finite number of the format. -/
def largest : ℚ := size (Double.mantissaBound - 1) Double.maxExponent

theorem largest_lt : largest < 10 ^ 400 := by
  calc largest < 2 ^ 53 * 2 ^ 971 := by
        unfold largest size
        refine mul_lt_mul_of_pos_right ?_ (by positivity)
        norm_num [Double.mantissaBound]
    _ = 2 ^ 1024 := (pow_add 2 53 971).symm
    _ ≤ 2 ^ (3 * 400) := pow_le_pow_right₀ one_le_two (by decide)
    _ = 8 ^ 400 := by rw [pow_mul, show (2 : ℚ) ^ 3 = 8 by norm_num]
    _ ≤ 10 ^ 400 := pow_le_pow_left₀ (by norm_num) (by norm_num) 400

theorem two_pow_le_largest : 2 ^ 53 ≤ largest := by
  have hpow : (2 : ℚ) ^ 1 ≤ 2 ^ 971 := pow_le_pow_right₀ one_le_two (by decide)
  calc (2 : ℚ) ^ 53 ≤ (2 ^ 53 - 1) * 2 ^ 1 := by norm_num
    _ ≤ (2 ^ 53 - 1) * 2 ^ 971 := mul_le_mul_of_nonneg_left hpow (by norm_num)
    _ = largest := by
        unfold largest size
        rw [show ((Double.mantissaBound - 1 : ℕ) : ℚ) = 2 ^ 53 - 1 by norm_num [Double.mantissaBound]]
        rfl

theorem ofNumeral_eq_nearest {c : ℕ} (hc : c ≠ 0) (h : (c : ℚ) / 10 ^ 6 ≤ largest) (negative : Bool) :
    Double.ofNumeral negative c (-6) = nearest negative c (10 ^ 6) := by
  have hdigits : Decimal.digitCount c ≤ 406 := by
    refine (Nat.length_toDigits_le_iff (by decide) (by decide)).2 ?_
    have hlt : (c : ℚ) < 10 ^ 400 * 10 ^ 6 := (div_lt_iff₀ (by positivity)).1 (h.trans_lt largest_lt)
    have hcast : (c : ℚ) < (10 : ℚ) ^ 406 := hlt.trans_eq (pow_add 10 400 6).symm
    exact_mod_cast hcast
  unfold Double.ofNumeral Decimal.adjusted
  rw [if_neg hc, if_neg (by omega), if_neg (by omega), if_neg (by decide)]
  rfl

/-- An amount with six places is read back with the same digits when a number of the format is at most half a
unit away, a tie being even. -/
theorem toDecimal_stored {c : ℕ} (hc : c ≠ 0) (hlarge : (c : ℚ) / 10 ^ 6 ≤ largest) {m : ℕ} {e : ℤ}
    (hm : (Double.finite false m e).InRange) (hclose : |size m e - c / 10 ^ 6| ≤ 1 / 2 / 10 ^ 6)
    (heven : |size m e - c / 10 ^ 6| = 1 / 2 / 10 ^ 6 → Even c) (negative : Bool) :
    (ofDecimal? (.finite negative c (-6)) : Option Amount).map toDecimal =
      some (.finite negative c (-6)) := by
  obtain ⟨mantissa, exponent, hnearest⟩ :=
    Double.exists_nearest_eq (n := c) (d := 10 ^ 6) (by decide) negative (by exact_mod_cast hlarge)
  have hbest := Double.abs_size_nearest_sub_le (by decide) hnearest hm
  push_cast at hbest
  rw [abs_sub_comm] at hbest
  have hunits : unitsOf 6 mantissa exponent = c := by
    refine unitsOf_eq (hbest.trans hclose) fun htie ↦ heven (le_antisymm hclose ?_)
    rw [← htie]
    exact hbest
  have hmantissa : mantissa ≠ 0 := by
    rintro rfl
    exact hc (hunits.symm.trans (unitsOf_zero 6 exponent))
  have hstored : unsignedZero (Double.ofNumeral negative c (-6)) = .finite negative mantissa exponent := by
    rw [ofNumeral_eq_nearest hc hlarge, hnearest]
    unfold unsignedZero
    split
    · simp_all
    · rfl
  unfold ofDecimal?
  rw [Option.map_some, Option.some.injEq]
  unfold toDecimal
  simp only [hstored, hunits]
  rfl

/-- The value of an amount as it is read back. -/
def storedValue? (d : Decimal) : Option ℚ :=
  ((ofDecimal? d : Option Amount).map toDecimal).bind Decimal.value?

theorem storedValue?_zero (negative : Bool) (exponent : ℤ) :
    storedValue? (.finite negative 0 exponent) = some 0 := by
  unfold storedValue?
  rw [ofDecimal?_zero, Option.map_some, toDecimal_finite, unitsOf_zero]
  simp [Decimal.value?]

theorem value?_zero (negative : Bool) (exponent : ℤ) :
    (Decimal.finite negative 0 exponent).value? = some 0 := by
  simp [Decimal.value?]

/-- The units of a finite number are no larger than the largest number of the format. -/
theorem unitsOf_le_largest {m : ℕ} {e : ℤ} (hm : (Double.finite false m e).InRange) :
    (unitsOf 6 m e : ℚ) / 10 ^ 6 ≤ largest := by
  obtain ⟨hbound, -, hmax⟩ := hm
  have hclose : |(unitsOf 6 m e : ℚ) / 10 ^ 6 - size m e| ≤ 1 / 2 / 10 ^ 6 := by
    rcases unitsOf_spec 6 m e with h | h
    · exact h.le
    · exact h.1.le
  have hmantissa : (m : ℚ) ≤ (Double.mantissaBound - 1 : ℕ) := by
    exact_mod_cast Nat.le_sub_one_of_lt hbound
  rcases le_or_gt 0 e with hwhole | hfraction
  · -- A whole number has its exact units.
    obtain ⟨k, rfl⟩ := Int.eq_ofNat_of_zero_le hwhole
    have hsize : ((m * 2 ^ k * 10 ^ 6 : ℕ) : ℚ) / 10 ^ 6 = size m k := by
      rw [Nat.cast_mul, show ((10 ^ 6 : ℕ) : ℚ) = 10 ^ 6 by norm_num,
        mul_div_cancel_right₀ _ (by norm_num), size, zpow_natCast]
      norm_cast
    have hunits : unitsOf 6 m k = m * 2 ^ k * 10 ^ 6 := by
      refine unitsOf_eq ?_ fun htie ↦ ?_
      · rw [hsize, sub_self, abs_zero]
        norm_num
      · rw [hsize, sub_self, abs_zero] at htie
        norm_num at htie
    calc (unitsOf 6 m k : ℚ) / 10 ^ 6 = m * 2 ^ (k : ℤ) := by rw [hunits, hsize, size]
      _ ≤ (Double.mantissaBound - 1 : ℕ) * 2 ^ Double.maxExponent := by
          gcongr
          exact one_le_two
  · have hsize : size m e ≤ (Double.mantissaBound - 1 : ℕ) * 1 := by
      unfold size
      refine mul_le_mul hmantissa ?_ (by positivity) (by positivity)
      exact zpow_le_one_of_nonpos₀ one_le_two hfraction.le
    have hroom : ((Double.mantissaBound - 1 : ℕ) : ℚ) * 1 + 1 ≤ largest := by
      refine le_of_eq_of_le ?_ two_pow_le_largest
      norm_num [Double.mantissaBound]
    have hsmall : (1 : ℚ) / 2 / 10 ^ 6 ≤ 1 := by norm_num
    linarith [(abs_le.1 hclose).2]

/-- An amount that was read is read back with the same value once it is stored again. -/
theorem storedValue?_toDecimal (x : Amount) (h : x.toDecimal.isFinite = true) :
    storedValue? x.toDecimal = x.toDecimal.value? := by
  obtain ⟨value, hrange⟩ := x
  cases value with
  | infinite negative => simp [toDecimal, Decimal.isFinite] at h
  | notANumber => simp [toDecimal, Decimal.isFinite] at h
  | finite negative m e =>
    rw [toDecimal_finite]
    by_cases hc : unitsOf 6 m e = 0
    · rw [hc, storedValue?_zero, value?_zero]
    · unfold storedValue?
      have hspec := unitsOf_spec 6 m e
      rw [abs_sub_comm] at hspec
      have hstored := toDecimal_stored hc (unitsOf_le_largest (m := m) (e := e) hrange) (m := m) (e := e)
        hrange ?_ ?_ negative
      · exact congrArg (Option.bind · Decimal.value?) hstored
      · rcases hspec with hlt | htie
        · exact hlt.le
        · exact htie.1.le
      · intro htie
        rcases hspec with hlt | heven
        · exact absurd htie hlt.ne
        · exact heven.2

/-- An amount with six places and a size below `2 ^ 33` is read back with the same value. -/
theorem storedValue?_of_lt {negative : Bool} {c : ℕ} (h : (c : ℚ) / 10 ^ 6 < 2 ^ 33) :
    storedValue? (.finite negative c (-6)) = (Decimal.finite negative c (-6)).value? := by
  by_cases hc : c = 0
  · subst hc
    rw [storedValue?_zero, value?_zero]
  have hlarge : (c : ℚ) / 10 ^ 6 ≤ largest := by
    refine h.le.trans (le_trans ?_ two_pow_le_largest)
    norm_num
  obtain ⟨m, e, hnearest⟩ :=
    Double.exists_nearest_eq (n := c) (d := 10 ^ 6) (by decide) false (by exact_mod_cast hlarge)
  have hrange : (Double.finite false m e).InRange := by
    rw [← hnearest]
    exact Double.inRange_nearest (by decide)
  have hclose := Double.abs_size_nearest_sub_lt (by decide) hnearest (by exact_mod_cast h)
  push_cast at hclose
  have hstored := toDecimal_stored hc hlarge hrange hclose.le (fun htie ↦ absurd htie hclose.ne) negative
  exact congrArg (Option.bind · Decimal.value?) hstored

end Fixed
end BundleLedger
