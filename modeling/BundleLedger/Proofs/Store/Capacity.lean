import BundleLedger.Proofs.Currency.Applicable
import BundleLedger.Proofs.Decimal.Rounding
import BundleLedger.Proofs.Store.Amount

/-!
# Amounts that fit their columns

A column of amounts has eighteen digits, six of them after the point, and a column of rates has eighteen digits,
ten of them after the point. A numeral that fits its column is read back from it with a coefficient of at most
`10 ^ 18` (`Fixed.fits_of_numeral`). The product of an amount and a rate that are read so is at most `10 ^ 20`, so it
can be rounded to the precision and to six places. So every such amount can be converted
(`Converter.exists_convert`).
-/

set_option autoImplicit false

namespace BundleLedger

namespace Decimal

/-- Whether a numeral has a number of decimal places and a size of at most eighteen digits. The bound itself is
allowed, since the largest numerals of eighteen digits are rounded up to it when they are stored. -/
def fits (places : ℕ) : Decimal → Bool
  | .finite _ coefficient exponent => exponent = -places && coefficient ≤ 10 ^ 18
  | .infinite _ | .notANumber .. => false

theorem fits_iff {places : ℕ} {d : Decimal} :
    d.fits places = true ↔ ∃ negative c, d = .finite negative c (-places) ∧ c ≤ 10 ^ 18 := by
  cases d with
  | finite negative c exponent => simp [fits]
  | infinite negative => simp [fits]
  | notANumber negative signaling payload => simp [fits]

theorem isFinite_of_fits {places : ℕ} {d : Decimal} (h : d.fits places = true) : d.isFinite = true := by
  obtain ⟨negative, c, rfl, -⟩ := fits_iff.1 h
  rfl

end Decimal

/-! ### Numerals that are stored -/

namespace Fixed

open Double (size nearest)

variable {places c : ℕ}

theorem ten_pow_le_largest : 10 ^ 18 ≤ largest := by
  have hpow : (2 : ℚ) ^ 8 ≤ 2 ^ 971 := pow_le_pow_right₀ one_le_two (by decide)
  calc (10 : ℚ) ^ 18 ≤ (2 ^ 53 - 1) * 2 ^ 8 := by norm_num
    _ ≤ (2 ^ 53 - 1) * 2 ^ 971 := mul_le_mul_of_nonneg_left hpow (by norm_num)
    _ = largest := by
        unfold largest size
        rw [show ((Double.mantissaBound - 1 : ℕ) : ℚ) = 2 ^ 53 - 1 by norm_num [Double.mantissaBound]]
        rfl

/-- The largest size of a column is a number of the format, so no smaller size is rounded above it. -/
theorem size_nearest_le (hplaces : 3 ≤ places) (hplaces' : places ≤ 18) (hc : c < 10 ^ 18) {negative : Bool}
    {m : ℕ} {e : ℤ} (h : nearest negative c (10 ^ places) = .finite negative m e) :
    size m e * 10 ^ places ≤ 10 ^ 18 := by
  have hsplit : (10 : ℚ) ^ (18 - places) * 10 ^ places = 10 ^ 18 := by
    rw [← pow_add, Nat.sub_add_cancel hplaces']
  have hpos : (0 : ℚ) < 10 ^ places := by positivity
  have hbound : (Double.finite false (10 ^ (18 - places)) 0).InRange := by
    refine ⟨?_, by decide, by decide⟩
    calc 10 ^ (18 - places) ≤ 10 ^ 15 := Nat.pow_le_pow_right (by decide) (by omega)
      _ < Double.mantissaBound := by decide
  have hbest := Double.abs_size_nearest_sub_le (Nat.pow_pos (by decide)) h hbound
  have hsize : size (10 ^ (18 - places)) 0 = 10 ^ (18 - places) := by simp [size]
  have hle : (c : ℚ) / 10 ^ places ≤ 10 ^ (18 - places) := by
    rw [div_le_iff₀ hpos, hsplit]
    exact_mod_cast hc.le
  rw [hsize] at hbest
  push_cast at hbest
  rw [abs_of_nonneg (sub_nonneg.2 hle)] at hbest
  rw [← hsplit]
  exact mul_le_mul_of_nonneg_right (by linarith [(abs_le.1 hbest).2]) hpos.le

/-- The units of a size within a column are at most `10 ^ 18`. -/
theorem unitsOf_le {m : ℕ} {e : ℤ} (h : size m e * 10 ^ places ≤ 10 ^ 18) : unitsOf places m e ≤ 10 ^ 18 := by
  have hclose : |(unitsOf places m e : ℚ) - size m e * 10 ^ places| ≤ 1 / 2 := by
    have hpos : (0 : ℚ) < 10 ^ places := by positivity
    have hspec : |(unitsOf places m e : ℚ) / 10 ^ places - size m e| ≤ 1 / 2 / 10 ^ places := by
      rcases unitsOf_spec places m e with h | h
      · exact h.le
      · exact h.1.le
    rwa [abs_div_sub_eq, div_le_div_iff_of_pos_right hpos] at hspec
  have hlt : (unitsOf places m e : ℚ) < (10 ^ 18 + 1 : ℕ) := by
    push_cast
    linarith [(abs_le.1 hclose).2]
  exact Nat.le_of_lt_succ (by exact_mod_cast hlt)

theorem exists_unsignedZero_eq (negative : Bool) {m : ℕ} {e : ℤ} (h : size m e * 10 ^ places ≤ 10 ^ 18) :
    ∃ negative' m' e', unsignedZero (.finite negative m e) = .finite negative' m' e' ∧
      size m' e' * 10 ^ places ≤ 10 ^ 18 := by
  unfold unsignedZero
  split
  · exact ⟨_, _, _, rfl, by simp [size]⟩
  · exact ⟨_, _, _, rfl, h⟩

/-- A numeral of eighteen digits with the places of its column is stored as a number of such a size. -/
theorem exists_ofNumeral_eq (hplaces : 3 ≤ places) (hplaces' : places ≤ 18) (hc : c < 10 ^ 18) (negative : Bool) :
    ∃ negative' m e, Double.ofNumeral negative c (-places) = .finite negative' m e ∧
      size m e * 10 ^ places ≤ 10 ^ 18 := by
  have hdigits : Decimal.digitCount c ≤ 18 := (Decimal.digitCount_le_iff (by decide)).2 hc
  unfold Double.ofNumeral Decimal.adjusted
  by_cases hzero : c = 0
  · exact ⟨_, _, _, if_pos hzero, by simp [size]⟩
  · rw [if_neg hzero, if_neg (by omega), if_neg (by omega), if_neg (by omega), Int.natAbs_neg, Int.natAbs_natCast,
      Nat.pow_eq]
    have hlarge : (c : ℚ) / (10 ^ places : ℕ) ≤ largest := by
      refine (div_le_self (by positivity) (by exact_mod_cast Nat.one_le_pow _ _ (by decide))).trans ?_
      exact (by exact_mod_cast hc.le : (c : ℚ) ≤ 10 ^ 18).trans ten_pow_le_largest
    obtain ⟨m, e, hnearest⟩ := Double.exists_nearest_eq (Nat.pow_pos (by decide)) negative hlarge
    exact ⟨_, _, _, hnearest, size_nearest_le hplaces hplaces' hc hnearest⟩

/-- A numeral of eighteen digits with the places of its column is read back from it with a coefficient of at most
`10 ^ 18`. -/
theorem fits_of_numeral (hplaces : 3 ≤ places) (hplaces' : places ≤ 18) (hc : c < 10 ^ 18) (negative : Bool) :
    ∃ x : Fixed places, ofDecimal? (.finite negative c (-places)) = some x ∧ x.toDecimal.fits places = true := by
  obtain ⟨negative', m, e, hnumeral, hsize⟩ := exists_ofNumeral_eq hplaces hplaces' hc negative
  obtain ⟨negative'', m', e', hstored, hsize'⟩ := exists_unsignedZero_eq negative' hsize
  refine ⟨_, rfl, Decimal.fits_iff.2 ⟨negative'', unitsOf places m' e', ?_, unitsOf_le hsize'⟩⟩
  unfold toDecimal
  simp only [hnumeral, hstored]

end Fixed

/-! ### Conversion -/

namespace Converter

/-- An amount can be converted at a rate when both fit their columns. -/
theorem exists_atRate {amount : Decimal} {r : Rate} (hamount : amount.fits 6 = true)
    (hrate : r.rate.fits 10 = true) : ∃ value, atRate amount r = .ok value ∧ value.isFinite = true := by
  obtain ⟨negative, c, rfl, hc⟩ := Decimal.fits_iff.1 hamount
  obtain ⟨negative', c', hrate, hc'⟩ := Decimal.fits_iff.1 hrate
  have hunit : (0 : ℚ) < 10 ^ (-6 + -10 : ℤ) := by positivity
  have hlarge : ((c * c' : ℕ) : ℚ) * 10 ^ (-6 + -10 : ℤ) < 10 ^ (21 : ℤ) := by
    have hproduct : ((c * c' : ℕ) : ℚ) ≤ (10 ^ 18 * 10 ^ 18 : ℕ) := by exact_mod_cast Nat.mul_le_mul hc hc'
    refine (mul_le_mul_of_nonneg_right hproduct hunit.le).trans_lt ?_
    norm_num
  have hsmall : c * c' ≠ 0 → (10 : ℚ) ^ (-999999 : ℤ) ≤ (c * c' : ℕ) * 10 ^ (-6 + -10 : ℤ) := by
    intro hzero
    have hone : (1 : ℚ) ≤ (c * c' : ℕ) := by exact_mod_cast Nat.one_le_iff_ne_zero.2 hzero
    calc (10 : ℚ) ^ (-999999 : ℤ) ≤ 10 ^ (-6 + -10 : ℤ) := zpow_le_zpow_right₀ (by norm_num) (by decide)
      _ ≤ (c * c' : ℕ) * 10 ^ (-6 + -10 : ℤ) := le_mul_of_one_le_left hunit.le hone
  obtain ⟨units, hunits, -⟩ := Decimal.exists_rounded (negative != negative') hlarge hsmall
  refine ⟨.finite (negative != negative') units (-6), ?_, rfl⟩
  rw [atRate, hrate]
  exact hunits

/-- An amount can be converted when it fits its column and all rates fit theirs, and the value is a number. -/
theorem exists_convert {c : Converter} (hrates : ∀ r ∈ c.rates, r.rate.fits 10 = true) {amount : Option Decimal}
    (hamount : ∀ x ∈ amount, x.fits 6 = true) (currency : Option String) (day : Option Date) :
    ∃ value, c.convert amount currency day = .ok value ∧ ∀ x ∈ value, x.isFinite = true := by
  cases amount with
  | none => exact ⟨none, c.convert_none_amount currency day, by simp⟩
  | some x =>
  cases currency with
  | none => exact ⟨none, c.convert_none_currency (some x) day, by simp⟩
  | some code =>
  have hx := hamount x rfl
  by_cases hcode : Text.upper code = c.reference
  · exact ⟨some x, convert_reference hcode day, fun y hy ↦ Option.some.inj hy ▸ Decimal.isFinite_of_fits hx⟩
  cases day with
  | none => exact ⟨none, convert_undated hcode, by simp⟩
  | some d =>
  cases hr : c.rateOn (Text.upper code) d with
  | none => exact ⟨none, convert_unrated hcode (rateOn_eq_none_iff.1 hr), by simp⟩
  | some r =>
    have happlies := rateOn_eq_some_iff.1 hr
    obtain ⟨value, hvalue, hfinite⟩ := exists_atRate hx (hrates r happlies.mem)
    refine ⟨some value, ?_, fun y hy ↦ Option.some.inj hy ▸ hfinite⟩
    rw [convert_rated hcode happlies, hvalue]
    rfl

end Converter
end BundleLedger
