import BundleLedger.Proofs.Currency.Applicable
import BundleLedger.Proofs.Decimal.Rounding
import BundleLedger.Proofs.Store.Amount

/-!
# How exact a converted amount is

The product of an amount of a column and a rate of a column has up to 36 digits, so it may be rounded twice: to the
precision of 28 digits and to six places. The size of the product bounds the first error, half a unit of the eighth
place at most, and the second one is half a unit of the sixth. A product that has no more significant digits than
the precision is only rounded once, so that ties are settled by the product itself (`convert_accurate`).
-/

set_option autoImplicit false

namespace BundleLedger

namespace Decimal

/-- A number that can be written with a number of digits after the point. -/
def HasPlaces (places : ℕ) (x : ℚ) : Prop :=
  ∃ k : ℤ, x = k / 10 ^ places

/-- A number that can be written with a number of significant digits. -/
def HasDigits (digits : ℕ) (x : ℚ) : Prop :=
  ∃ m k : ℤ, |m| < 10 ^ digits ∧ x = m * 10 ^ k

/-- The nearest number with some digits after the point; of two nearest ones, the one with the even last digit. -/
def IsRounded (places : ℕ) (x v : ℚ) : Prop :=
  ∃ k : ℤ, v = k / 10 ^ places ∧ IsHalfEven k (x * 10 ^ places)

/-! ### Signs -/

/-- The factor of a sign. -/
def sign (negative : Bool) : ℚ :=
  if negative then -1 else 1

theorem value?_finite (negative : Bool) (c : ℕ) (e : ℤ) :
    value? (.finite negative c e) = some (sign negative * (c * 10 ^ e)) := rfl

theorem abs_sign (negative : Bool) : |sign negative| = 1 := by
  cases negative <;> simp [sign]

theorem sign_bne (a b : Bool) : sign (a != b) = sign a * sign b := by
  cases a <;> cases b <;> simp [sign]

theorem abs_sign_mul (negative : Bool) (x : ℚ) : |sign negative * x| = |x| := by
  rw [abs_mul, abs_sign, one_mul]

/-- Rounding does not depend on the sign. -/
theorem isRounded_sign_mul {places : ℕ} {x : ℚ} {units : ℕ} (negative : Bool) (h : IsHalfEven units (x * 10 ^ places)) :
    IsRounded places (sign negative * x) (sign negative * (units / 10 ^ places)) := by
  cases negative with
  | false => exact ⟨units, by simp [sign], by simpa [sign] using h⟩
  | true => exact ⟨-units, by simp [sign, neg_div], by simpa [sign] using h.neg⟩

theorem exists_value?_eq {d : Decimal} {x : ℚ} (h : d.value? = some x) :
    ∃ negative c e, d = .finite negative c e ∧ x = sign negative * (c * 10 ^ e) := by
  cases d with
  | finite negative c e => exact ⟨negative, c, e, rfl, (Option.some.inj h).symm⟩
  | infinite negative => simp [value?] at h
  | notANumber negative signaling payload => simp [value?] at h

/-- The product of two numerals is settled from the product of their values. -/
theorem exists_product {a b : Decimal} {x y : ℚ} (ha : a.value? = some x) (hb : b.value? = some y) :
    ∃ negative c e, a.multiply b = settle negative c e ∧ x * y = sign negative * (c * 10 ^ e) := by
  obtain ⟨na, ca, ea, rfl, rfl⟩ := exists_value?_eq ha
  obtain ⟨nb, cb, eb, rfl, rfl⟩ := exists_value?_eq hb
  refine ⟨na != nb, ca * cb, ea + eb, multiply_finite .., ?_⟩
  rw [sign_bne, zpow_add₀ (by norm_num)]
  push_cast
  ring

/-- A number with some digits after the point that is not zero is at least a unit of the last one. -/
theorem HasPlaces.le_abs {places : ℕ} {x : ℚ} (h : HasPlaces places x) (hx : x ≠ 0) : 1 / 10 ^ places ≤ |x| := by
  obtain ⟨k, rfl⟩ := h
  have hk : k ≠ 0 := by
    rintro rfl
    simp at hx
  rw [abs_div, abs_of_pos (show (0 : ℚ) < 10 ^ places by positivity)]
  gcongr
  exact_mod_cast Int.one_le_abs hk

/-- A size with no more significant digits than the precision is not rounded. -/
theorem settled_eq_of_hasDigits {c : ℕ} {e : ℤ} {x : ℚ} (h : HasDigits 28 x) (habs : |x| = c * 10 ^ e) :
    settled c e = c * 10 ^ e := by
  obtain ⟨m, k, hm, rfl⟩ := h
  refine settled_eq_of_digits (m := m.natAbs) (k := k) ?_ ?_
  · rw [Int.abs_eq_natAbs] at hm
    exact_mod_cast hm
  · rw [← habs, abs_mul, abs_of_pos (show (0 : ℚ) < 10 ^ k by positivity), ← Int.cast_abs, Int.abs_eq_natAbs,
      Int.cast_natCast]

/-- The errors of both roundings, for a size that is bounded by a power of ten. -/
theorem abs_rounded_sub_le {c units : ℕ} {e top : ℤ} (hsize : (c : ℚ) * 10 ^ e < 10 ^ top)
    (hround : IsHalfEven units (settled c e * 10 ^ 6)) :
    |(units : ℚ) / 10 ^ 6 - c * 10 ^ e| ≤ 1 / 2 / 10 ^ 6 + 1 / 2 * 10 ^ (top - 28) := by
  have hsecond := hround.abs_sub_le
  rw [Int.cast_natCast, ← div_le_div_iff_of_pos_right (show (0 : ℚ) < 10 ^ 6 by norm_num),
    ← Fixed.abs_div_sub_eq] at hsecond
  calc |(units : ℚ) / 10 ^ 6 - c * 10 ^ e|
      ≤ |(units : ℚ) / 10 ^ 6 - settled c e| + |settled c e - c * 10 ^ e| := abs_sub_le _ _ _
    _ ≤ 1 / 2 / 10 ^ 6 + 1 / 2 * 10 ^ (top - 28) := add_le_add hsecond (abs_settled_sub_le hsize)

end Decimal

namespace Converter

open Decimal

section Product

variable {x y : ℚ}

/-- The size of a product of column values. -/
theorem abs_product_lt (hx : |x| < 10 ^ 12) (hy : |y| < 10 ^ 8) : |x * y| < 10 ^ (20 : ℤ) := by
  calc |x * y| = |x| * |y| := abs_mul x y
    _ < 10 ^ 12 * 10 ^ 8 := mul_lt_mul'' hx hy (abs_nonneg x) (abs_nonneg y)
    _ = 10 ^ (20 : ℤ) := by norm_num

/-- A product of column values that is not zero has a size far above the smallest one that can be written. -/
theorem le_abs_product (hx : HasPlaces 6 x) (hy : HasPlaces 10 y) (h : x * y ≠ 0) :
    (10 : ℚ) ^ (-999999 : ℤ) ≤ |x * y| := by
  calc (10 : ℚ) ^ (-999999 : ℤ) ≤ 10 ^ (-16 : ℤ) := zpow_le_zpow_right₀ (by norm_num) (by decide)
    _ = 1 / 10 ^ 6 * (1 / 10 ^ 10) := by norm_num
    _ ≤ |x| * |y| := mul_le_mul (hx.le_abs (left_ne_zero_of_mul h)) (hy.le_abs (right_ne_zero_of_mul h))
        (by positivity) (abs_nonneg x)
    _ = |x * y| := (abs_mul x y).symm

end Product

/-- An amount at a rate, both of the sizes of their columns. -/
theorem atRate_accurate {amount : Decimal} {r : Rate} {x y : ℚ}
    (hx : amount.value? = some x) (hxsize : |x| < 10 ^ 12) (hxplaces : HasPlaces 6 x)
    (hy : r.rate.value? = some y) (hysize : |y| < 10 ^ 8) (hyplaces : HasPlaces 10 y) :
    ∃ negative units v, atRate amount r = .ok (.finite negative units (-6)) ∧
      value? (.finite negative units (-6)) = some v ∧ |v - x * y| ≤ 1 / 2 / 10 ^ 6 + 1 / 2 / 10 ^ 8 ∧
      (HasDigits 28 (x * y) → IsRounded 6 (x * y) v) := by
  obtain ⟨negative, c, e, hmultiply, hproduct⟩ := exists_product hx hy
  obtain ⟨size, hsize⟩ : ∃ size : ℚ, (c : ℚ) * 10 ^ e = size := ⟨_, rfl⟩
  rw [hsize] at hproduct
  have habs : |x * y| = size := by
    rw [hproduct, abs_sign_mul, ← hsize]
    exact abs_of_nonneg (by positivity)
  have hlt : size < 10 ^ (20 : ℤ) := habs ▸ abs_product_lt hxsize hysize
  have hmin : c ≠ 0 → (10 : ℚ) ^ (-999999 : ℤ) ≤ size := by
    intro hc
    have hpos : 0 < size := by
      rw [← hsize]
      positivity
    rw [← habs] at hpos ⊢
    exact le_abs_product hxplaces hyplaces (abs_pos.1 hpos)
  subst hsize
  obtain ⟨units, hunits, hround⟩ := exists_rounded negative
    (hlt.trans_le (zpow_le_zpow_right₀ (by norm_num) (by decide))) hmin
  have hv : value? (.finite negative units (-6)) = some (sign negative * (units / 10 ^ 6)) := by
    rw [value?_finite, zpow_neg, ← div_eq_mul_inv]
    rfl
  refine ⟨negative, units, _, ?_, hv, ?_, ?_⟩
  · rw [atRate, hmultiply]
    exact hunits
  · rw [hproduct, ← mul_sub, abs_sign_mul]
    calc |(units : ℚ) / 10 ^ 6 - c * 10 ^ e|
        ≤ 1 / 2 / 10 ^ 6 + 1 / 2 * 10 ^ ((20 : ℤ) - 28) := abs_rounded_sub_le hlt hround
      _ = 1 / 2 / 10 ^ 6 + 1 / 2 / 10 ^ 8 := by norm_num
  · intro hdigits
    rw [settled_eq_of_hasDigits hdigits habs] at hround
    rw [hproduct]
    exact isRounded_sign_mul _ hround

/-- Every amount that its column can hold is converted by every rate that its column can hold, within the errors of
the two roundings; a product that fits the precision is rounded once. -/
theorem convert_accurate {reference code : String} {rates : List Rate} {day : Date} {amount : Decimal} {r : Rate}
    {x y : ℚ} (hcode : Text.upper code ≠ Text.upper reference) (hr : r.Applies rates code day)
    (hx : amount.value? = some x) (hxsize : |x| < 10 ^ 12) (hxplaces : HasPlaces 6 x)
    (hy : r.rate.value? = some y) (hysize : |y| < 10 ^ 8) (hyplaces : HasPlaces 10 y) :
    ∃ negative units v, (Converter.of reference rates).convert (some amount) (some code) (some day) =
        .ok (some (.finite negative units (-6))) ∧
      value? (.finite negative units (-6)) = some v ∧ |v - x * y| ≤ 1 / 2 / 10 ^ 6 + 1 / 2 / 10 ^ 8 ∧
      (HasDigits 28 (x * y) → IsRounded 6 (x * y) v) := by
  obtain ⟨negative, units, v, hvalue, hv, hclose, hrounded⟩ :=
    atRate_accurate hx hxsize hxplaces hy hysize hyplaces
  refine ⟨negative, units, v, ?_, hv, hclose, hrounded⟩
  rw [convert_rated (c := Converter.of reference rates) hcode hr, hvalue]
  rfl

/-- The largest amount at the largest rate, whose product has 36 digits. -/
theorem convert_accurate_largest : ∃ negative units v,
    (Converter.of "usd" [⟨"eur", ⟨2024, 1, 1, by decide⟩, ⟨2024, 12, 31, by decide⟩,
        .finite false 999999999999999999 (-10)⟩]).convert (some (.finite true 999999999999999999 (-6))) (some "EUR")
        (some ⟨2024, 6, 1, by decide⟩) = .ok (some (.finite negative units (-6))) ∧
      value? (.finite negative units (-6)) = some v ∧
      |v - -(999999999999999999 / 10 ^ 6) * (999999999999999999 / 10 ^ 10)| ≤ 1 / 2 / 10 ^ 6 + 1 / 2 / 10 ^ 8 ∧
      (HasDigits 28 (-(999999999999999999 / 10 ^ 6) * (999999999999999999 / 10 ^ 10)) →
        IsRounded 6 (-(999999999999999999 / 10 ^ 6) * (999999999999999999 / 10 ^ 10)) v) := by
  refine convert_accurate (by decide +kernel) (r := ⟨"eur", ⟨2024, 1, 1, by decide⟩, ⟨2024, 12, 31, by decide⟩,
    .finite false 999999999999999999 (-10)⟩) ⟨[], [], rfl, ⟨by decide +kernel, by decide, by decide⟩, by simp, by simp⟩
    ?_ ?_ ?_ ?_ ?_ ?_
  · rw [value?_finite]
    norm_num [sign]
  · norm_num
  · exact ⟨-999999999999999999, by norm_num⟩
  · rw [value?_finite]
    norm_num [sign]
  · norm_num
  · exact ⟨999999999999999999, by norm_num⟩

end Converter
end BundleLedger
