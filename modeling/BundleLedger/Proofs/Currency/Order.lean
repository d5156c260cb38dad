import BundleLedger.Proofs.Currency.Accuracy
import BundleLedger.Proofs.Decimal.Order

/-!
# Conversions keep order and sign

A converted amount is rounded to the precision and then to its places. Whether that succeeds, and with which value,
depends on the value of the product alone (`Decimal.RoundsTo`), and both roundings keep order and sign. The rate
depends on the currency and the day, not on the amount (`Converter.convert_cases`). So no currency, day and rate of
no negative value convert a smaller amount to a larger value, and the opposite of an amount is converted to the
opposite value, refused by the same fault or left without a value (`Converter.convert_keeps_order`).
-/

set_option autoImplicit false

namespace BundleLedger

namespace Decimal

variable {places : ℕ} {x y v w : ℚ}

/-! ### Numbers at a number of places -/

theorem IsRounded.mono (hx : IsRounded places x v) (hy : IsRounded places y w) (h : x ≤ y) : v ≤ w := by
  obtain ⟨k, rfl, hk⟩ := hx
  obtain ⟨l, rfl, hl⟩ := hy
  have hkl : (k : ℚ) ≤ l := by exact_mod_cast hk.mono hl (mul_le_mul_of_nonneg_right h (by positivity))
  exact div_le_div_of_nonneg_right hkl (by positivity)

theorem IsRounded.neg (h : IsRounded places x v) : IsRounded places (-x) (-v) := by
  obtain ⟨k, rfl, hk⟩ := h
  refine ⟨-k, ?_, ?_⟩
  · rw [Int.cast_neg, neg_div]
  · rw [neg_mul]
    exact hk.neg

theorem IsRounded.unique (h : IsRounded places x v) (h' : IsRounded places x w) : v = w :=
  le_antisymm (h.mono h' le_rfl) (h'.mono h le_rfl)

theorem IsSettled.sign_mul (negative : Bool) (h : IsSettled x v) : IsSettled (sign negative * x) (sign negative * v) := by
  cases negative with
  | false => simpa only [sign, Bool.false_eq_true, if_false, one_mul] using h
  | true => simpa only [sign, if_true, neg_one_mul] using h.neg

/-! ### Both roundings -/

/-- What becomes of a number that is rounded to the precision and then to a number of places. It is too large for
every numeral, or its places take more digits than the precision has, or it is rounded twice. -/
inductive RoundsTo (places : ℕ) (x : ℚ) : Except Fault Decimal → Prop where
  | overflow {v : ℚ} (settled : IsSettled x v) (large : 10 ^ (maxAdjusted + 1) ≤ |v|) :
    RoundsTo places x (.error .overflow)
  | refused {v : ℚ} (settled : IsSettled x v) (small : |v| < 10 ^ (maxAdjusted + 1))
    (long : 10 ^ 28 ≤ |v| * 10 ^ places) : RoundsTo places x (.error .invalidOperation)
  | rounded {v w : ℚ} {d : Decimal} (settled : IsSettled x v) (small : |v| < 10 ^ (maxAdjusted + 1))
    (short : |v| * 10 ^ places < 10 ^ 28) (nearest : IsRounded places v w) (value : d.value? = some w) :
    RoundsTo places x (.ok d)

namespace RoundsTo

variable {d e : Decimal} {outcome other : Except Fault Decimal}

theorem le (hx : RoundsTo places x (.ok d)) (hy : RoundsTo places y (.ok e)) (h : x ≤ y) :
    ∃ v w, d.value? = some v ∧ e.value? = some w ∧ v ≤ w := by
  cases hx with
  | rounded hsettled _ _ hnearest hvalue =>
    cases hy with
    | rounded hsettled' _ _ hnearest' hvalue' =>
      exact ⟨_, _, hvalue, hvalue', hnearest.mono hnearest' (hsettled.mono hsettled' h)⟩

/-- A number and its opposite are both refused by one fault, or rounded to opposite values. -/
theorem opposite (h : RoundsTo places x outcome) (h' : RoundsTo places (-x) other) :
    (∃ fault, outcome = .error fault ∧ other = .error fault) ∨
      ∃ d e v, outcome = .ok d ∧ other = .ok e ∧ d.value? = some v ∧ e.value? = some (-v) := by
  -- The sizes after the first rounding are the same, and they tell the three cases apart.
  have hsize : ∀ {v w : ℚ}, IsSettled x v → IsSettled (-x) w → |w| = |v| := by
    intro v w hv hw
    rw [hw.unique hv.neg, abs_neg]
  cases h with
  | overflow hsettled hlarge =>
    cases h' with
    | overflow => exact .inl ⟨_, rfl, rfl⟩
    | refused hsettled' hsmall => exact absurd (hsize hsettled hsettled' ▸ hsmall) (not_lt.2 hlarge)
    | rounded hsettled' hsmall => exact absurd (hsize hsettled hsettled' ▸ hsmall) (not_lt.2 hlarge)
  | refused hsettled hsmall hlong =>
    cases h' with
    | overflow hsettled' hlarge => exact absurd hsmall (not_lt.2 (hsize hsettled hsettled' ▸ hlarge))
    | refused => exact .inl ⟨_, rfl, rfl⟩
    | rounded hsettled' _ hshort => exact absurd (hsize hsettled hsettled' ▸ hshort) (not_lt.2 hlong)
  | rounded hsettled hsmall hshort hnearest hvalue =>
    cases h' with
    | overflow hsettled' hlarge => exact absurd hsmall (not_lt.2 (hsize hsettled hsettled' ▸ hlarge))
    | refused hsettled' _ hlong => exact absurd hshort (not_lt.2 (hsize hsettled hsettled' ▸ hlong))
    | rounded hsettled' _ _ hnearest' hvalue' =>
      rw [hsettled'.unique hsettled.neg] at hnearest'
      rw [hnearest'.unique hnearest.neg] at hvalue'
      exact .inr ⟨_, _, _, rfl, rfl, hvalue, hvalue'⟩

end RoundsTo

/-- The product of two numerals, whatever their lengths and exponents, is rounded by its value. -/
theorem roundsTo_multiply {a b : Decimal} (ha : a.value? = some x) (hb : b.value? = some y) (places : ℕ) :
    RoundsTo places (x * y) ((a.multiply b).bind (quantize places)) := by
  obtain ⟨negative, c, e, hmultiply, hproduct⟩ := exists_product ha hb
  obtain ⟨v, hv, hsettled, hcases⟩ := exists_settled negative c e
  replace hsettled := hsettled.sign_mul negative
  have hsize : |sign negative * v| = v := by rw [abs_sign_mul, abs_of_nonneg hv]
  rw [hproduct, hmultiply]
  rcases hcases with ⟨hsmall, kept, place, hkeeps, hkept, hvalue⟩ | ⟨hlarge, hfault⟩
  · have hscaled : (kept : ℚ) * 10 ^ (place + places) = v * 10 ^ places := by
      rw [zpow_add₀ (by norm_num), zpow_natCast, ← mul_assoc, hvalue]
    rw [← hsize] at hsmall
    rw [hkeeps]
    change RoundsTo places _ (quantize places (.finite negative kept place))
    by_cases hshort : v * 10 ^ places < 10 ^ 28
    · obtain ⟨units, hunits, hround⟩ := exists_quantize places negative hkept (hscaled ▸ hshort)
      rw [hscaled] at hround
      rw [hunits]
      refine .rounded hsettled hsmall (hsize.symm ▸ hshort) (isRounded_sign_mul negative hround) ?_
      rw [value?_finite, zpow_neg, zpow_natCast, ← div_eq_mul_inv]
    · rw [not_lt, ← hscaled] at hshort
      rw [quantize_eq_error places negative hkept hshort]
      refine .refused hsettled hsmall ?_
      rw [hsize, ← hscaled]
      exact hshort
  · rw [hfault]
    exact .overflow hsettled (hsize.symm ▸ hlarge)

end Decimal

namespace Converter

open Decimal

/-! ### Conversions -/

/-- Whether a conversion uses no rate but one that is finite and not negative. -/
def HasNonnegRate (c : Converter) (currency : Option String) (day : Option Date) : Prop :=
  ∀ code ∈ currency, Text.upper code ≠ c.reference → ∀ d ∈ day, ∀ r : Rate, r.Applies c.rates code d →
    ∃ y, 0 ≤ y ∧ r.rate.value? = some y

/-- Whether two conversions are refused by the same fault, both have no value, or have opposite values. -/
structure Opposite (outcome other : Except Fault (Option Decimal)) : Prop where
  refused : ∀ fault, outcome = .error fault ↔ other = .error fault
  missing : outcome = .ok none ↔ other = .ok none
  valued : ∀ d, outcome = .ok (some d) → ∃ e v, other = .ok (some e) ∧ d.value? = some v ∧ e.value? = some (-v)

/-- The currency and the day decide for all amounts alike whether they stay as they are, have no value or are
converted at a rate. -/
theorem convert_cases (c : Converter) (currency : Option String) (day : Option Date) :
    (∀ a, c.convert (some a) currency day = .ok (some a)) ∨ (∀ a, c.convert (some a) currency day = .ok none) ∨
      ∃ code ∈ currency, Text.upper code ≠ c.reference ∧ ∃ d ∈ day, ∃ r : Rate, r.Applies c.rates code d ∧
        ∀ a, c.convert (some a) currency day = (atRate a r).map some := by
  cases currency with
  | none => exact .inr (.inl fun a ↦ convert_none_currency c _ day)
  | some code =>
  by_cases hcode : Text.upper code = c.reference
  · exact .inl fun a ↦ convert_reference hcode day
  cases day with
  | none => exact .inr (.inl fun a ↦ convert_undated hcode)
  | some d =>
  cases hrate : c.rateOn (Text.upper code) d with
  | none => exact .inr (.inl fun a ↦ convert_unrated hcode (rateOn_eq_none_iff.1 hrate))
  | some r =>
    have hr := rateOn_eq_some_iff.1 hrate
    exact .inr (.inr ⟨code, rfl, hcode, d, rfl, r, hr, fun a ↦ convert_rated hcode hr⟩)

/-- Conversions at rates that are not negative keep the order of all amounts that they give a value, and the opposite
of an amount is converted to the opposite, of whatever lengths and exponents the numerals are. -/
theorem convert_keeps_order {c : Converter} {currency : Option String} {day : Option Date}
    (hrate : c.HasNonnegRate currency day) {a b : Decimal} {x y : ℚ} (ha : a.value? = some x)
    (hb : b.value? = some y) :
    (x ≤ y → ∀ d e, c.convert (some a) currency day = .ok (some d) →
        c.convert (some b) currency day = .ok (some e) → ∃ v w, d.value? = some v ∧ e.value? = some w ∧ v ≤ w) ∧
      (y = -x → Opposite (c.convert (some a) currency day) (c.convert (some b) currency day)) := by
  rcases c.convert_cases currency day with hsame | hnone | ⟨code, hcode, hforeign, on, hon, r, hr, hrated⟩
  · simp only [hsame, Except.ok.injEq, Option.some.injEq]
    refine ⟨?_, fun hopposite ↦ ⟨by simp, by simp, ?_⟩⟩
    · rintro h d e rfl rfl
      exact ⟨x, y, ha, hb, h⟩
    · rintro d hd
      exact ⟨b, x, rfl, by rw [← Option.some.inj (Except.ok.inj hd), ha], hopposite ▸ hb⟩
  · simp only [hnone]
    exact ⟨by simp, fun _ ↦ ⟨by simp, by simp, by simp⟩⟩
  · obtain ⟨z, hz, hrateValue⟩ := hrate code hcode hforeign on hon r hr
    have hx : RoundsTo places (x * z) (atRate a r) := roundsTo_multiply ha hrateValue places
    have hy : RoundsTo places (y * z) (atRate b r) := roundsTo_multiply hb hrateValue places
    rw [hrated, hrated]
    refine ⟨fun h d e hd he ↦ ?_, fun hopposite ↦ ?_⟩
    · rw [(Result.map_some_inj (y := .ok d)).1 hd] at hx
      rw [(Result.map_some_inj (y := .ok e)).1 he] at hy
      exact hx.le hy (mul_le_mul_of_nonneg_right h hz)
    · rw [hopposite, neg_mul] at hy
      rcases hx.opposite hy with ⟨fault, hd, he⟩ | ⟨d, e, v, hd, he, hv, hw⟩
      · rw [hd, he]
        exact ⟨by simp [Except.map], by simp [Except.map], by simp [Except.map]⟩
      · rw [hd, he]
        refine ⟨by simp [Except.map], by simp [Except.map], ?_⟩
        rintro _ ⟨⟩
        exact ⟨e, v, rfl, hv, hw⟩

/-! ### A tie at a power of ten -/

namespace Tie

/-- One unit of the reference currency for one of the other. -/
def rate : Rate :=
  ⟨"eur", ⟨2024, 1, 1, by decide⟩, ⟨2024, 12, 31, by decide⟩, .finite false 10 (-1)⟩

def converter : Converter :=
  .of "usd" [rate]

def day : Date :=
  ⟨2024, 6, 1, by decide⟩

/-- An amount of 29 digits. -/
def amount : Decimal :=
  .finite true 99999999999999999999999999995 (-15)

/-- The opposite amount, written with one more digit. -/
def opposite : Decimal :=
  .finite false 999999999999999999999999999950 (-16)

/-- The next power of ten, at six places. -/
def carried (negative : Bool) : Decimal :=
  .finite negative 100000000000000000000 (-6)

theorem hasNonnegRate : converter.HasNonnegRate (some "EUR") (some day) := by
  intro code _ _ d _ r hr
  obtain rfl : r = rate := List.mem_singleton.1 hr.mem
  refine ⟨_, ?_, value?_finite false 10 (-1)⟩
  norm_num [sign]

theorem convert_eq {a d : Decimal} (h : atRate a rate = .ok d) :
    converter.convert (some a) (some "EUR") (some day) = .ok (some d) := by
  have happlies : rate.Applies converter.rates "EUR" day :=
    ⟨[], [], rfl, ⟨by decide +kernel, by decide, by decide⟩, by simp, by simp⟩
  rw [convert_rated (by decide +kernel) happlies, h]
  rfl

end Tie

/-- The amount and its opposite are ties of the first rounding, which carries both to the next power of ten. -/
theorem convert_keeps_order_tie :
    Tie.converter.HasNonnegRate (some "EUR") (some Tie.day) ∧
      Tie.converter.convert (some Tie.amount) (some "EUR") (some Tie.day) = .ok (some (Tie.carried true)) ∧
      Tie.converter.convert (some Tie.opposite) (some "EUR") (some Tie.day) = .ok (some (Tie.carried false)) ∧
      (∃ v w, (Tie.carried true).value? = some v ∧ (Tie.carried false).value? = some w ∧ v ≤ w) ∧
      Opposite (Tie.converter.convert (some Tie.amount) (some "EUR") (some Tie.day))
        (Tie.converter.convert (some Tie.opposite) (some "EUR") (some Tie.day)) := by
  have hneg := Tie.convert_eq (a := Tie.amount) (d := Tie.carried true) (by decide +kernel)
  have hpos := Tie.convert_eq (a := Tie.opposite) (d := Tie.carried false) (by decide +kernel)
  obtain ⟨hle, hopposite⟩ := convert_keeps_order Tie.hasNonnegRate (value?_finite true _ _) (value?_finite false _ _)
  refine ⟨Tie.hasNonnegRate, hneg, hpos, hle ?_ _ _ hneg hpos, hopposite ?_⟩
  · norm_num [sign]
  · norm_num [sign]

end Converter
end BundleLedger
