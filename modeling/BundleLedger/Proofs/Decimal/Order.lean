import BundleLedger.Proofs.Decimal.Rounding

/-!
# Rounding keeps order and sign

The first rounding goes to the last of the digits that the precision leaves, so its place moves with the size of the
number; below the smallest exponent it stays (`IsLastPlace`). A number with a higher last place is at least as large
as whatever a number with a lower one is rounded to, so the order is also kept across the powers of ten at which the
place moves (`IsSettled.mono`). A tie goes to the even neighbour on both sides of zero (`IsSettled.neg`). Every
numeral is settled in this sense or too large (`exists_settled`), whatever its length and exponent, and it can be
brought to its places exactly if the result fits the precision (`exists_quantize`, `quantize_eq_error`). So what
becomes of a numeral depends on its value alone.
-/

set_option autoImplicit false

namespace BundleLedger.Decimal

/-! ### Nearest integers -/

namespace IsHalfEven

variable {k l : ℤ} {x y : ℚ}

theorem mono (hx : IsHalfEven k x) (hy : IsHalfEven l y) (h : x ≤ y) : k ≤ l := by
  by_contra hlt
  have hstep : (l : ℚ) + 1 ≤ k := by exact_mod_cast not_le.1 hlt
  have hk := (abs_le.1 hx.abs_sub_le).2
  have hl := (abs_le.1 hy.abs_sub_le).1
  -- The numbers are one tie between neighbours, which are not both even.
  have hxtie : (k : ℚ) - x = 1 / 2 := by linarith
  have hytie : (l : ℚ) - y = -(1 / 2) := by linarith
  have hneighbour : (k : ℚ) = l + 1 := by linarith
  replace hneighbour : k = l + 1 := by exact_mod_cast hneighbour
  have hkeven : Even k := (hx.resolve_left (by rw [hxtie]; norm_num)).2
  have hleven : Even l := (hy.resolve_left (by rw [hytie]; norm_num)).2
  rw [hneighbour, Int.even_add_one] at hkeven
  exact hkeven hleven

variable {q : ℤ}

/-- What is rounded to a place does not pass the powers of ten above it. -/
theorem mul_le_zpow (h : IsHalfEven k (x / 10 ^ q)) {n : ℕ} (hx : x ≤ 10 ^ (q + n)) :
    (k : ℚ) * 10 ^ q ≤ 10 ^ (q + n) := by
  have hunit : (0 : ℚ) < 10 ^ q := by positivity
  rw [zpow_add₀ (by norm_num), zpow_natCast, mul_comm (10 ^ q)] at hx ⊢
  have hbound : IsHalfEven (10 ^ n) ((10 : ℚ) ^ n) := by exact_mod_cast intCast (10 ^ n)
  have hk : (k : ℚ) ≤ 10 ^ n := by exact_mod_cast h.mono hbound ((div_le_iff₀ hunit).2 hx)
  exact mul_le_mul_of_nonneg_right hk hunit.le

theorem zpow_le_mul (h : IsHalfEven k (x / 10 ^ q)) {n : ℕ} (hx : 10 ^ (q + n) ≤ x) :
    10 ^ (q + n) ≤ (k : ℚ) * 10 ^ q := by
  have hunit : (0 : ℚ) < 10 ^ q := by positivity
  rw [zpow_add₀ (by norm_num), zpow_natCast, mul_comm (10 ^ q)] at hx ⊢
  have hbound : IsHalfEven (10 ^ n) ((10 : ℚ) ^ n) := by exact_mod_cast intCast (10 ^ n)
  have hk : (10 : ℚ) ^ n ≤ k := by exact_mod_cast hbound.mono h ((le_div_iff₀ hunit).2 hx)
  exact mul_le_mul_of_nonneg_right hk hunit.le

end IsHalfEven

/-! ### The place of the last digit -/

/-- Whether a place is that of the last digit which the precision leaves a number. No place is below the smallest
exponent. -/
structure IsLastPlace (x : ℚ) (q : ℤ) : Prop where
  least : minExponent ≤ q
  lt : |x| < 10 ^ (q + (28 : ℕ))
  le : q = minExponent ∨ 10 ^ (q + (27 : ℕ)) ≤ |x|

/-- Whether a number is rounded to another at the place of its last digit. -/
def IsSettled (x v : ℚ) : Prop :=
  ∃ q k : ℤ, IsLastPlace x q ∧ IsHalfEven k (x / 10 ^ q) ∧ v = k * 10 ^ q

theorem IsLastPlace.neg {x : ℚ} {q : ℤ} (h : IsLastPlace x q) : IsLastPlace (-x) q :=
  ⟨h.least, by rw [abs_neg]; exact h.lt, by rw [abs_neg]; exact h.le⟩

/-- The last place of a coefficient. -/
theorem isLastPlace_max {c : ℕ} (hc : c ≠ 0) (e : ℤ) :
    IsLastPlace (c * 10 ^ e) (max (adjusted c e - 27) minExponent) := by
  have hsize : |(c : ℚ) * 10 ^ e| = c * 10 ^ e := abs_of_nonneg (by positivity)
  refine ⟨le_max_right _ _, ?_, ?_⟩
  · rw [hsize, ← not_le, ← le_adjusted_iff hc, not_le]
    omega
  · rw [hsize, ← le_adjusted_iff hc]
    omega

namespace IsSettled

variable {x y v w : ℚ}

theorem neg (h : IsSettled x v) : IsSettled (-x) (-v) := by
  obtain ⟨q, k, hplace, hround, rfl⟩ := h
  refine ⟨q, -k, hplace.neg, ?_, ?_⟩
  · rw [neg_div]
    exact hround.neg
  · rw [Int.cast_neg, neg_mul]

/-- A number with a higher last place than a smaller one is as large as what the smaller one is rounded to. -/
theorem le_of_place_lt {q r k l : ℤ} (hx : IsLastPlace x q) (hk : IsHalfEven k (x / 10 ^ q)) (hy : IsLastPlace y r)
    (hl : IsHalfEven l (y / 10 ^ r)) (hlt : q < r) (h : x ≤ y) : (k : ℚ) * 10 ^ q ≤ l * 10 ^ r := by
  have hleast := hx.least
  have hlarge : (10 : ℚ) ^ (r + (27 : ℕ)) ≤ |y| := hy.le.resolve_left (by omega)
  have hpowers : (10 : ℚ) ^ (q + (28 : ℕ)) ≤ 10 ^ (r + (27 : ℕ)) :=
    zpow_le_zpow_right₀ (by norm_num) (by omega)
  -- A number of this size is positive, since it is not below the smaller one.
  have hpos : 0 < y := by
    by_contra hneg
    rw [abs_of_nonpos (not_lt.1 hneg)] at hlarge
    linarith [(abs_lt.1 hx.lt).1]
  rw [abs_of_pos hpos] at hlarge
  calc (k : ℚ) * 10 ^ q ≤ 10 ^ (q + (28 : ℕ)) := hk.mul_le_zpow (abs_lt.1 hx.lt).2.le
    _ ≤ 10 ^ (r + (27 : ℕ)) := hpowers
    _ ≤ l * 10 ^ r := hl.zpow_le_mul hlarge

theorem mono (hx : IsSettled x v) (hy : IsSettled y w) (h : x ≤ y) : v ≤ w := by
  obtain ⟨q, k, hxplace, hk, rfl⟩ := hx
  obtain ⟨r, l, hyplace, hl, rfl⟩ := hy
  rcases lt_trichotomy q r with hlt | rfl | hgt
  · exact le_of_place_lt hxplace hk hyplace hl hlt h
  · have hunit : (0 : ℚ) < 10 ^ q := by positivity
    have hkl := hk.mono hl (div_le_div_of_nonneg_right h hunit.le)
    exact mul_le_mul_of_nonneg_right (by exact_mod_cast hkl) hunit.le
  · -- The numbers of the other sign are in the other order.
    have hk' : IsHalfEven (-k) (-x / 10 ^ q) := by
      rw [neg_div]
      exact hk.neg
    have hl' : IsHalfEven (-l) (-y / 10 ^ r) := by
      rw [neg_div]
      exact hl.neg
    have hle := le_of_place_lt hyplace.neg hl' hxplace.neg hk' hgt (neg_le_neg h)
    push_cast at hle
    linarith

theorem unique (h : IsSettled x v) (h' : IsSettled x w) : v = w :=
  le_antisymm (h.mono h' le_rfl) (h'.mono h le_rfl)

theorem zero : IsSettled 0 0 := by
  refine ⟨minExponent, 0, ⟨le_rfl, ?_, .inl rfl⟩, ?_, ?_⟩
  · rw [abs_zero]
    positivity
  · rw [zero_div]
    exact IsHalfEven.intCast 0
  · rw [Int.cast_zero, zero_mul]

end IsSettled

/-! ### Numerals of any size -/

/-- A coefficient is rounded at the place of its last digit, or it ends at a higher place and is not rounded. -/
theorem isSettled_roundShift {c : ℕ} (hc : c ≠ 0) (e : ℤ) {drop : ℕ}
    (hdrop : drop = max (digitCount c - precision) (minExponent - e).toNat) :
    IsSettled (c * 10 ^ e) (roundShift c drop * 10 ^ (e + drop)) ∧ roundShift c drop ≤ 10 ^ 28 ∧
      (roundShift c drop = 0 → e + drop = minExponent) := by
  have hplace := isLastPlace_max hc e
  have hdigits := digitCount_pos c
  obtain ⟨q, hq⟩ : ∃ q, max (adjusted c e - 27) minExponent = q := ⟨_, rfl⟩
  rw [hq] at hplace
  unfold adjusted at hq
  unfold precision at hdrop
  by_cases hhigher : q < e
  · obtain ⟨shift, hshift⟩ : ∃ shift : ℕ, e = q + shift := ⟨(e - q).toNat, by omega⟩
    obtain rfl : drop = 0 := by omega
    have hwhole : (c : ℚ) * 10 ^ e / 10 ^ q = ((c * 10 ^ shift : ℕ) : ℤ) := by
      rw [hshift, zpow_add₀ (by norm_num), zpow_natCast]
      push_cast
      field_simp
    rw [roundShift_zero, Nat.cast_zero, add_zero]
    refine ⟨⟨q, (c * 10 ^ shift : ℕ), hplace, ?_, ?_⟩, ?_, fun hzero ↦ absurd hzero hc⟩
    · rw [hwhole]
      exact IsHalfEven.intCast _
    · rw [← hwhole, div_mul_cancel₀ _ (by positivity)]
    · exact ((digitCount_le_iff (by decide)).1 (by omega)).le
  · obtain rfl : q = e + drop := by omega
    have hround : IsHalfEven (roundShift c drop) ((c : ℚ) * 10 ^ e / 10 ^ (e + drop)) := by
      have hratio : (c : ℚ) * 10 ^ e / 10 ^ (e + drop) = c / 10 ^ drop := by
        rw [zpow_add₀ (by norm_num), zpow_natCast]
        field_simp
      rw [hratio]
      exact isHalfEven_roundShift c drop
    refine ⟨⟨e + drop, roundShift c drop, hplace, hround, by rw [Int.cast_natCast]⟩, ?_, fun hzero ↦ ?_⟩
    · have hle := hround.mul_le_zpow (abs_lt.1 hplace.lt).2.le
      rw [zpow_add₀ (by norm_num) _ ((28 : ℕ) : ℤ), mul_comm, zpow_natCast] at hle
      have hbound := le_of_mul_le_mul_left hle (by positivity)
      exact_mod_cast hbound
    · refine hplace.le.resolve_right fun hlarge ↦ ?_
      rw [abs_of_nonneg (by positivity)] at hlarge
      have hle := hround.zpow_le_mul hlarge
      rw [hzero, Nat.cast_zero, Int.cast_zero, zero_mul] at hle
      exact absurd hle (not_le.2 (by positivity))

/-- A numeral is settled, unless what it is rounded to is larger than every numeral. -/
theorem exists_settled (negative : Bool) (c : ℕ) (e : ℤ) : ∃ v, 0 ≤ v ∧ IsSettled (c * 10 ^ e) v ∧
    ((v < 10 ^ (maxAdjusted + 1) ∧ ∃ kept place, settle negative c e = .ok (.finite negative kept place) ∧
        kept < 10 ^ 28 ∧ (kept : ℚ) * 10 ^ place = v) ∨
      (10 ^ (maxAdjusted + 1) ≤ v ∧ settle negative c e = .error .overflow)) := by
  by_cases hc : c = 0
  · refine ⟨0, le_rfl, ?_, .inl ⟨by positivity, 0, _, if_pos hc, by decide, ?_⟩⟩
    · rw [hc, Nat.cast_zero, zero_mul]
      exact .zero
    · rw [Nat.cast_zero, zero_mul]
  obtain ⟨drop, hdrop⟩ : ∃ drop, max (digitCount c - precision) (minExponent - e).toNat = drop := ⟨_, rfl⟩
  obtain ⟨hsettled, hbound, hvanishing⟩ := isSettled_roundShift hc e hdrop.symm
  obtain ⟨kept, place, hcarried, hkept, hadjusted, hvalue⟩ := exists_carried hbound (e + drop)
  have hsettle : settle negative c e =
      if maxAdjusted < adjusted kept place then .error .overflow else .ok (.finite negative kept place) := by
    unfold settle
    rw [if_neg hc]
    dsimp only
    rw [hdrop, hcarried]
  have hlarge : maxAdjusted < adjusted kept place ↔ (10 : ℚ) ^ (maxAdjusted + 1) ≤ kept * 10 ^ place := by
    by_cases hzero : kept = 0
    · subst hzero
      rw [Nat.cast_zero, zero_mul] at hvalue ⊢
      have hrounded : roundShift c drop = 0 := by
        have hfactor := (mul_eq_zero.1 hvalue.symm).resolve_right (by positivity)
        exact_mod_cast hfactor
      rw [hadjusted, hrounded, hvanishing hrounded]
      exact iff_of_false (by decide) (not_le.2 (by positivity))
    · rw [← le_adjusted_iff hzero, Int.lt_iff_add_one_le]
  refine ⟨_, by positivity, hsettled, ?_⟩
  rw [hsettle, ← hvalue]
  by_cases hover : maxAdjusted < adjusted kept place
  · exact .inr ⟨hlarge.1 hover, if_pos hover⟩
  · exact .inl ⟨not_le.1 (mt hlarge.2 hover), kept, place, if_neg hover, hkept, rfl⟩

/-- A coefficient within the precision cannot be brought to a number of places when the result would have more
digits than the precision. -/
theorem quantize_eq_error (places : ℕ) (negative : Bool) {kept : ℕ} {place : ℤ} (hkept : kept < 10 ^ 28)
    (hsize : 10 ^ 28 ≤ (kept : ℚ) * 10 ^ (place + places)) :
    quantize places (.finite negative kept place) = .error .invalidOperation := by
  have hzero : kept ≠ 0 := by
    rintro rfl
    rw [Nat.cast_zero, zero_mul] at hsize
    exact absurd hsize (by norm_num)
  have hshift : 0 ≤ place + places := by
    by_contra hneg
    have hshrunk : (kept : ℚ) * 10 ^ (place + places) ≤ kept :=
      mul_le_of_le_one_right (Nat.cast_nonneg _) (zpow_le_one_of_nonpos₀ (by norm_num) (not_le.1 hneg).le)
    have hlt : (kept : ℚ) < 10 ^ 28 := by exact_mod_cast hkept
    linarith
  have hdigits : ((28 : ℕ) : ℤ) ≤ adjusted kept (place + places) := by
    rw [le_adjusted_iff hzero, zpow_natCast]
    exact hsize
  unfold adjusted at hdigits
  unfold quantize
  dsimp only
  rw [if_neg hzero, if_pos hshift, if_pos (by unfold precision; omega)]

end BundleLedger.Decimal
