import BundleLedger.Decimal.Arithmetic
import BundleLedger.Proofs.Result
import BundleLedger.Proofs.Rounding

/-!
# Two roundings of a decimal numeral

A result is rounded to the precision first and to its places afterwards. Both steps take the nearest number, a tie
going to the even one (`IsHalfEven`). The first one moves a coefficient only when it has more digits than the
precision, so its error is bounded by the size of the number (`exists_settle`), and a number that has no more
significant digits than the precision keeps its value. The second one is refused only when the result would need
too many digits (`exists_quantize`). `exists_rounded` puts the two together for sizes below `10 ^ 21`.
-/

set_option autoImplicit false

namespace BundleLedger

namespace Decimal

/-! ### Nearest integers -/

/-- The integer nearest to a number, a tie being even. -/
def IsHalfEven (k : ℤ) (x : ℚ) : Prop :=
  |(k : ℚ) - x| < 1 / 2 ∨ (|(k : ℚ) - x| = 1 / 2 ∧ Even k)

namespace IsHalfEven

variable {k : ℤ} {x : ℚ}

theorem abs_sub_le (h : IsHalfEven k x) : |(k : ℚ) - x| ≤ 1 / 2 := by
  rcases h with h | h
  · exact h.le
  · exact h.1.le

theorem neg (h : IsHalfEven k x) : IsHalfEven (-k) (-x) := by
  have habs : |((-k : ℤ) : ℚ) - -x| = |(k : ℚ) - x| := by
    rw [← abs_neg]
    push_cast
    ring_nf
  unfold IsHalfEven
  rwa [habs, even_neg]

theorem intCast (k : ℤ) : IsHalfEven k k := by
  left
  rw [sub_self, abs_zero]
  norm_num

/-- An integer is its own nearest one. -/
theorem eq_of_intCast {m : ℤ} (h : IsHalfEven k m) : k = m := by
  have hlt : |((k - m : ℤ) : ℚ)| < 1 := by
    push_cast
    linarith [h.abs_sub_le]
  have : |k - m| < 1 := by exact_mod_cast hlt
  rwa [Int.abs_lt_one_iff, sub_eq_zero] at this

end IsHalfEven

/-! ### Digits -/

theorem digitCount_le_iff {n k : ℕ} (hk : 0 < k) : digitCount n ≤ k ↔ n < 10 ^ k :=
  Nat.length_toDigits_le_iff (by decide) hk

theorem lt_pow_digitCount (n : ℕ) : n < 10 ^ digitCount n :=
  (digitCount_le_iff (digitCount_pos n)).1 le_rfl

theorem pow_le_of_lt_digitCount {n k : ℕ} (hn : n ≠ 0) (hk : k < digitCount n) : 10 ^ k ≤ n := by
  rcases Nat.eq_zero_or_pos k with rfl | hpos
  · exact Nat.one_le_iff_ne_zero.2 hn
  · exact not_lt.1 fun hlt ↦ absurd ((digitCount_le_iff hpos).2 hlt) (not_le.2 hk)

/-- The place of the first digit is the size of the number. -/
theorem le_adjusted_iff {c : ℕ} (hc : c ≠ 0) {e k : ℤ} : k ≤ adjusted c e ↔ (10 : ℚ) ^ k ≤ c * 10 ^ e := by
  have hten : (1 : ℚ) < 10 := by norm_num
  have hpos := digitCount_pos c
  unfold adjusted
  constructor
  · intro hk
    have hdigits : ((10 ^ (digitCount c - 1) : ℕ) : ℚ) ≤ c := by
      exact_mod_cast pow_le_of_lt_digitCount hc (Nat.sub_lt hpos Nat.one_pos)
    calc (10 : ℚ) ^ k ≤ 10 ^ (((digitCount c - 1 : ℕ) : ℤ) + e) := zpow_le_zpow_right₀ hten.le (by omega)
      _ = ((10 ^ (digitCount c - 1) : ℕ) : ℚ) * 10 ^ e := by
        rw [zpow_add₀ (by norm_num), zpow_natCast]
        push_cast
        rfl
      _ ≤ c * 10 ^ e := mul_le_mul_of_nonneg_right hdigits (by positivity)
  · intro hle
    have hdigits : (c : ℚ) < ((10 ^ digitCount c : ℕ) : ℚ) := by exact_mod_cast lt_pow_digitCount c
    have hlt : (10 : ℚ) ^ k < 10 ^ ((digitCount c : ℤ) + e) := by
      calc (10 : ℚ) ^ k ≤ c * 10 ^ e := hle
        _ < ((10 ^ digitCount c : ℕ) : ℚ) * 10 ^ e := mul_lt_mul_of_pos_right hdigits (by positivity)
        _ = 10 ^ ((digitCount c : ℤ) + e) := by
          rw [zpow_add₀ (by norm_num), zpow_natCast]
          push_cast
          rfl
    have := (zpow_lt_zpow_iff_right₀ hten).1 hlt
    omega

/-! ### Rounding -/

theorem roundShift_eq_roundRatio (n places : ℕ) : roundShift n places = Double.roundRatio n (10 ^ places) := by
  unfold roundShift
  split_ifs with hshort
  · -- The number is below a tenth of the unit.
    have hlt : n < 10 ^ (places - 1) := by
      rcases Nat.eq_zero_or_pos (places - 1) with hzero | hpos
      · have := digitCount_pos n
        omega
      · exact (digitCount_le_iff hpos).1 (by omega)
    have hunit : 10 ^ places = 10 ^ (places - 1) * 10 := by
      rw [← pow_succ, Nat.sub_add_cancel (by omega)]
    unfold Double.roundRatio
    dsimp only
    rw [Nat.mod_eq_of_lt (by omega), Nat.div_eq_of_lt (by omega), if_pos (by omega)]
  · rfl

theorem isHalfEven_roundShift (n places : ℕ) : IsHalfEven (roundShift n places) ((n : ℚ) / 10 ^ places) := by
  have h := Double.roundRatio_spec (n := n) (d := 10 ^ places) (Nat.pow_pos (by decide))
  rw [← roundShift_eq_roundRatio] at h
  push_cast at h
  unfold IsHalfEven
  rw [Int.cast_natCast, Int.even_coe_nat]
  exact h

/-- A number of whole units is not changed. -/
theorem roundShift_mul_pow (n places : ℕ) : roundShift (n * 10 ^ places) places = n := by
  have h := isHalfEven_roundShift (n * 10 ^ places) places
  push_cast at h
  rw [mul_div_cancel_right₀ _ (by positivity)] at h
  have hround : (roundShift (n * 10 ^ places) places : ℤ) = n := IsHalfEven.eq_of_intCast (by exact_mod_cast h)
  exact_mod_cast hround

theorem roundShift_zero (n : ℕ) : roundShift n 0 = n := by
  have h := roundShift_mul_pow n 0
  rwa [pow_zero, mul_one] at h

theorem roundShift_le (n places : ℕ) : roundShift n places ≤ n / 10 ^ places + 1 := by
  have hparity : n / 10 ^ places % 2 ≤ 1 := Nat.le_of_lt_succ (Nat.mod_lt _ two_pos)
  rw [roundShift_eq_roundRatio]
  unfold Double.roundRatio
  dsimp only
  split_ifs
  · exact Nat.le_succ _
  · exact le_refl _
  · exact Nat.add_le_add_left hparity _

/-- What is rounded to the precision is at most the bound of the precision. -/
theorem roundShift_excess_le (c : ℕ) : roundShift c (digitCount c - precision) ≤ 10 ^ 28 := by
  have hdigits : digitCount c ≤ 28 + (digitCount c - precision) := by
    unfold precision
    omega
  have hsize := (digitCount_le_iff (by omega)).1 hdigits
  rw [pow_add, mul_comm] at hsize
  exact (roundShift_le c _).trans (Nat.div_lt_of_lt_mul hsize)

/-! ### The first rounding -/

/-- A coefficient rounded to the precision, at the place of its last digit. -/
def settled (c : ℕ) (e : ℤ) : ℚ :=
  roundShift c (digitCount c - precision) * 10 ^ (e + (digitCount c - precision : ℕ))

section Settled

variable {c : ℕ} {e : ℤ}

theorem settled_of_le (h : digitCount c ≤ precision) : settled c e = c * 10 ^ e := by
  rw [settled, Nat.sub_eq_zero_of_le h, roundShift_zero, Nat.cast_zero, add_zero]

/-- Rounding up can make one more digit. The coefficient is a power of ten then, and its last digit is dropped. -/
theorem exists_carried {rounded : ℕ} (h : rounded ≤ 10 ^ 28) (lifted : ℤ) : ∃ kept place,
    (if precision < digitCount rounded then (rounded / 10, lifted + 1) else (rounded, lifted)) = (kept, place) ∧
      kept < 10 ^ 28 ∧ adjusted kept place = adjusted rounded lifted ∧
      (kept : ℚ) * 10 ^ place = rounded * 10 ^ lifted := by
  by_cases hcarry : precision < digitCount rounded
  · obtain rfl : rounded = 10 ^ 28 := by
      refine le_antisymm h (not_lt.1 fun hlt ↦ absurd hcarry (not_lt.2 ?_))
      exact (digitCount_le_iff (by decide)).2 hlt
    refine ⟨10 ^ 27, lifted + 1, by rw [if_pos hcarry]; rfl, by decide, ?_, ?_⟩
    · have hcount : digitCount (10 ^ 28) = digitCount (10 ^ 27) + 1 := by decide
      unfold adjusted
      omega
    · rw [zpow_add_one₀ (by norm_num)]
      push_cast
      ring
  · exact ⟨rounded, lifted, if_neg hcarry, (digitCount_le_iff (by decide)).1 (not_lt.1 hcarry), rfl, rfl⟩

/-- A number whose size is within the range of exponents is settled. -/
theorem exists_settle (negative : Bool) (hc : c ≠ 0) (hmin : -999999 ≤ adjusted c e) (hmax : adjusted c e < 999999) :
    ∃ kept place, settle negative c e = .ok (.finite negative kept place) ∧ kept < 10 ^ 28 ∧
      (kept : ℚ) * 10 ^ place = settled c e := by
  have hpos := digitCount_pos c
  have hprecision : precision = 28 := rfl
  have hdrop : max (digitCount c - precision) (minExponent - e).toNat = digitCount c - precision := by
    unfold adjusted at hmin
    unfold minExponent
    omega
  obtain ⟨kept, place, hcarried, hkept, hadjusted, hvalue⟩ :=
    exists_carried (roundShift_excess_le c) (e + (digitCount c - precision : ℕ))
  have hlimit : ¬ maxAdjusted < adjusted kept place := by
    rw [hadjusted]
    unfold maxAdjusted
    by_cases hshort : digitCount c ≤ precision
    · rw [Nat.sub_eq_zero_of_le hshort, roundShift_zero, Nat.cast_zero, add_zero]
      omega
    · have hcount : digitCount (roundShift c (digitCount c - precision)) ≤ 29 :=
        (digitCount_le_iff (by decide)).2 ((roundShift_excess_le c).trans_lt (by decide))
      unfold adjusted at hmax ⊢
      omega
  unfold settle
  rw [if_neg hc]
  dsimp only
  rw [hdrop, hcarried]
  dsimp only
  rw [if_neg hlimit]
  exact ⟨kept, place, rfl, hkept, hvalue⟩

/-- The first rounding is off by at most half a unit of the last digit that the precision leaves. -/
theorem abs_settled_sub_le {top : ℤ} (hsize : (c : ℚ) * 10 ^ e < 10 ^ top) :
    |settled c e - c * 10 ^ e| ≤ 1 / 2 * 10 ^ (top - 28) := by
  by_cases hshort : digitCount c ≤ precision
  · rw [settled_of_le hshort, sub_self, abs_zero]
    positivity
  · have hc : c ≠ 0 := by
      rintro rfl
      exact hshort (by decide)
    have htop : adjusted c e < top := by
      rw [← not_le, le_adjusted_iff hc]
      exact not_le.2 hsize
    have hplace : e + (digitCount c - precision : ℕ) ≤ top - 28 := by
      unfold adjusted at htop
      unfold precision at hshort ⊢
      omega
    have hunit : (c : ℚ) * 10 ^ e =
        c / 10 ^ (digitCount c - precision) * 10 ^ (e + (digitCount c - precision : ℕ)) := by
      rw [zpow_add₀ (by norm_num), zpow_natCast]
      field_simp
    have hhalf := (isHalfEven_roundShift c (digitCount c - precision)).abs_sub_le
    rw [Int.cast_natCast] at hhalf
    rw [hunit, settled, ← sub_mul, abs_mul, abs_of_pos (show (0 : ℚ) < 10 ^ (e + _) by positivity)]
    exact mul_le_mul hhalf (zpow_le_zpow_right₀ (by norm_num) hplace) (by positivity) (by norm_num)

/-- A number with no more significant digits than the precision is not rounded. -/
theorem settled_eq_of_digits {m : ℕ} {k : ℤ} (hm : m < 10 ^ 28) (h : (c : ℚ) * 10 ^ e = m * 10 ^ k) :
    settled c e = c * 10 ^ e := by
  by_cases hshort : digitCount c ≤ precision
  · exact settled_of_le hshort
  · have hdigits : digitCount m ≤ precision := (digitCount_le_iff (by decide)).2 hm
    have hc : c ≠ 0 := by
      rintro rfl
      exact hshort (by decide)
    have hm0 : m ≠ 0 := by
      rintro rfl
      rw [Nat.cast_zero, zero_mul] at h
      exact absurd h (by positivity)
    have hadjusted : adjusted c e = adjusted m k := by
      refine eq_of_forall_le_iff fun i ↦ ?_
      rw [le_adjusted_iff hc, le_adjusted_iff hm0, h]
    obtain ⟨drop, hdrop⟩ : ∃ drop, digitCount c - precision = drop := ⟨_, rfl⟩
    obtain ⟨rest, hrest⟩ : ∃ rest : ℕ, k = e + (rest + drop : ℕ) := by
      refine ⟨(k - (e + drop)).toNat, ?_⟩
      unfold adjusted at hadjusted
      omega
    -- The dropped digits are zeros.
    have hzeros : c = m * 10 ^ rest * 10 ^ drop := by
      rw [hrest, zpow_add₀ (by norm_num), zpow_natCast, mul_left_comm, mul_comm] at h
      rw [mul_assoc, ← pow_add]
      exact_mod_cast mul_left_cancel₀ (by positivity) h
    have hround : roundShift c drop = m * 10 ^ rest := by
      rw [hzeros, roundShift_mul_pow]
    rw [settled, hdrop, hround, hzeros, zpow_add₀ (by norm_num), zpow_natCast]
    push_cast
    ring

end Settled

/-! ### The second rounding -/

/-- A coefficient within the precision can be brought to a number of places when the result has no more digits than
the precision. -/
theorem exists_quantize (places : ℕ) (negative : Bool) {kept : ℕ} {place : ℤ} (hkept : kept < 10 ^ 28)
    (hsize : (kept : ℚ) * 10 ^ (place + places) < 10 ^ 28) :
    ∃ units : ℕ, quantize places (.finite negative kept place) = .ok (.finite negative units (-places)) ∧
      IsHalfEven units (kept * 10 ^ (place + places)) := by
  unfold quantize
  dsimp only
  by_cases hzero : kept = 0
  · rw [if_pos hzero, hzero, Nat.cast_zero, zero_mul]
    exact ⟨0, rfl, IsHalfEven.intCast 0⟩
  rw [if_neg hzero]
  by_cases hshift : 0 ≤ place + places
  · have hadjusted : adjusted kept (place + places) < 28 := by
      rw [← not_le, le_adjusted_iff hzero]
      exact not_le.2 hsize
    obtain ⟨shift, hshift'⟩ := Int.eq_ofNat_of_zero_le hshift
    rw [hshift', zpow_natCast]
    have hwhole : ((kept * 10 ^ shift : ℕ) : ℚ) = kept * 10 ^ shift := by
      push_cast
      rfl
    unfold adjusted at hadjusted
    rw [if_pos (by omega), if_neg (by unfold precision; omega), Int.toNat_natCast]
    refine ⟨kept * 10 ^ shift, rfl, ?_⟩
    rw [← hwhole]
    exact_mod_cast IsHalfEven.intCast (kept * 10 ^ shift : ℕ)
  · obtain ⟨shift, hshift'⟩ := Int.eq_ofNat_of_zero_le (show 0 ≤ -(place + places) by omega)
    rw [if_neg hshift, hshift', Int.toNat_natCast]
    have hhalf := isHalfEven_roundShift kept shift
    have hdigits : digitCount (roundShift kept shift) ≤ precision := by
      have hle : roundShift kept shift ≤ kept / 10 ^ 1 + 1 := by
        refine (roundShift_le _ _).trans (Nat.add_le_add_right (Nat.div_le_div_left ?_ (by decide)) _)
        exact Nat.pow_le_pow_right (by decide) (by omega)
      exact (digitCount_le_iff (by decide)).2 (show _ < 10 ^ 28 by omega)
    rw [if_neg (not_lt.2 hdigits)]
    refine ⟨_, rfl, ?_⟩
    rwa [show place + places = -(shift : ℤ) by omega, zpow_neg, zpow_natCast, ← div_eq_mul_inv]

/-! ### Both roundings -/

/-- A size below `10 ^ 21` is rounded to the precision and then to six places. -/
theorem exists_rounded (negative : Bool) {c : ℕ} {e : ℤ} (hsize : (c : ℚ) * 10 ^ e < 10 ^ (21 : ℤ))
    (hmin : c ≠ 0 → (10 : ℚ) ^ (-999999 : ℤ) ≤ c * 10 ^ e) :
    ∃ units : ℕ, (settle negative c e).bind (quantize 6) = .ok (.finite negative units (-6)) ∧
      IsHalfEven units (settled c e * 10 ^ 6) := by
  by_cases hc : c = 0
  · refine ⟨0, ?_, ?_⟩
    · rw [settle, if_pos hc]
      rfl
    · rw [hc, settled_of_le (by decide), Nat.cast_zero (R := ℚ), zero_mul, zero_mul]
      exact IsHalfEven.intCast 0
  · have hmax : adjusted c e < 21 := by
      rw [← not_le, le_adjusted_iff hc]
      exact not_le.2 hsize
    obtain ⟨kept, place, hsettled, hkept, hvalue⟩ :=
      exists_settle negative hc ((le_adjusted_iff hc).2 (hmin hc)) (hmax.trans (by decide))
    have hscaled : (kept : ℚ) * 10 ^ (place + (6 : ℕ)) = settled c e * 10 ^ 6 := by
      rw [zpow_add₀ (by norm_num), zpow_natCast, ← mul_assoc, hvalue]
    have hclose := abs_settled_sub_le hsize
    have hlarge : (kept : ℚ) * 10 ^ (place + (6 : ℕ)) < 10 ^ 28 := by
      rw [hscaled]
      norm_num at hclose hsize ⊢
      linarith [(abs_le.1 hclose).2]
    obtain ⟨units, hunits, hround⟩ := exists_quantize 6 negative hkept hlarge
    rw [hscaled] at hround
    exact ⟨units, Result.bind_eq_ok_iff.2 ⟨_, hsettled, hunits⟩, hround⟩

end Decimal
end BundleLedger
