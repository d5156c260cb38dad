import BundleLedger.Double
import Mathlib.Algebra.Order.Field.Power
import Mathlib.Data.Rat.Cast.Order
import Mathlib.Tactic.FieldSimp
import Mathlib.Tactic.Linarith
import Mathlib.Tactic.NormNum
import Mathlib.Tactic.Positivity
import Mathlib.Tactic.Ring

/-!
# Rounding to the nearest number

A fraction rounds to the nearest integer, a tie to the even one (`roundRatio_spec`), and the number of the
binary format that `nearest` picks is at least as close to the fraction as any other number of the format
(`abs_size_nearest_sub_le`). Below `2 ^ 33` it is less than half a millionth away
(`abs_size_nearest_sub_lt`).
-/

set_option autoImplicit false

namespace BundleLedger.Double

/-! ### Integers -/

section Integers

variable {n d : ℕ}

/-- A rounded fraction is less than a half away, or exactly a half and even. -/
theorem roundRatio_spec (hd : 0 < d) :
    |(roundRatio n d : ℚ) - n / d| < 1 / 2 ∨
      |(roundRatio n d : ℚ) - n / d| = 1 / 2 ∧ Even (roundRatio n d) := by
  have hd' : (0 : ℚ) < d := by exact_mod_cast hd
  have hsplit : (n : ℚ) / d = (n / d : ℕ) + ((n % d : ℕ) : ℚ) / d := by
    rw [eq_comm, ← mul_right_inj' hd'.ne', mul_add, mul_div_cancel₀ _ hd'.ne', mul_div_cancel₀ _ hd'.ne']
    exact_mod_cast Nat.div_add_mod n d
  have hrest : (0 : ℚ) ≤ ((n % d : ℕ) : ℚ) / d := by positivity
  unfold roundRatio
  dsimp only
  rw [hsplit]
  split_ifs with hlow hhigh
  · left
    have hlow' : 2 * ((n % d : ℕ) : ℚ) < d := by exact_mod_cast hlow
    rw [sub_add_cancel_left, abs_neg, abs_of_nonneg hrest, div_lt_iff₀ hd']
    linarith
  · left
    have hhigh' : (d : ℚ) < 2 * ((n % d : ℕ) : ℚ) := by exact_mod_cast hhigh
    have hone : ((n % d : ℕ) : ℚ) / d < 1 := by
      rw [div_lt_one hd']
      exact_mod_cast Nat.mod_lt n hd
    have hhalf : 1 / 2 < ((n % d : ℕ) : ℚ) / d := by
      rw [lt_div_iff₀ hd']
      linarith
    rw [abs_lt]
    push_cast
    constructor <;> linarith
  · right
    have htie : ((n % d : ℕ) : ℚ) / d = 1 / 2 := by
      rw [div_eq_iff hd'.ne']
      have : 2 * ((n % d : ℕ) : ℚ) = d := by exact_mod_cast Nat.le_antisymm (not_lt.1 hhigh) (not_lt.1 hlow)
      linarith
    rw [htie]
    rcases Nat.mod_two_eq_zero_or_one (n / d) with heven | hodd
    · rw [heven]
      refine ⟨?_, Nat.even_iff.2 heven⟩
      push_cast
      rw [abs_of_nonpos] <;> linarith
    · rw [hodd]
      refine ⟨?_, Nat.even_iff.2 (by omega)⟩
      push_cast
      rw [abs_of_nonneg] <;> linarith

theorem abs_roundRatio_sub_le (hd : 0 < d) : |(roundRatio n d : ℚ) - n / d| ≤ 1 / 2 := by
  rcases roundRatio_spec (n := n) hd with h | h
  · exact h.le
  · exact h.1.le

/-- No integer is closer to a fraction than the rounded one. -/
theorem abs_roundRatio_sub_le_abs_sub (hd : 0 < d) (k : ℤ) :
    |(roundRatio n d : ℚ) - n / d| ≤ |(k : ℚ) - n / d| := by
  by_contra hcloser
  rw [not_le] at hcloser
  have hhalf := abs_roundRatio_sub_le (n := n) hd
  have hnear : |((k - roundRatio n d : ℤ) : ℚ)| < 1 := by
    calc |((k - roundRatio n d : ℤ) : ℚ)|
        = |((k : ℚ) - n / d) - ((roundRatio n d : ℚ) - n / d)| := by
          push_cast
          ring_nf
      _ ≤ |(k : ℚ) - n / d| + |(roundRatio n d : ℚ) - n / d| := abs_sub _ _
      _ < 1 := by linarith
  have hzero : k - roundRatio n d = 0 := by
    rw [← Int.abs_lt_one_iff]
    exact_mod_cast hnear
  rw [show (k : ℚ) = roundRatio n d by exact_mod_cast sub_eq_zero.1 hzero] at hcloser
  exact lt_irrefl _ hcloser

/-- The rounded fraction is the integer that is at most a half away, a tie being even. -/
theorem roundRatio_eq (hd : 0 < d) {k : ℕ} (h : |(k : ℚ) - n / d| ≤ 1 / 2)
    (heven : |(k : ℚ) - n / d| = 1 / 2 → Even k) : roundRatio n d = k := by
  have hdiff : |((roundRatio n d - k : ℤ) : ℚ)| ≤ |(roundRatio n d : ℚ) - n / d| + |(k : ℚ) - n / d| := by
    calc |((roundRatio n d - k : ℤ) : ℚ)|
        = |((roundRatio n d : ℚ) - n / d) - ((k : ℚ) - n / d)| := by
          push_cast
          ring_nf
      _ ≤ _ := abs_sub _ _
  have hclose := abs_roundRatio_sub_le_abs_sub (n := n) hd k
  push_cast at hclose
  rcases roundRatio_spec (n := n) hd with hlt | ⟨htie, hround⟩
  · have hone : |(roundRatio n d - k : ℤ)| < 1 := by
      have : |((roundRatio n d - k : ℤ) : ℚ)| < 1 := by linarith
      exact_mod_cast this
    rw [Int.abs_lt_one_iff, sub_eq_zero] at hone
    exact_mod_cast hone
  · -- Two even integers that are at most one apart are equal.
    have hk : |(k : ℚ) - n / d| = 1 / 2 := le_antisymm h (htie ▸ hclose)
    have hone : |(roundRatio n d - k : ℤ)| ≤ 1 := by
      have : |((roundRatio n d - k : ℤ) : ℚ)| ≤ 1 := by linarith
      exact_mod_cast this
    rw [abs_le] at hone
    have hkeven := heven hk
    rw [Nat.even_iff] at hkeven hround
    omega

end Integers

/-! ### Sizes -/

/-- The size of a finite number. -/
def size (mantissa : ℕ) (exponent : ℤ) : ℚ :=
  mantissa * 2 ^ exponent

theorem size_nonneg (mantissa : ℕ) (exponent : ℤ) : 0 ≤ size mantissa exponent := by
  unfold size
  positivity

theorem ratio_snd_pos (mantissa : ℕ) (exponent : ℤ) : 0 < (ratio mantissa exponent).2 := by
  unfold ratio
  split_ifs
  · exact Nat.one_pos
  · exact Nat.pow_pos (by decide)

theorem ratio_eq_size (mantissa : ℕ) (exponent : ℤ) :
    ((ratio mantissa exponent).1 : ℚ) / (ratio mantissa exponent).2 = size mantissa exponent := by
  unfold ratio size
  split_ifs with h
  · obtain ⟨k, rfl⟩ := Int.eq_ofNat_of_zero_le h
    simp
  · obtain ⟨k, rfl⟩ : ∃ k : ℕ, exponent = -k := ⟨exponent.natAbs, by omega⟩
    simp [div_eq_mul_inv]

theorem size_carried (mantissa : ℕ) (exponent : ℤ) :
    size (carried mantissa exponent).1 (carried mantissa exponent).2 = size mantissa exponent := by
  unfold carried
  split_ifs with h
  · unfold size
    rw [h, zpow_add_one₀ two_ne_zero, show mantissaBound / 2 = 2 ^ 52 by decide,
      show mantissaBound = 2 ^ 53 by decide]
    push_cast
    ring
  · rfl

/-- A fraction divided by a power of two. -/
theorem scaleDown_ratio (n d : ℕ) (exponent : ℤ) :
    ((scaleDown n d exponent).1 : ℚ) / (scaleDown n d exponent).2 = n / d / 2 ^ exponent := by
  unfold scaleDown
  split_ifs with h
  · obtain ⟨k, rfl⟩ := Int.eq_ofNat_of_zero_le h
    simp [div_div]
  · obtain ⟨k, rfl⟩ : ∃ k : ℕ, exponent = -k := ⟨exponent.natAbs, by omega⟩
    simp only [Int.natAbs_neg, Int.natAbs_natCast, Nat.pow_eq, zpow_neg, zpow_natCast, div_inv_eq_mul]
    push_cast
    ring

/-! ### The exponent of the nearest number -/

section Exponent

variable {n d : ℕ}

/-- The exponent that the binary digits of numerator and denominator suggest. -/
def firstExponent (n d : ℕ) : ℤ :=
  n.log2 - d.log2 - 53

theorem exponentOf_of_lt (h : minExponent < exponentOf n d) :
    exponentOf n d =
      if (scaleDown n d (firstExponent n d)).1 / (scaleDown n d (firstExponent n d)).2 < mantissaBound
      then firstExponent n d else firstExponent n d + 1 := by
  have hmax : exponentOf n d = max minExponent
      (if (scaleDown n d (firstExponent n d)).1 / (scaleDown n d (firstExponent n d)).2 < mantissaBound
        then firstExponent n d else firstExponent n d + 1) := rfl
  rw [hmax] at h ⊢
  exact max_eq_right ((lt_max_iff.1 h).resolve_left (lt_irrefl _)).le

/-- Above the smallest exponent the mantissa has all its binary digits. -/
theorem le_ratio_of_exponentOf (hn : n ≠ 0) (hd : 0 < d) (h : minExponent < exponentOf n d) :
    2 ^ 52 * 2 ^ exponentOf n d ≤ (n : ℚ) / d := by
  have hd' : (0 : ℚ) < d := by exact_mod_cast hd
  rw [exponentOf_of_lt h]
  split_ifs with hsmall
  · have hnum : (2 : ℚ) ^ (n.log2 : ℤ) ≤ n := by
      rw [zpow_natCast]
      exact_mod_cast Nat.log2_self_le hn
    have hden : (d : ℚ) ≤ 2 ^ ((d.log2 : ℤ) + 1) := by
      have : d ≤ 2 ^ (d.log2 + 1) := Nat.lt_log2_self.le
      rw [← Nat.cast_succ, zpow_natCast]
      exact_mod_cast this
    rw [le_div_iff₀ hd']
    calc 2 ^ 52 * 2 ^ firstExponent n d * (d : ℚ)
        ≤ 2 ^ 52 * 2 ^ firstExponent n d * 2 ^ ((d.log2 : ℤ) + 1) := by gcongr
      _ = 2 ^ (n.log2 : ℤ) := by
          rw [firstExponent, ← zpow_natCast, ← zpow_add₀ two_ne_zero, ← zpow_add₀ two_ne_zero]
          congr 1
          push_cast
          ring
      _ ≤ n := hnum
  · have hpos := scaleDown_snd_pos hd n (firstExponent n d)
    have hlarge : mantissaBound * (scaleDown n d (firstExponent n d)).2 ≤
        (scaleDown n d (firstExponent n d)).1 :=
      (Nat.le_div_iff_mul_le hpos).1 (not_lt.1 hsmall)
    have hscaled : (2 : ℚ) ^ 53 ≤ n / d / 2 ^ firstExponent n d := by
      rw [← scaleDown_ratio, le_div_iff₀ (by exact_mod_cast hpos),
        show (2 : ℚ) ^ 53 = (mantissaBound : ℕ) by norm_num [mantissaBound]]
      exact_mod_cast hlarge
    rw [le_div_iff₀ (by positivity)] at hscaled
    rw [zpow_add_one₀ two_ne_zero]
    linarith

end Exponent

/-! ### The nearest number -/

section Nearest

variable {n d : ℕ}

/-- The mantissa before it is brought under its bound. -/
def roundedMantissa (n d : ℕ) : ℕ :=
  roundRatio (scaleDown n d (exponentOf n d)).1 (scaleDown n d (exponentOf n d)).2

theorem abs_roundedMantissa_sub_le (hd : 0 < d) (k : ℤ) :
    |(roundedMantissa n d : ℚ) - n / d / 2 ^ exponentOf n d| ≤ |(k : ℚ) - n / d / 2 ^ exponentOf n d| := by
  rw [← scaleDown_ratio]
  exact abs_roundRatio_sub_le_abs_sub (scaleDown_snd_pos hd _ _) k

theorem abs_roundedMantissa_sub_half (hd : 0 < d) :
    |(roundedMantissa n d : ℚ) - n / d / 2 ^ exponentOf n d| ≤ 1 / 2 := by
  rw [← scaleDown_ratio]
  exact abs_roundRatio_sub_le (scaleDown_snd_pos hd _ _)

/-- The nearest number to a positive fraction, unless it is infinite. -/
theorem size_of_nearest {negative negative' : Bool} {mantissa : ℕ} {exponent : ℤ} (hn : n ≠ 0)
    (h : nearest negative n d = .finite negative' mantissa exponent) :
    negative' = negative ∧ size mantissa exponent = size (roundedMantissa n d) (exponentOf n d) := by
  unfold nearest at h
  rw [if_neg hn] at h
  dsimp only at h
  split_ifs at h
  simp only [finite.injEq] at h
  obtain ⟨rfl, rfl, rfl⟩ := h
  exact ⟨rfl, size_carried _ _⟩

theorem abs_size_sub_eq (mantissa : ℤ) (exponent : ℤ) (x : ℚ) :
    |(mantissa : ℚ) * 2 ^ exponent - x| = |(mantissa : ℚ) - x / 2 ^ exponent| * 2 ^ exponent := by
  have hpos : (0 : ℚ) < 2 ^ exponent := by positivity
  rw [← abs_of_pos hpos, ← abs_mul, abs_of_pos hpos, sub_mul, div_mul_cancel₀ _ hpos.ne']

/-- No multiple of the unit of the nearest number is closer to the fraction. -/
theorem abs_size_roundedMantissa_sub_le (hd : 0 < d) (k : ℤ) :
    |size (roundedMantissa n d) (exponentOf n d) - n / d| ≤ |(k : ℚ) * 2 ^ exponentOf n d - n / d| := by
  have hpos : (0 : ℚ) < 2 ^ exponentOf n d := by positivity
  have hsize : size (roundedMantissa n d) (exponentOf n d) =
      ((roundedMantissa n d : ℤ) : ℚ) * 2 ^ exponentOf n d := by
    rw [size, Int.cast_natCast]
  rw [hsize, abs_size_sub_eq, abs_size_sub_eq]
  exact mul_le_mul_of_nonneg_right (by exact_mod_cast abs_roundedMantissa_sub_le hd k) hpos.le

/-- A number of the format is at most the least one with all binary digits and a larger unit. -/
theorem size_le_of_lt {mantissa : ℕ} {exponent unit : ℤ} (hmantissa : mantissa < mantissaBound)
    (h : exponent < unit) : size mantissa exponent ≤ 2 ^ 52 * 2 ^ unit := by
  have hbound : (mantissa : ℚ) ≤ 2 ^ 53 := by
    rw [show (2 : ℚ) ^ 53 = (mantissaBound : ℕ) by norm_num [mantissaBound]]
    exact_mod_cast hmantissa.le
  calc size mantissa exponent ≤ 2 ^ 53 * 2 ^ (unit - 1) := by
        unfold size
        gcongr
        · exact one_le_two
        · omega
    _ = 2 ^ 52 * 2 ^ unit := by
        rw [zpow_sub_one₀ two_ne_zero]
        ring

/-- No number of the format is closer to a fraction than the nearest one. -/
theorem abs_size_nearest_sub_le (hd : 0 < d) {negative negative' : Bool} {mantissa : ℕ} {exponent : ℤ}
    (h : nearest negative n d = .finite negative' mantissa exponent) {other : ℕ} {place : ℤ}
    (hother : (finite false other place).InRange) :
    |size mantissa exponent - n / d| ≤ |size other place - n / d| := by
  by_cases hn : n = 0
  · subst hn
    obtain ⟨-, rfl, rfl⟩ : negative = negative' ∧ 0 = mantissa ∧ minExponent = exponent := by
      simpa [nearest] using h
    simpa [size] using size_nonneg other place
  obtain ⟨hbound, hmin, -⟩ := hother
  rw [(size_of_nearest hn h).2]
  rcases le_or_gt (exponentOf n d) place with hle | hgt
  · obtain ⟨k, hk⟩ := Int.eq_ofNat_of_zero_le (sub_nonneg.2 hle)
    have hplace : size other place = ((other * 2 ^ k : ℤ) : ℚ) * 2 ^ exponentOf n d := by
      rw [size, show place = k + exponentOf n d by omega, zpow_add₀ two_ne_zero, zpow_natCast]
      push_cast
      ring
    rw [hplace]
    exact abs_size_roundedMantissa_sub_le hd _
  · -- A number with a smaller unit is below the least number with the unit of the nearest one.
    have hlow := le_ratio_of_exponentOf hn hd (hmin.trans_lt hgt)
    have hsmall := size_le_of_lt hbound hgt
    have hleast := abs_size_roundedMantissa_sub_le (n := n) hd (2 ^ 52)
    push_cast at hleast
    refine hleast.trans ?_
    rw [abs_of_nonpos (by linarith), abs_of_nonpos (by linarith)]
    linarith

/-- A fraction that is not larger than the largest number of the format has a nearest number. -/
theorem exists_nearest_eq (hd : 0 < d) (negative : Bool)
    (h : (n : ℚ) / d ≤ size (mantissaBound - 1) maxExponent) :
    ∃ mantissa exponent, nearest negative n d = .finite negative mantissa exponent := by
  by_cases hn : n = 0
  · exact ⟨0, minExponent, by simp [nearest, hn]⟩
  have hlargest : size (mantissaBound - 1) maxExponent < 2 ^ 53 * 2 ^ maxExponent := by
    unfold size
    gcongr
    norm_num [mantissaBound]
  have hexponent : exponentOf n d ≤ maxExponent := by
    by_contra hgt
    rw [not_le] at hgt
    have hlow := le_ratio_of_exponentOf hn hd (lt_trans (by decide) hgt)
    have hpow : (2 : ℚ) ^ (maxExponent + 1) ≤ 2 ^ exponentOf n d :=
      zpow_le_zpow_right₀ one_le_two hgt
    rw [zpow_add_one₀ two_ne_zero] at hpow
    linarith
  have hcarried : (carried (roundedMantissa n d) (exponentOf n d)).2 ≤ maxExponent := by
    unfold carried
    split_ifs with hfull
    · -- The mantissa reaches its bound only below the largest exponent.
      by_contra hgt
      have heq : exponentOf n d = maxExponent := by
        change ¬ exponentOf n d + 1 ≤ maxExponent at hgt
        omega
      have hclose := abs_roundedMantissa_sub_half (n := n) hd
      have hle : (n : ℚ) / d / 2 ^ exponentOf n d ≤ 2 ^ 53 - 1 := by
        rw [div_le_iff₀ (by positivity), heq]
        refine h.trans_eq ?_
        unfold size
        norm_num [mantissaBound]
      rw [hfull, abs_le, show ((mantissaBound : ℕ) : ℚ) = 2 ^ 53 by norm_num [mantissaBound]] at hclose
      linarith [hclose.2]
    · exact hexponent
  refine ⟨(carried (roundedMantissa n d) (exponentOf n d)).1,
    (carried (roundedMantissa n d) (exponentOf n d)).2, ?_⟩
  unfold nearest
  rw [if_neg hn]
  exact if_neg (not_lt.2 hcarried)

/-- A fraction below `2 ^ 33` has its nearest number less than half a millionth away. -/
theorem abs_size_nearest_sub_lt (hd : 0 < d) {negative negative' : Bool} {mantissa : ℕ} {exponent : ℤ}
    (h : nearest negative n d = .finite negative' mantissa exponent) (hsmall : (n : ℚ) / d < 2 ^ 33) :
    |size mantissa exponent - n / d| < 1 / 2 / 10 ^ 6 := by
  by_cases hn : n = 0
  · subst hn
    obtain ⟨-, rfl, rfl⟩ : negative = negative' ∧ 0 = mantissa ∧ minExponent = exponent := by
      simpa [nearest] using h
    norm_num [size]
  have hexponent : exponentOf n d ≤ -20 := by
    by_contra hgt
    rw [not_le] at hgt
    have hlow := le_ratio_of_exponentOf hn hd (lt_trans (by decide) hgt)
    have hpow : (2 : ℚ) ^ (-19 : ℤ) ≤ 2 ^ exponentOf n d := zpow_le_zpow_right₀ one_le_two (by omega)
    norm_num at hpow
    linarith
  rw [(size_of_nearest hn h).2, size, ← Int.cast_natCast, abs_size_sub_eq, Int.cast_natCast]
  calc |(roundedMantissa n d : ℚ) - n / d / 2 ^ exponentOf n d| * 2 ^ exponentOf n d
      ≤ 1 / 2 * 2 ^ (-20 : ℤ) := by
        gcongr
        · exact abs_roundedMantissa_sub_half hd
        · exact one_le_two
    _ < 1 / 2 / 10 ^ 6 := by norm_num

end Nearest
end BundleLedger.Double
