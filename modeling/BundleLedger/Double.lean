import BundleLedger.Decimal.Basic

/-!
# Binary floating-point numbers

Binary floating point numbers of 64 bits, kept exactly as a mantissa and a power of two. The module
rounds decimal numerals and fractions to the nearest such number, and writes the shortest decimal
numeral that reads back.
-/

set_option autoImplicit false

namespace BundleLedger

/-- A number of the 64-bit binary format. A finite one stands for
`(-1)^negative * mantissa * 2^exponent`, with a mantissa below `2^53`. -/
inductive Double where
  | finite (negative : Bool) (mantissa : Nat) (exponent : Int)
  | infinite (negative : Bool)
  | notANumber
deriving DecidableEq, Repr, Inhabited

namespace Double

/-- The smallest exponent of two. -/
def minExponent : Int := -1074

/-- The largest exponent of two. -/
def maxExponent : Int := 971

/-- The first number with more than 53 binary digits: no mantissa reaches it. -/
def mantissaBound : Nat := 0x20000000000000

/-- The mantissa and the exponent of a finite number are those of the format. -/
def InRange : Double → Prop
  | .finite _ mantissa exponent =>
    mantissa < mantissaBound ∧ minExponent ≤ exponent ∧ exponent ≤ maxExponent
  | .infinite _ | .notANumber => True

instance : DecidablePred InRange
  | .finite _ mantissa exponent =>
    inferInstanceAs (Decidable (mantissa < mantissaBound ∧ minExponent ≤ exponent ∧ exponent ≤ maxExponent))
  | .infinite _ | .notANumber => .isTrue trivial

/-- A fraction rounded to the nearest integer, a tie to the even one. -/
def roundRatio (numerator denominator : Nat) : Nat :=
  let quotient := numerator / denominator
  let twice := 2 * (numerator % denominator)
  if twice < denominator then quotient
  else if denominator < twice then quotient + 1
  else quotient + quotient % 2

/-- A fraction divided by a power of two, again as numerator and denominator. -/
def scaleDown (numerator denominator : Nat) (exponent : Int) : Nat × Nat :=
  if 0 ≤ exponent then (numerator, denominator * Nat.pow 2 exponent.toNat)
  else (numerator * Nat.pow 2 exponent.natAbs, denominator)

/-- The exponent of the number nearest to a positive fraction: with it the mantissa has 53 binary digits,
unless the exponent would be too small. -/
def exponentOf (numerator denominator : Nat) : Int :=
  let first : Int := numerator.log2 - denominator.log2 - 53
  let (n, d) := scaleDown numerator denominator first
  max minExponent (if n / d < mantissaBound then first else first + 1)

/-- Mantissa and exponent of the same number after rounding, where the mantissa may have reached its bound. -/
def carried (mantissa : Nat) (exponent : Int) : Nat × Int :=
  if mantissa = mantissaBound then (mantissaBound / 2, exponent + 1) else (mantissa, exponent)

/-- The nearest number of the format to a non-negative fraction. -/
def nearest (negative : Bool) (numerator denominator : Nat) : Double :=
  if numerator = 0 then .finite negative 0 minExponent
  else
    let (n, d) := scaleDown numerator denominator (exponentOf numerator denominator)
    let (mantissa, exponent) := carried (roundRatio n d) (exponentOf numerator denominator)
    if maxExponent < exponent then .infinite negative else .finite negative mantissa exponent

/-- The nearest number to a decimal numeral given by coefficient and exponent. Numerals far outside
the range of the format are decided by their size. -/
def ofNumeral (negative : Bool) (coefficient : Nat) (exponent : Int) : Double :=
  if coefficient = 0 then .finite negative 0 minExponent
  else if 400 < Decimal.adjusted coefficient exponent then .infinite negative
  else if Decimal.adjusted coefficient exponent < -400 then .finite negative 0 minExponent
  else if 0 ≤ exponent then nearest negative (coefficient * Nat.pow 10 exponent.toNat) 1
  else nearest negative coefficient (Nat.pow 10 exponent.natAbs)

/-- The nearest number to an integer. -/
def ofInt (n : Int) : Double :=
  ofNumeral (n < 0) n.natAbs 0

/-- Numerator and denominator of the size of a finite number. -/
def ratio (mantissa : Nat) (exponent : Int) : Nat × Nat :=
  if 0 ≤ exponent then (mantissa * Nat.pow 2 exponent.toNat, 1) else (mantissa, Nat.pow 2 exponent.natAbs)

/-- The integer that a finite number equals, if it is integral. -/
def toInt? : Double → Option Int
  | .finite negative mantissa exponent =>
    let (n, d) := ratio mantissa exponent
    if n % d = 0 then some (if negative then -Int.ofNat (n / d) else Int.ofNat (n / d)) else none
  | _ => none

/-- The integer part of a finite number, toward zero. -/
def truncate? : Double → Option Int
  | .finite negative mantissa exponent =>
    let (n, d) := ratio mantissa exponent
    some (if negative then -Int.ofNat (n / d) else Int.ofNat (n / d))
  | _ => none

/-- The numeral of exactly the value of a number, with as few digits as that takes. -/
def toDecimal : Double → Decimal
  | .finite negative mantissa exponent =>
    let (n, d) := ratio mantissa exponent
    let shared := Nat.gcd n d
    let places := (d / shared).log2
    .finite negative (n / shared * Nat.pow 5 places) (-places)
  | .infinite negative => .infinite negative
  | .notANumber => .notANumber false false 0

/-! ### The shortest numeral -/

/-- The place of the first digit of a positive fraction not below `10^-400`. -/
def leadingPlace (numerator denominator : Nat) : Int :=
  Int.ofNat (Decimal.digitCount (numerator * Nat.pow 10 400 / denominator)) - 401

/-- A fraction divided by a power of ten, rounded down, and whether the rest is more than a half,
less than a half, or exactly that. -/
def gridBelow (numerator denominator : Nat) (place : Int) : Nat × Ordering :=
  let (n, d) :=
    if 0 ≤ place then (numerator, denominator * Nat.pow 10 place.toNat)
    else (numerator * Nat.pow 10 place.natAbs, denominator)
  (n / d, compare (2 * (n % d)) d)

/-- Among the numerals with `digits` digits on either side of a number, the nearer of those that
read back as the number. -/
def candidate? (mantissa : Nat) (exponent : Int) (digits : Nat) : Option (Nat × Int) :=
  let (n, d) := ratio mantissa exponent
  let place := leadingPlace n d - digits + 1
  let (below, rest) := gridBelow n d place
  let self := Double.finite false mantissa exponent
  let low := ofNumeral false below place = self
  let high := ofNumeral false (below + 1) place = self
  let preferLow := rest = .lt ∨ (rest = .eq ∧ below % 2 = 0)
  if low ∧ (preferLow ∨ ¬ high) then some (below, place)
  else if high then some (below + 1, place)
  else none

/-- The numeral of fewest digits that reads back; seventeen digits always do. -/
def shortest (mantissa : Nat) (exponent : Int) : Nat × Int :=
  ((List.range 17).findSome? fun k ↦ candidate? mantissa exponent (k + 1)).getD (mantissa, 0)

/-- A coefficient without the zeros at its end, which move into the exponent. -/
def dropZeros : Nat → Nat × Int → Nat × Int
  | 0, pair => pair
  | fuel + 1, (coefficient, place) =>
    if coefficient ≠ 0 ∧ coefficient % 10 = 0 then dropZeros fuel (coefficient / 10, place + 1)
    else (coefficient, place)

/-- Layout of the digits: positional when the first digit stands from the fourth place after the
point up to the sixteenth before it, with at least one digit after the point; otherwise one digit, a
point if more follow, and an exponent of at least two digits. -/
def layout (coefficient : Nat) (place : Int) : List Char :=
  let digits := Nat.toDigits 10 coefficient
  let lead := Decimal.adjusted coefficient place
  if -4 ≤ lead ∧ lead < 16 then
    if place ≥ 0 then digits ++ List.replicate place.toNat '0' ++ ['.', '0']
    else if 0 ≤ lead then Decimal.pointed digits (lead + 1).toNat
    else '0' :: '.' :: (List.replicate (-lead - 1).toNat '0' ++ digits)
  else
    Decimal.pointed digits 1 ++ 'e' :: (if lead < 0 then '-' else '+') ::
      Text.padDigits 2 (Nat.toDigits 10 lead.natAbs)

/-- The text of a number; `infinity` and `nan` name what has no digits. -/
def textWith (infinity nan : String) : Double → String
  | .finite negative mantissa exponent =>
    Decimal.signText negative ++
      (if mantissa = 0 then "0.0"
        else
          let (coefficient, place) := dropZeros 20 (shortest mantissa exponent)
          String.ofList (layout coefficient place))
  | .infinite negative => Decimal.signText negative ++ infinity
  | .notANumber => nan

/-- The text of a number by itself. -/
def text : Double → String :=
  textWith "inf" "nan"

/-! ### The range of the format -/

theorem scaleDown_eq (numerator denominator : Nat) (exponent : Int) :
    scaleDown numerator denominator exponent =
      (numerator * Nat.pow 2 (-exponent).toNat, denominator * Nat.pow 2 exponent.toNat) := by
  unfold scaleDown
  split
  · rename_i h
    have hz : (-exponent).toNat = 0 := by omega
    simp [hz]
  · rename_i h
    have hz : exponent.toNat = 0 := by omega
    have ha : exponent.natAbs = (-exponent).toNat := by omega
    simp [hz, ha]

theorem scaleDown_snd_pos {denominator : Nat} (hd : 0 < denominator) (numerator : Nat)
    (exponent : Int) : 0 < (scaleDown numerator denominator exponent).2 := by
  rw [scaleDown_eq]
  exact Nat.mul_pos hd (Nat.two_pow_pos _)

theorem roundRatio_le {numerator denominator bound : Nat} (h : numerator < denominator * bound) :
    roundRatio numerator denominator ≤ bound := by
  have hq : numerator / denominator < bound := Nat.div_lt_of_lt_mul h
  unfold roundRatio
  dsimp only
  split
  · omega
  · split <;> omega

/-- One more power of two below brings a fraction under the bound of mantissas. -/
theorem scaleDown_lt_of_log2 {numerator denominator : Nat} (hd : denominator ≠ 0) {exponent : Int}
    (h : (numerator.log2 : Int) - denominator.log2 - 52 ≤ exponent) :
    (scaleDown numerator denominator exponent).1 <
      (scaleDown numerator denominator exponent).2 * mantissaBound := by
  have hn : numerator < 2 ^ (numerator.log2 + 1) := Nat.lt_log2_self
  have hl : 2 ^ denominator.log2 ≤ denominator := Nat.log2_self_le hd
  simp only [scaleDown_eq, Nat.pow_eq]
  calc numerator * 2 ^ (-exponent).toNat
      < 2 ^ (numerator.log2 + 1) * 2 ^ (-exponent).toNat :=
        Nat.mul_lt_mul_of_pos_right hn (Nat.two_pow_pos _)
    _ = 2 ^ (numerator.log2 + 1 + (-exponent).toNat) := (Nat.pow_add ..).symm
    _ ≤ 2 ^ (denominator.log2 + exponent.toNat + 53) :=
        Nat.pow_le_pow_right (by decide) (by omega)
    _ = 2 ^ denominator.log2 * 2 ^ exponent.toNat * mantissaBound := by
        rw [Nat.pow_add, Nat.pow_add, show (2 : Nat) ^ 53 = mantissaBound by decide]
    _ ≤ denominator * 2 ^ exponent.toNat * mantissaBound :=
        Nat.mul_le_mul_right _ (Nat.mul_le_mul_right _ hl)

/-- A fraction under the bound of mantissas stays under it when divided by a larger power of two. -/
theorem scaleDown_lt_of_le {numerator denominator : Nat} {first exponent : Int}
    (he : first ≤ exponent)
    (h : (scaleDown numerator denominator first).1 <
      (scaleDown numerator denominator first).2 * mantissaBound) :
    (scaleDown numerator denominator exponent).1 <
      (scaleDown numerator denominator exponent).2 * mantissaBound := by
  simp only [scaleDown_eq, Nat.pow_eq] at h ⊢
  refine Nat.lt_of_mul_lt_mul_right (a := 2 ^ first.toNat) ?_
  calc numerator * 2 ^ (-exponent).toNat * 2 ^ first.toNat
      = numerator * 2 ^ ((-exponent).toNat + first.toNat) := by rw [Nat.pow_add, Nat.mul_assoc]
    _ ≤ numerator * 2 ^ ((-first).toNat + exponent.toNat) :=
        Nat.mul_le_mul_left _ (Nat.pow_le_pow_right (by decide) (by omega))
    _ = numerator * 2 ^ (-first).toNat * 2 ^ exponent.toNat := by rw [Nat.pow_add, Nat.mul_assoc]
    _ < denominator * 2 ^ first.toNat * mantissaBound * 2 ^ exponent.toNat :=
        Nat.mul_lt_mul_of_pos_right h (Nat.two_pow_pos _)
    _ = denominator * 2 ^ exponent.toNat * mantissaBound * 2 ^ first.toNat := by
        ac_rfl

theorem minExponent_le_exponentOf (numerator denominator : Nat) :
    minExponent ≤ exponentOf numerator denominator :=
  Int.le_max_left _ _

theorem scaleDown_exponentOf_lt {numerator denominator : Nat} (hd : denominator ≠ 0) :
    (scaleDown numerator denominator (exponentOf numerator denominator)).1 <
      (scaleDown numerator denominator (exponentOf numerator denominator)).2 * mantissaBound := by
  let first : Int := numerator.log2 - denominator.log2 - 53
  have hle : (if (scaleDown numerator denominator first).1 /
        (scaleDown numerator denominator first).2 < mantissaBound then first else first + 1) ≤
      exponentOf numerator denominator :=
    Int.le_max_right _ _
  split at hle
  · rename_i hq
    refine scaleDown_lt_of_le hle ?_
    have hpos := scaleDown_snd_pos (Nat.pos_of_ne_zero hd) numerator first
    rw [Nat.mul_comm]
    exact (Nat.div_lt_iff_lt_mul hpos).1 hq
  · exact scaleDown_lt_of_log2 hd (by omega)

theorem inRange_zero (negative : Bool) : (Double.finite negative 0 minExponent).InRange :=
  ⟨by decide, by decide, by decide⟩

theorem inRange_carried {negative : Bool} {mantissa : Nat} {exponent : Int}
    (hm : mantissa ≤ mantissaBound) (he : minExponent ≤ exponent)
    (hmax : (carried mantissa exponent).2 ≤ maxExponent) :
    InRange (.finite negative (carried mantissa exponent).1 (carried mantissa exponent).2) := by
  unfold carried at hmax ⊢
  split
  · rename_i h
    rw [if_pos h] at hmax
    exact ⟨by simp [mantissaBound], by omega, hmax⟩
  · rename_i h
    rw [if_neg h] at hmax
    exact ⟨by omega, he, hmax⟩

/-- Rounding gives a number of the format. -/
theorem inRange_nearest {negative : Bool} {numerator denominator : Nat} (hd : denominator ≠ 0) :
    (nearest negative numerator denominator).InRange := by
  unfold nearest
  split
  · exact inRange_zero negative
  · dsimp only
    split
    · trivial
    · rename_i hmax
      refine inRange_carried (roundRatio_le (scaleDown_exponentOf_lt hd))
        (minExponent_le_exponentOf numerator denominator) (by omega)

theorem inRange_ofNumeral (negative : Bool) (coefficient : Nat) (exponent : Int) :
    (ofNumeral negative coefficient exponent).InRange := by
  unfold ofNumeral
  split
  · exact inRange_zero negative
  split
  · trivial
  split
  · exact inRange_zero negative
  split
  · exact inRange_nearest (by decide)
  · exact inRange_nearest (Nat.pos_iff_ne_zero.1 (Nat.pow_pos (by decide)))

end Double
end BundleLedger
