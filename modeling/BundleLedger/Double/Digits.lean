import BundleLedger.Double

/-!
# Numerals with a chosen number of digits

The shortest numeral of a number is its text. Here the number of digits is given instead: so many
places after the point, so many digits before an exponent, or whichever of the two suits the size.
A value between two numerals goes to the nearer one, a tie to the even one.
-/

set_option autoImplicit false

namespace BundleLedger.Double

/-- How a number with a chosen number of digits is written. -/
inductive DigitForm where
  /-- Places after the point. -/
  | positional
  /-- One digit before the point, and an exponent. -/
  | scientific
  /-- Positional for numbers of middling size, scientific for the others. -/
  | general
deriving DecidableEq, Repr

/-- The digits of a fraction rounded to so many places after the point; `point` asks for the point
even where no place follows it. -/
def positionalDigits (numerator denominator places : Nat) (point : Bool) : List Char :=
  let digits := Text.padDigits (places + 1)
    (Nat.toDigits 10 (roundRatio (numerator * Nat.pow 10 places) denominator))
  Decimal.pointed digits (digits.length - places) ++ (if point ∧ places = 0 then ['.'] else [])

/-- A fraction as a coefficient of so many digits and the exponent of its first digit. -/
def roundedDigits (numerator denominator digits : Nat) : Nat × Int :=
  if numerator = 0 then (0, 0)
  else
    let lead := leadingPlace numerator denominator
    let shift := lead - Int.ofNat digits + 1
    let coefficient :=
      if 0 ≤ shift then roundRatio numerator (denominator * Nat.pow 10 shift.toNat)
      else roundRatio (numerator * Nat.pow 10 shift.natAbs) denominator
    if coefficient = Nat.pow 10 digits then (coefficient / 10, lead + 1) else (coefficient, lead)

/-- The exponent of ten: its sign and at least two digits. -/
def exponentDigits (lead : Int) : List Char :=
  'e' :: (if lead < 0 then '-' else '+') :: Text.padDigits 2 (Nat.toDigits 10 lead.natAbs)

/-- The digits of a fraction with so many places after the first digit, and an exponent. -/
def scientificDigits (numerator denominator places : Nat) (point : Bool) : List Char :=
  let (coefficient, lead) := roundedDigits numerator denominator (places + 1)
  Decimal.pointed (Text.padDigits (places + 1) (Nat.toDigits 10 coefficient)) 1 ++
    (if point ∧ places = 0 then ['.'] else []) ++ exponentDigits lead

/-- Digits without the zeros that end their fraction, and without a point that nothing follows. -/
def withoutIdleZeros (digits : List Char) : List Char :=
  if '.' ∈ digits then
    ((digits.reverse.dropWhile (· = '0')).dropWhile (· = '.')).reverse
  else digits

/-- A fraction in so many digits: with an exponent if the first digit stands before the fourth place
after the point or beyond the digits asked for. `point` keeps the zeros at the end. -/
def generalDigits (numerator denominator digits : Nat) (point : Bool) : List Char :=
  let digits := max 1 digits
  let (_, lead) := roundedDigits numerator denominator digits
  if -4 ≤ lead ∧ lead < digits then
    let written := positionalDigits numerator denominator (Int.ofNat digits - 1 - lead).toNat point
    if point then written else withoutIdleZeros written
  else
    let written := scientificDigits numerator denominator (digits - 1) point
    if point then written
    else withoutIdleZeros (written.takeWhile (· ≠ 'e')) ++ written.dropWhile (· ≠ 'e')

/-- The size of a number in a form, without its sign. -/
def DigitForm.digits (form : DigitForm) (precision : Nat) (point : Bool) : Double → List Char
  | .finite _ mantissa exponent =>
    let (numerator, denominator) := ratio mantissa exponent
    match form with
    | .positional => positionalDigits numerator denominator precision point
    | .scientific => scientificDigits numerator denominator precision point
    | .general => generalDigits numerator denominator precision point
  | .infinite _ => "inf".toList
  | .notANumber => "nan".toList

/-- Whether a number carries a minus sign. -/
def isNegative : Double → Bool
  | .finite negative _ _ => negative
  | .infinite negative => negative
  | .notANumber => false

end BundleLedger.Double
