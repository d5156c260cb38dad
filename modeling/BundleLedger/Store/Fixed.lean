import BundleLedger.Double

/-!
# Numbers with a fixed number of decimal places

A stored amount is kept as a binary number of 64 bits and read back with a fixed number of decimal places, the
exact binary value rounded to them. Storing forgets the sign of zero, turns a numeral too large for the
format into an infinity, and has no form for what is not a number.
-/

set_option autoImplicit false

namespace BundleLedger

/-- A number that is read back with `places` digits after the point. -/
structure Fixed (places : Nat) where
  value : Double
  inRange : value.InRange
deriving DecidableEq, Repr

/-- An amount of money as it is stored. -/
abbrev Amount := Fixed 6

/-- A conversion rate as it is stored. -/
abbrev StoredRate := Fixed 10

namespace Fixed

variable {places : Nat}

instance : Inhabited (Fixed places) := ⟨⟨.finite false 0 Double.minExponent, by decide⟩⟩

/-- The size of a finite number in units of its last decimal place, a tie rounded to the even one. -/
def unitsOf (places mantissa : Nat) (exponent : Int) : Nat :=
  let (numerator, denominator) := Double.ratio mantissa exponent
  Double.roundRatio (numerator * Nat.pow 10 places) denominator

/-- The numeral of a stored number. -/
def toDecimal (x : Fixed places) : Decimal :=
  match x.value with
  | .finite negative mantissa exponent => .finite negative (unitsOf places mantissa exponent) (-places)
  | .infinite negative => .infinite negative
  | .notANumber => .notANumber false false 0

/-- The number itself, zero without a sign. -/
def unsignedZero : Double → Double
  | .finite _ 0 _ => .finite false 0 Double.minExponent
  | value => value

theorem inRange_unsignedZero {x : Double} (h : x.InRange) : (unsignedZero x).InRange := by
  unfold unsignedZero
  split
  · decide
  · exact h

/-- The stored form of a numeral. -/
def ofDecimal? : Decimal → Option (Fixed places)
  | .finite negative coefficient exponent =>
    some ⟨unsignedZero (.ofNumeral negative coefficient exponent),
      inRange_unsignedZero (Double.inRange_ofNumeral negative coefficient exponent)⟩
  | .infinite negative => some ⟨.infinite negative, trivial⟩
  | .notANumber .. => none

/-- Every zero is stored alike. -/
theorem ofDecimal?_zero (negative : Bool) (exponent : Int) :
    (ofDecimal? (.finite negative 0 exponent) : Option (Fixed places)) =
      some ⟨.finite false 0 Double.minExponent, by decide⟩ := rfl

theorem toDecimal_finite {negative : Bool} {mantissa : Nat} {exponent : Int}
    (h : (Double.finite negative mantissa exponent).InRange) :
    toDecimal (⟨.finite negative mantissa exponent, h⟩ : Fixed places) =
      .finite negative (unitsOf places mantissa exponent) (-places) := rfl

end Fixed
end BundleLedger
