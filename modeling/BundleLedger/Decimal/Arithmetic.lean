import BundleLedger.Decimal.Basic

/-!
# Decimal arithmetic

Products and fixed places under a precision of 28 digits with ties to the even neighbour. A product
is rounded to the precision first; `quantize` then brings it to a number of places, and refuses
when that takes more digits than the precision has.
-/

set_option autoImplicit false

namespace BundleLedger.Decimal

/-- Why an operation has no result. -/
inductive Fault where
  /-- The operands or the size of the result make the operation meaningless. -/
  | invalidOperation
  /-- The result is larger than every numeral. -/
  | overflow
  /-- An operand is a text that spells no numeral. -/
  | unreadable
deriving DecidableEq, Repr, Inhabited

/-- The number of digits a result may have. -/
def precision : Nat := 28

/-- The largest place that the first digit of a result may stand at. -/
def maxAdjusted : Int := 999999

/-- The smallest exponent of a result. -/
def minExponent : Int := -1000026

/-- `n / 10 ^ places` rounded to the nearest integer, a tie to the even one. -/
def roundShift (n places : Nat) : Nat :=
  if digitCount n < places then 0
  else
    let unit := Nat.pow 10 places
    let quotient := n / unit
    let twice := 2 * (n % unit)
    if twice < unit then quotient
    else if unit < twice then quotient + 1
    else quotient + quotient % 2

/-- A finite result brought within the precision and the range of exponents. -/
def settle (negative : Bool) (coefficient : Nat) (exponent : Int) : Except Fault Decimal :=
  if coefficient = 0 then
    .ok (.finite negative 0 (max minExponent (min exponent maxAdjusted)))
  else
    let excess := digitCount coefficient - precision
    let drop := max excess (minExponent - exponent).toNat
    let rounded := roundShift coefficient drop
    let lifted := exponent + drop
    let (kept, place) :=
      if precision < digitCount rounded then (rounded / 10, lifted + 1) else (rounded, lifted)
    if maxAdjusted < adjusted kept place then .error .overflow
    else .ok (.finite negative kept place)

/-- A quiet non-number as a result; its payload keeps no more digits than the precision has. -/
def quiet (negative : Bool) (payload : Nat) : Decimal :=
  .notANumber negative false (payload % Nat.pow 10 precision)

/-- What the non-numbers among two operands make of an operation: a signaling one refuses it, the
first quiet one is the result. None when both operands are numbers. -/
def propagate? : Decimal → Decimal → Option (Except Fault Decimal)
  | .notANumber _ true _, _ | _, .notANumber _ true _ => some (.error .invalidOperation)
  | .notANumber negative _ payload, _ => some (.ok (quiet negative payload))
  | _, .notANumber negative _ payload => some (.ok (quiet negative payload))
  | _, _ => none

/-- The product of two numerals. -/
def multiply (a b : Decimal) : Except Fault Decimal :=
  match propagate? a b with
  | some result => result
  | none =>
    match a, b with
    | .finite na ca ea, .finite nb cb eb => settle (na != nb) (ca * cb) (ea + eb)
    | .infinite na, .infinite nb => .ok (.infinite (na != nb))
    | .infinite na, .finite nb c _ | .finite nb c _, .infinite na =>
      if c = 0 then .error .invalidOperation else .ok (.infinite (na != nb))
    | _, _ => .error .invalidOperation

/-- A numeral of the same value, up to rounding, with exactly `places` digits after the point. -/
def quantize (places : Nat) : Decimal → Except Fault Decimal
  | .notANumber _ true _ => .error .invalidOperation
  | .notANumber negative false payload => .ok (quiet negative payload)
  | .infinite _ => .error .invalidOperation
  | .finite negative coefficient exponent =>
    let shift := exponent + places
    if coefficient = 0 then .ok (.finite negative 0 (-places))
    else if 0 ≤ shift then
      if (precision : Int) < digitCount coefficient + shift then .error .invalidOperation
      else .ok (.finite negative (coefficient * Nat.pow 10 shift.toNat) (-places))
    else
      let rounded := roundShift coefficient (-shift).toNat
      if precision < digitCount rounded then .error .invalidOperation
      else .ok (.finite negative rounded (-places))

/-- The integer part, toward zero. -/
def truncate? : Decimal → Option Int
  | .finite negative coefficient exponent =>
    let size :=
      if 0 ≤ exponent then coefficient * Nat.pow 10 exponent.toNat
      else if digitCount coefficient < exponent.natAbs then 0
      else coefficient / Nat.pow 10 exponent.natAbs
    some (if negative then -Int.ofNat size else Int.ofNat size)
  | _ => none

theorem multiply_finite (na nb : Bool) (ca cb : Nat) (ea eb : Int) :
    multiply (.finite na ca ea) (.finite nb cb eb) = settle (na != nb) (ca * cb) (ea + eb) := rfl

end BundleLedger.Decimal
