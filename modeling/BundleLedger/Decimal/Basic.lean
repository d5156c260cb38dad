import BundleLedger.Text.Case
import BundleLedger.Text.Numeral
import BundleLedger.Text.Trim

/-!
# Decimal numerals

Decimal numbers with sign, coefficient and exponent kept apart, so that `5`, `5.0` and `0.5E+1` are
different numerals of one value, together with infinities and quiet or signaling non-numbers. The
module reads and writes their text.
-/

set_option autoImplicit false

namespace BundleLedger

/-- A decimal numeral. The finite ones stand for `(-1)^negative * coefficient * 10^exponent`. -/
inductive Decimal where
  | finite (negative : Bool) (coefficient : Nat) (exponent : Int)
  | infinite (negative : Bool)
  | notANumber (negative signaling : Bool) (payload : Nat)
deriving DecidableEq, Repr, Inhabited

namespace Decimal

/-- The number of decimal digits of a coefficient; zero has one. -/
def digitCount (n : Nat) : Nat :=
  (Nat.toDigits 10 n).length

/-- The exponent of the first digit. -/
def adjusted (coefficient : Nat) (exponent : Int) : Int :=
  exponent + digitCount coefficient - 1

def ofInt (n : Int) : Decimal :=
  .finite (n < 0) n.natAbs 0

/-- Neither infinite nor a non-number. -/
def isFinite : Decimal → Bool
  | .finite .. => true
  | _ => false

/-! ### Writing -/

def signText (negative : Bool) : String :=
  if negative then "-" else ""

/-- Digits with a point after the first `whole` of them. -/
def pointed (digits : List Char) (whole : Nat) : List Char :=
  if digits.length ≤ whole then digits else digits.take whole ++ '.' :: digits.drop whole

/-- The exponent with its sign, as it stands after the letter. -/
def exponentText (e : Int) : List Char :=
  (if e < 0 then '-' else '+') :: Nat.toDigits 10 e.natAbs

/-- The digits of a finite numeral. Positional notation is used exactly when the exponent is not
positive and the first digit stands at the sixth place after the point or before it. -/
def layout (coefficient : Nat) (exponent : Int) : List Char :=
  let digits := Nat.toDigits 10 coefficient
  let lead := adjusted coefficient exponent
  if exponent ≤ 0 ∧ -6 ≤ lead then
    if 0 ≤ lead then pointed digits (lead + 1).toNat
    else '0' :: '.' :: (List.replicate (-lead - 1).toNat '0' ++ digits)
  else pointed digits 1 ++ 'E' :: exponentText lead

/-- The text of a numeral. -/
def text : Decimal → String
  | .finite negative coefficient exponent =>
    signText negative ++ String.ofList (layout coefficient exponent)
  | .infinite negative => signText negative ++ "Infinity"
  | .notANumber negative signaling payload =>
    signText negative ++ (if signaling then "sNaN" else "NaN") ++
      (if payload = 0 then "" else Text.natural payload)

/-! ### Reading -/

/-- The characters a numeral is made of: digits of any script become ASCII digits, underscores are
left out, blanks inside become spaces. None for a character that can stand in no numeral. -/
def normalize? (s : List Char) : Option (List Char) :=
  (s.filter (· != '_')).mapM fun c ↦
    if 0 < c.toNat ∧ c.toNat < 128 then some c
    else if Text.isBlank c then some ' '
    else (Text.digitValue? c).map fun v ↦ Char.ofNat (48 + v)

/-- A sign taken off the front: whether it was a minus, and the rest. -/
def splitSign : List Char → Bool × List Char
  | '-' :: rest => (true, rest)
  | '+' :: rest => (false, rest)
  | rest => (false, rest)

/-- The largest exponent, in size, of a numeral that can be read. -/
def exponentLimit : Int := 999999999999999999

/-- The value of an exponent: an optional sign and digits. -/
def exponent? (s : List Char) : Option Int :=
  let (negative, digits) := splitSign s
  (Text.natural? digits).map fun n ↦ if negative then -Int.ofNat n else Int.ofNat n

/-- Digits with at most one point: all digits, and how many of them follow the point. -/
def mantissa? (s : List Char) : Option (Nat × Nat) :=
  let (whole, fraction) := Text.splitFirst '.' s
  let fraction := fraction.getD []
  (Text.natural? (whole ++ fraction)).map fun n ↦ (n, fraction.length)

/-- Coefficient and exponent of a numeral in small letters: digits with an optional point, and an
optional exponent. -/
def parts? (s : List Char) : Option (Nat × Int) := do
  let (front, tail) := Text.splitFirst 'e' s
  let (coefficient, places) ← mantissa? front
  let shift ← match tail with
    | none => some 0
    | some digits => exponent? digits
  return (coefficient, shift - places)

/-- A finite numeral in small letters whose exponent is not too large. -/
def finite? (negative : Bool) (s : List Char) : Option Decimal := do
  let (coefficient, exponent) ← parts? s
  if adjusted coefficient exponent ≤ exponentLimit ∧ -2 * exponentLimit + 1 ≤ exponent then
    some (.finite negative coefficient exponent)
  else none

/-- The digits after the letters of a non-number; they may be missing. -/
def payload? (digits : List Char) : Option Nat :=
  if digits.isEmpty then some 0 else Text.natural? digits

/-- A numeral after its sign, in small letters. -/
def unsigned? (negative : Bool) : List Char → Option Decimal
  | 'n' :: 'a' :: 'n' :: digits => (payload? digits).map (.notANumber negative false)
  | 's' :: 'n' :: 'a' :: 'n' :: digits => (payload? digits).map (.notANumber negative true)
  | 'i' :: 'n' :: 'f' :: rest =>
    if rest = [] ∨ rest = "inity".toList then some (.infinite negative) else none
  | s => finite? negative s

/-- The numeral that a text spells, blanks around it allowed. -/
def ofText? (s : String) : Option Decimal := do
  let characters ← normalize? (Text.trimBy Text.isBlank s.toList)
  let (negative, rest) := splitSign (characters.map Text.lowerAsciiChar)
  unsigned? negative rest

theorem digitCount_pos (n : Nat) : 0 < digitCount n := by
  simp [digitCount, Nat.length_toDigits_pos]

end Decimal
end BundleLedger
