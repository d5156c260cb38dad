import BundleLedger.Text.Category

/-!
# Whole numbers in digits

Numbers written in decimal and hexadecimal digits: writing naturals and integers, padding with
zeros, and reading runs of digits.
-/

set_option autoImplicit false

namespace BundleLedger.Text

/-- A natural number in decimal digits. -/
def natural (n : Nat) : String :=
  String.ofList (Nat.toDigits 10 n)

/-- An integer in decimal digits, with a minus sign when it is negative. -/
def integer (n : Int) : String :=
  if n < 0 then "-" ++ natural n.natAbs else natural n.natAbs

/-- Digits padded with zeros on the left to at least `width`. -/
def padDigits (width : Nat) (digits : List Char) : List Char :=
  List.replicate (width - digits.length) '0' ++ digits

/-- A natural number in at least `width` decimal digits. -/
def padded (width n : Nat) : String :=
  String.ofList (padDigits width (Nat.toDigits 10 n))

/-- The value of one hexadecimal digit. -/
def hexValue? (c : Char) : Option Nat :=
  let n := c.toNat
  if 48 ≤ n && n ≤ 57 then some (n - 48)
  else if 97 ≤ n && n ≤ 102 then some (n - 87)
  else if 65 ≤ n && n ≤ 70 then some (n - 55)
  else none

/-- A hexadecimal digit in either case. -/
def isHexDigit (c : Char) : Bool :=
  (hexValue? c).isSome

/-- The number that digits in `base` stand for, read from the left onto `seed`; none if one of the
characters is no digit. -/
def readDigits? (base : Nat) (value? : Char → Option Nat) (digits : List Char) (seed : Nat) : Option Nat :=
  match digits with
  | [] => some seed
  | c :: rest => (value? c).bind fun v ↦ readDigits? base value? rest (seed * base + v)

/-- The value of one digit from `0` to `9`. -/
def asciiDigitValue? (c : Char) : Option Nat :=
  if isAsciiDigit c then some (c.toNat - 48) else none

/-- A non-empty run of ASCII digits. -/
def natural? (digits : List Char) : Option Nat :=
  if digits.isEmpty then none else readDigits? 10 asciiDigitValue? digits 0

/-- A non-empty run of hexadecimal digits. -/
def hex? (digits : List Char) : Option Nat :=
  if digits.isEmpty then none else readDigits? 16 hexValue? digits 0

end BundleLedger.Text
