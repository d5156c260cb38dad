import BundleLedger.Text.CategoryTable

/-!
# Classes of characters

Character classes of Unicode text: blanks, decimal digits with their values, word characters and
printable characters. Below code point 128 each class is a rule; above it a table decides.
-/

set_option autoImplicit false

namespace BundleLedger.Text

/-- Whether one of the closed ranges of `table` holds `n`. -/
def inRanges (table : List (Nat × Nat)) (n : Nat) : Bool :=
  table.any fun range ↦ range.1 ≤ n && n ≤ range.2

/-- White space in the sense of Unicode, with the four separators of information (28 to 31). -/
def isBlank (c : Char) : Bool :=
  let n := c.toNat
  (9 ≤ n && n ≤ 13) || (28 ≤ n && n ≤ 32) || n == 0x85 || n == 0xa0 || n == 0x1680 ||
    (0x2000 ≤ n && n ≤ 0x200a) || n == 0x2028 || n == 0x2029 || n == 0x202f || n == 0x205f ||
    n == 0x3000

/-- White space that may stand around a whole number: without the separators of information. -/
def isNumberBlank (c : Char) : Bool :=
  isBlank c && !(28 ≤ c.toNat && c.toNat ≤ 31)

/-- A digit from `0` to `9`. -/
def isAsciiDigit (c : Char) : Bool :=
  48 ≤ c.toNat && c.toNat ≤ 57

/-- A decimal digit of any script. -/
def isDecimalDigit (c : Char) : Bool :=
  isAsciiDigit c || (128 ≤ c.toNat && inRanges CategoryTable.decimalDigitRuns c.toNat)

/-- The value of a decimal digit of any script. Runs of digits start at a zero. -/
def digitValue? (c : Char) : Option Nat :=
  if isAsciiDigit c then some (c.toNat - 48)
  else
    (CategoryTable.decimalDigitRuns.find? fun run ↦ run.1 ≤ c.toNat && c.toNat ≤ run.2).map
      fun run ↦ (c.toNat - run.1) % 10

/-- A letter, a numeric character or the underscore. -/
def isWordChar (c : Char) : Bool :=
  c == '_' || isDecimalDigit c || (65 ≤ c.toNat && c.toNat ≤ 90) || (97 ≤ c.toNat && c.toNat ≤ 122) ||
    (128 ≤ c.toNat && inRanges CategoryTable.letterOrNumberRanges c.toNat)

/-- A character that stands for itself in quoted text. -/
def isPrintable (c : Char) : Bool :=
  if c.toNat < 128 then 32 ≤ c.toNat && c.toNat < 127
  else !inRanges CategoryTable.unprintableRanges c.toNat

theorem isWordChar_of_isDecimalDigit {c : Char} (h : isDecimalDigit c = true) :
    isWordChar c = true := by
  simp [isWordChar, h]

end BundleLedger.Text
