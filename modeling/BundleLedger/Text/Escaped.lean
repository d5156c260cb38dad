import BundleLedger.Text.Quoted

/-!
# Escaped strings

Text as a string of the data-interchange notation in ASCII only: every character outside the range
from the blank to the tilde is escaped, so no control character and no line break is ever
written.
-/

set_option autoImplicit false

namespace BundleLedger.Text

/-- One 16-bit unit by its number. -/
def escapedUnit (unit : Nat) : List Char :=
  backslash :: 'u' :: padDigits 4 (Nat.toDigits 16 unit)

/-- A character by its 16-bit units: one below `0x10000`, a surrogate pair above. -/
def escapedUnits (c : Char) : List Char :=
  let n := c.toNat
  if n < 0x10000 then escapedUnit n
  else
    let rest := n - 0x10000
    escapedUnit (0xd800 + rest / 0x400) ++ escapedUnit (0xdc00 + rest % 0x400)

/-- One character inside a string. -/
def escapeChar (c : Char) : List Char :=
  if c = doubleQuote ∨ c = backslash then [backslash, c]
  else if c = '\n' then [backslash, 'n']
  else if c = '\r' then [backslash, 'r']
  else if c = '\t' then [backslash, 't']
  else if c = '\x08' then [backslash, 'b']
  else if c = '\x0c' then [backslash, 'f']
  else if 32 ≤ c.toNat ∧ c.toNat ≤ 126 then [c]
  else escapedUnits c

/-- A string with its quotes. -/
def escaped (s : String) : List Char :=
  doubleQuote :: (s.toList.flatMap escapeChar ++ [doubleQuote])

/-- A character that a written line may hold. -/
def isLineChar (c : Char) : Bool :=
  32 ≤ c.toNat && c.toNat ≤ 126

end BundleLedger.Text
