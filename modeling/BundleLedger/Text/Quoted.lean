import BundleLedger.Text.Numeral

/-!
# Quoted text

Text in quotes, as it appears inside the display of another value: single quotes unless the text
holds single quotes and no double ones; a backslash before the quote and itself; control characters
and characters without a glyph by their number.
-/

set_option autoImplicit false

namespace BundleLedger.Text

def singleQuote : Char := '\x27'
def doubleQuote : Char := '\x22'
def backslash : Char := '\x5c'

/-- The quote that surrounds a text. -/
def quoteFor (s : List Char) : Char :=
  if singleQuote ∈ s ∧ doubleQuote ∉ s then doubleQuote else singleQuote

/-- A character by its number, in the shortest of the three escapes that holds it. -/
def numbered (c : Char) : List Char :=
  let n := c.toNat
  let (letter, width) := if n < 0x100 then ('x', 2) else if n < 0x10000 then ('u', 4) else ('U', 8)
  backslash :: letter :: padDigits width (Nat.toDigits 16 n)

/-- One character inside quotes. -/
def quoteChar (quote c : Char) : List Char :=
  if c = quote ∨ c = backslash then [backslash, c]
  else if c = '\n' then [backslash, 'n']
  else if c = '\r' then [backslash, 'r']
  else if c = '\t' then [backslash, 't']
  else if isPrintable c then [c]
  else numbered c

/-- Text in quotes. -/
def quoted (s : String) : String :=
  let quote := quoteFor s.toList
  String.ofList (quote :: (s.toList.flatMap (quoteChar quote) ++ [quote]))

/-- Text with every character beyond ASCII by its number. -/
def inAscii (s : String) : String :=
  String.ofList (s.toList.flatMap fun c ↦ if c.toNat < 128 then [c] else numbered c)

/-- A name in double quotes, as it is. -/
def quotedName (s : String) : String :=
  String.ofList (doubleQuote :: (s.toList ++ [doubleQuote]))

end BundleLedger.Text
