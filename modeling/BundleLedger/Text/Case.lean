import BundleLedger.Text.CaseTable

/-!
# Letter case

Full upper-casing of Unicode text, where one character may become several, and the ASCII folding
used for names that are compared without regard to case.
-/

set_option autoImplicit false

namespace BundleLedger.Text

/-- The upper case of one code point above ASCII, when a run of the table holds it. -/
def shiftedUpper? (n : Nat) : Option Nat :=
  (CaseTable.runs.find? fun run ↦
    run.1 ≤ n && n ≤ run.2.1 && (n - run.1) % run.2.2.1 == 0).map
      fun run ↦ (Int.ofNat n + run.2.2.2).toNat

/-- The upper case of one character. -/
def upperChar (c : Char) : List Char :=
  let n := c.toNat
  if n < 128 then
    if 97 ≤ n && n ≤ 122 then [Char.ofNat (n - 32)] else [c]
  else
    match CaseTable.expansions.find? (·.1 == n) with
    | some expansion => expansion.2.map Char.ofNat
    | none =>
      match shiftedUpper? n with
      | some upper => [Char.ofNat upper]
      | none => [c]

/-- Text in upper case, character by character. -/
def upper (s : String) : String :=
  String.ofList (s.toList.flatMap upperChar)

/-- One character with an ASCII capital made small. -/
def lowerAsciiChar (c : Char) : Char :=
  if 65 ≤ c.toNat && c.toNat ≤ 90 then Char.ofNat (c.toNat + 32) else c

/-- Text with its ASCII capitals made small; every other character stays. -/
def lowerAscii (s : String) : String :=
  String.ofList (s.toList.map lowerAsciiChar)

/-- A name in small letters as far as ASCII names can tell: besides the capitals, the sign of the kelvin has
an ASCII letter for its small form. -/
def lowerName (s : String) : String :=
  String.ofList (s.toList.map fun c ↦ if c = '\u212a' then 'k' else lowerAsciiChar c)

theorem toList_lowerAscii (s : String) : (lowerAscii s).toList = s.toList.map lowerAsciiChar := by
  simp [lowerAscii]

end BundleLedger.Text
