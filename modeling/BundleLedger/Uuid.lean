import BundleLedger.Text.Case
import BundleLedger.Text.Numeral
import BundleLedger.Text.Trim

/-!
# Identifiers

Universally unique identifiers: 128 bits, written as 32 small hexadecimal digits in five groups. Two
readers accept them: the strict one takes the four standard forms, the lenient one whatever is left
with 32 hexadecimal digits once decoration has been taken off.
-/

set_option autoImplicit false

namespace BundleLedger

/-- An identifier of 128 bits. -/
structure Uuid where
  bits : BitVec 128
deriving DecidableEq, Repr, Inhabited, Hashable

namespace Uuid

def ofNat (n : Nat) : Uuid :=
  ⟨BitVec.ofNat 128 n⟩

def toNat (id : Uuid) : Nat :=
  id.bits.toNat

/-- The 32 hexadecimal digits. -/
def digits (id : Uuid) : List Char :=
  Text.padDigits 32 (Nat.toDigits 16 id.toNat)

/-- Digits in groups of 8, 4, 4, 4 and 12 with hyphens between. -/
def hyphenate (d : List Char) : List Char :=
  d.take 8 ++ '-' :: ((d.drop 8).take 4 ++ '-' :: ((d.drop 12).take 4 ++ '-' ::
    ((d.drop 16).take 4 ++ '-' :: d.drop 20)))

/-- The written form. -/
def text (id : Uuid) : String :=
  String.ofList (hyphenate id.digits)

/-! ### The strict reader -/

/-- Exactly 32 hexadecimal digits. -/
def ofDigits? (d : List Char) : Option Uuid :=
  if d.length = 32 then (Text.hex? d).map ofNat else none

/-- Five groups of digits with hyphens at their places. -/
def ofHyphenated? (s : List Char) : Option Uuid :=
  let d := s.filter (· != '-')
  if hyphenate d = s then ofDigits? d else none

/-- One of the standard forms: 32 digits; five groups; five groups in braces; five groups after
`urn:uuid:`. -/
def ofText? (s : String) : Option Uuid :=
  let c := s.toList
  if c.length = 32 then ofDigits? c
  else if c.length = 36 then ofHyphenated? c
  else if c.length = 38 ∧ c.head? = some '\x7b' ∧ c.getLast? = some '\x7d' then
    ofHyphenated? ((c.drop 1).take 36)
  else if c.length = 45 ∧ c.take 9 = "urn:uuid:".toList then ofHyphenated? (c.drop 9)
  else none

/-! ### The lenient reader -/

/-- Why the lenient reader refuses a text. -/
inductive Malformed where
  /-- Not 32 characters are left. -/
  | badLength
  /-- The characters left are no hexadecimal number. -/
  | badDigits (characters : List Char)
deriving DecidableEq, Repr

/-- The text without decoration: `urn:` and `uuid:` anywhere, braces at the ends, all hyphens. -/
def bare (s : List Char) : List Char :=
  let s := Text.erase "uuid:".toList (Text.erase "urn:".toList s)
  (Text.trimBy (fun c ↦ c = '\x7b' || c = '\x7d') s).filter (· != '-')

/-- A character with a decimal digit of any script brought to ASCII. -/
def asciiDigit (c : Char) : Char :=
  match Text.digitValue? c with
  | some v => Char.ofNat (48 + v)
  | none => c

/-- A hexadecimal number with blanks around it, an optional plus sign, an optional `0x`, and single
underscores between digits. -/
def hexNumber? (s : List Char) : Option Nat :=
  let s := Text.trimBy Text.isNumberBlank (s.map asciiDigit)
  let s := if s.head? = some '+' then s.drop 1 else s
  let marked := s.take 2 = ['0', 'x'] ∨ s.take 2 = ['0', 'X']
  let s := if marked then s.drop 2 else s
  let s := if marked ∧ s.head? = some '_' then s.drop 1 else s
  let groups := Text.splitAll '_' s
  if groups.any (·.isEmpty) then none else Text.hex? groups.flatten

/-- The identifier that a decorated text holds. -/
def ofLooseText (s : String) : Except Malformed Uuid :=
  let left := bare s.toList
  if left.length ≠ 32 then .error .badLength
  else
    match hexNumber? left with
    | some n => .ok (ofNat n)
    | none => .error (.badDigits left)

end Uuid
end BundleLedger
