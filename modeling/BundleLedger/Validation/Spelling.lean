import BundleLedger.Double
import BundleLedger.Validation.Validated

/-!
# Spellings of numbers

Which texts a field takes for an integer, a truth value or a binary number. An integer has a plain form,
and a text that is not in that form is cleaned once and read again; cleaning takes off blanks, a plus
sign, zeros in front, a fraction of zeros and underscores between digits.
-/

set_option autoImplicit false

namespace BundleLedger

/-- A value read, or what is wrong with it. -/
abbrev Reading (α : Type) := Except Issue α

namespace Spelling

/-- The greatest length of an integer with its sign. -/
def maxIntegerLength : Nat := 4300

/-- An integer in its plain form: a minus sign or none, then `0` alone or digits that do not start
with it. Too long a run of digits is told from a text that is no integer. -/
def plainInteger (s : List Char) : Reading Int :=
  let (negative, digits) : Bool × List Char :=
    match s with
    | '-' :: rest => (true, rest)
    | rest => (false, rest)
  let run := digits.takeWhile Text.isAsciiDigit
  if digits.head? = some '0' ∧ digits ≠ ['0'] then .error .intParsing
  else if maxIntegerLength < s.length - digits.length + run.length then .error .intParsingSize
  else
    match Text.natural? digits with
    | some n => .ok (if negative then -Int.ofNat n else Int.ofNat n)
    | none => .error .intParsing

/-- What follows zeros and underscores, up to a digit, a minus sign or a point; before a point the
character in front of it stays. Of zeros and underscores alone the last one stays. -/
def afterZeros? (previous : Char) : List Char → Option (List Char)
  | [] => some [previous]
  | c :: rest =>
    if c = '0' ∨ c = '_' then afterZeros? c rest
    else if c = '.' then some (previous :: c :: rest)
    else if c = '-' ∨ Text.isAsciiDigit c then some (c :: rest)
    else none

/-- A number without the zeros in front. -/
def withoutZeros? : List Char → Option (List Char)
  | [] => none
  | c :: rest =>
    if c = '0' then afterZeros? c rest
    else if c = '-' ∨ Text.isAsciiDigit c then some (c :: rest)
    else none

/-- A plus sign taken off, unless a minus sign follows. -/
def withoutPlus : List Char → List Char
  | '+' :: '-' :: rest => '+' :: '-' :: rest
  | '+' :: rest => rest
  | s => s

/-- A point with at least one zero and nothing else after it taken off the end. -/
def withoutZeroFraction (s : List Char) : List Char :=
  match Text.splitFirst '.' s with
  | (whole, some fraction) => if fraction ≠ [] ∧ fraction.all (· = '0') then whole else s
  | (_, none) => s

/-- The characters without underscores, if each of those stands alone between two others. -/
def ungrouped? (s : List Char) : Option (List Char) :=
  let groups := Text.splitAll '_' s
  if groups.any (·.isEmpty) then none else some groups.flatten

/-- The text of an integer brought nearer to the plain form. -/
def cleaned? (s : List Char) : Option (List Char) :=
  (withoutZeros? (withoutPlus (Text.trimBy Text.isNumberBlank s))).map fun digits ↦
    let whole := withoutZeroFraction digits
    (ungrouped? whole).getD whole

/-- The integer a text spells. -/
def integer (s : String) : Reading Int :=
  match plainInteger s.toList with
  | .error .intParsing =>
    match (cleaned? s.toList).map plainInteger with
    | some (.ok n) => .ok n
    | _ => .error .intParsing
  | reading => reading

/-- A truth value in a text, in any case of ASCII letters. -/
def truth? (s : String) : Option Bool :=
  let folded := Text.lowerAscii s
  if folded ∈ ["1", "true", "t", "yes", "y", "on"] then some true
  else if folded ∈ ["0", "false", "f", "no", "n", "off"] then some false
  else none

/-- A binary number after blanks are gone: digits with a point among them or not and an exponent, or
one of the names of infinity and of no number, after a sign. -/
def realChars? (s : List Char) : Option Double :=
  let (negative, rest) := Decimal.splitSign s
  let folded := (Text.lowerAscii (String.ofList rest)).toList
  if folded = "inf".toList ∨ folded = "infinity".toList then some (.infinite negative)
  else if folded = "nan".toList then some .notANumber
  else
    (Decimal.parts? folded).map fun (coefficient, exponent) ↦
      .ofNumeral negative coefficient exponent

/-- The binary number a text spells, with blanks around it or underscores between its characters. -/
def real? (s : String) : Option Double :=
  match realChars? (Text.trimBy Text.isNumberBlank s.toList) with
  | some x => some x
  | none => (ungrouped? s.toList).bind realChars?

end Spelling
end BundleLedger
