import BundleLedger.Datum.Basic
import BundleLedger.Validation.Instant

/-!
# Fields

Readers of single values: identifiers, texts, numbers, truth values, days, points in time and choices
from a fixed set. Each reader says which spellings it takes and which issue it raises for the rest.
-/

set_option autoImplicit false

namespace BundleLedger

namespace Field

variable {α : Type}

/-- A reading of an optional result. -/
def orIssue (i : Issue) : Option α → Reading α
  | some value => .ok value
  | none => .error i

def uuid : Datum → Reading Uuid
  | .uuid id => .ok id
  | .text s => orIssue .uuidParsing (Uuid.ofText? s)
  | _ => .error .uuidType

def text : Datum → Reading String
  | .text s => .ok s
  | _ => .error .stringType

/-! ### Numbers -/

/-- The bound of the integers that fit 64 bits with a sign. -/
def wordBound : Nat := 0x8000000000000000

def integer : Datum → Reading Int
  | .int n => .ok n
  | .bool b => .ok (if b then 1 else 0)
  | .real (.finite negative mantissa exponent) =>
    match Double.toInt? (.finite negative mantissa exponent) with
    | none => .error .intFromFloat
    | some n => if n.natAbs < wordBound then .ok n else .error .intParsingSize
  | .real _ => .error .finiteNumber
  | .text s => Spelling.integer s
  | _ => .error .intType

/-- An integer of at least one. -/
def positive (d : Datum) : Reading Int :=
  match integer d with
  | .ok n => if 1 ≤ n then .ok n else .error .greaterThanEqual
  | .error i => .error i

/-- A truth value given as a number; one that does not fit 64 bits is none at all. -/
def booleanNumber (n : Int) (fits : Bool) : Reading Bool :=
  if !fits then .error .boolType
  else if n = 1 then .ok true
  else if n = 0 then .ok false
  else .error .boolParsing

def boolean : Datum → Reading Bool
  | .bool b => .ok b
  | .text s => orIssue .boolParsing (Spelling.truth? s)
  | .int n => booleanNumber n (decide (-Int.ofNat wordBound ≤ n ∧ n < wordBound))
  | .real x =>
    match x.toInt? with
    | some n => booleanNumber n (decide (n.natAbs < wordBound))
    | none => .error .boolType
  | _ => .error .boolType

/-- A numeral that is a number. -/
def finite (d : Decimal) : Reading Decimal :=
  if d.isFinite then .ok d else .error .finiteNumber

def decimal : Datum → Reading Decimal
  | .decimal d => finite d
  | .text s =>
    match Decimal.ofText? s with
    | some d => finite d
    | none => .error .decimalParsing
  | .int n => .ok (Decimal.ofInt n)
  | .real x =>
    match Decimal.ofText? x.text with
    | some d => finite d
    | none => .error .decimalParsing
  | _ => .error .decimalType

/-- An integer as a binary number, if it is not too large. -/
def realOfInt (n : Int) (tooLarge : Issue) : Reading Double :=
  match Double.ofInt n with
  | .finite negative mantissa exponent => .ok (.finite negative mantissa exponent)
  | _ => .error tooLarge

def real : Datum → Reading Double
  | .real x => .ok x
  | .int n => realOfInt n .floatType
  | .bool b => .ok (Double.ofInt (if b then 1 else 0))
  | .text s => orIssue .floatParsing (Spelling.real? s)
  | _ => .error .floatType

/-! ### Days and points in time -/

/-- A point in time from a number. -/
def timestampOfNumber (instant : Instant) : Reading Timestamp :=
  match instant with
  | .point t => .ok t
  | _ => .error .datetimeParsing

def timestamp : Datum → Reading Timestamp
  | .text s =>
    match Instant.ofText s with
    | .point t => .ok t
    | .inYearZero _ => .error .datetimeParsing
    | .unreadable => .error .datetimeFromDate
  | .date d => .ok (.naive (.midnight d))
  | .int n => do
    let _ ← realOfInt n .datetimeType
    timestampOfNumber (Instant.ofInt n)
  | .real x => timestampOfNumber (Instant.ofReal x)
  | _ => .error .datetimeType

/-- The day of a point in time at midnight. -/
def dayOf : Instant → Reading Date
  | .point t => if t.moment.micros.val = 0 then .ok t.moment.date else .error .dateInexact
  | .inYearZero midnight => .error (if midnight then .dateParsing else .dateInexact)
  | .unreadable => .error .dateFromDatetime

/-- A day, or a point in time at midnight. -/
def date : Datum → Reading Date
  | .date day => .ok day
  | .text s => dayOf (Instant.ofText s)
  | .int n => do
    let _ ← realOfInt n .dateType
    dayOf (Instant.ofInt n)
  | .real x => dayOf (Instant.ofReal x)
  | _ => .error .dateType

/-! ### Choices and optional values -/

/-- One of a fixed set of texts. -/
def choice (ofText? : String → Option α) : Datum → Reading α
  | .text s => orIssue .literal (ofText? s)
  | _ => .error .literal

/-- Null, or a value. -/
def optional (read : Datum → Reading α) (d : Datum) : Reading (Option α) :=
  if d.isNull then .ok none else (read d).map some

end Field

/-! ### Fields of records -/

namespace Entries

variable {α : Type}

/-- A field that must be present. -/
def required (entries : List (String × Datum)) (name : String) (read : Datum → Reading α) : Validated α :=
  match Datum.lookup entries name with
  | some d => (Validated.ofReading (read d)).within name
  | none => (Validated.issue .missing).within name

/-- A field that is null when it is absent. -/
def optional (entries : List (String × Datum)) (name : String) (read : Datum → Reading α) :
    Validated (Option α) :=
  match Datum.lookup entries name with
  | some d => (Validated.ofReading (Field.optional read d)).within name
  | none => .ok none

/-- A list field that is empty when it is absent; each item is located by its index. -/
def items (entries : List (String × Datum)) (name : String) (notAList : Issue)
    (read : Datum → Validated α) : Validated (List α) :=
  match Datum.lookup entries name with
  | none => .ok []
  | some (.list items) =>
    (Validated.sequence (items.zipIdx.map fun (item, index) ↦
      (read item).within (Text.natural index))).within name
  | some _ => (Validated.issue notAList).within name

/-- A record, read from the entries of a dictionary. -/
def record (notARecord : Issue) (read : List (String × Datum) → Validated α) : Datum → Validated α
  | .dict entries => read entries
  | _ => .issue notARecord

end Entries
end BundleLedger
