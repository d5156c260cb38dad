import BundleLedger.Calendar.WrittenTime
import BundleLedger.Datum.Display
import BundleLedger.Failure

/-!
# Values brought to a kind

What a statement or a rate needs is a field, a numeral, a day, a moment, an identifier or a code, and what is
searched for patterns is a text. A value that cannot be brought to it is a failure, whose text names the kind
that the value has.
-/

set_option autoImplicit false

namespace BundleLedger.Datum

/-- The value of a key that must be there. -/
def field (d : Datum) (key : String) : Except Cause Datum :=
  match d with
  | .dict entries =>
    match lookup entries key with
    | some value => .ok value
    | none => .error (.missingKey key)
  | d => .error (.fault .type ("'" ++ d.kindName ++ "' object is not subscriptable"))

/-- The numeral of a value: one that a text spells, or exactly a number. -/
def numeral : Datum → Except Cause Decimal
  | .text s =>
    match Decimal.ofText? s with
    | some d => .ok d
    | none => .error (.arithmetic .unreadable)
  | .int n => .ok (.ofInt n)
  | .bool b => .ok (.ofInt (if b then 1 else 0))
  | .real x => .ok x.toDecimal
  | .decimal d => .ok d
  | .list _ => .error (.fault .value "argument must be a sequence of length 3")
  | d => .error (.fault .type ("conversion from " ++ d.kindName ++ " to Decimal is not supported"))

/-- The day that a text names. -/
def day : Datum → Except Cause Date
  | .text s => (Date.read s).mapError fun f ↦ .fault .value f.text
  | _ => .error (.fault .type "fromisoformat: argument must be str")

/-- The moment that a text names. -/
def moment : Datum → Except Cause Moment
  | .text s => (Timestamp.readMoment s).mapError fun f ↦ .fault .value f.text
  | _ => .error (.fault .type "fromisoformat: argument must be str")

/-- The identifier that a text holds, decoration taken off. -/
def identifier : Datum → Except Cause Uuid
  | .text s => (Uuid.ofLooseText s).mapError .malformedId
  | .null => .error (.fault .type "one of the hex, bytes, bytes_le, fields, or int arguments must be given")
  | d => .error (.fault (.named "AttributeError") ("'" ++ d.kindName ++ "' object has no attribute 'replace'"))

/-- The text of a code, whose case will not matter. -/
def code : Datum → Except Cause String
  | .text s => .ok s
  | d => .error (.fault (.named "AttributeError") ("'" ++ d.kindName ++ "' object has no attribute 'upper'"))

/-- The text of a value in which patterns are sought. -/
def searchable : Datum → Except Cause String
  | .text s => .ok s
  | d => .error (.fault .type ("expected string or bytes-like object, got '" ++ d.kindName ++ "'"))

/-- Null, or what a value is brought to. -/
def orNull {α : Type} (convert : Datum → Except Cause α) : Datum → Except Cause (Option α)
  | .null => .ok none
  | d => (convert d).map some

end BundleLedger.Datum
