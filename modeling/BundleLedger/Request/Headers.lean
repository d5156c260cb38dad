import BundleLedger.Datum.Display
import BundleLedger.Failure
import BundleLedger.Text.Charset

/-!
# Request headers

Request headers, looked up without regard to the case of their names, and the correlation id that a
caller sends with a request. Headers as they are received go into Latin-1, headers to be sent into ASCII.
-/

set_option autoImplicit false

namespace BundleLedger

/-- Header names with their values, in the order received. -/
abbrev Headers := List (String × String)

namespace Headers

/-- A text of a character set. -/
def encoded (set : Charset) (s : String) : Except Cause String :=
  match set.complaint? s with
  | none => .ok s
  | some complaint => .error (.fault (.named "UnicodeEncodeError") complaint)

/-- The text of a part of a received header. -/
def receivedText : Datum → Except Cause String
  | .text s => encoded .latin s
  | d => .error (.fault (.named "AttributeError") ("'" ++ d.kindName ++ "' object has no attribute 'encode'"))

/-- The value of a header to be sent. -/
def sentText : Datum → Except Cause String
  | .text s => encoded .ascii s
  | d => .error (.fault .type ("Header value must be str or bytes, not <class '" ++ d.kindName ++ "'>"))

/-- A received header: a name and a value. -/
def received (d : Datum) : Except Cause (String × String) :=
  match d.items with
  | [name, value] => return (← receivedText name, ← receivedText value)
  | _ :: _ :: _ => .error (.fault .value "too many values to unpack (expected 2)")
  | items => .error (.fault .value
      ("not enough values to unpack (expected 2, got " ++ Text.natural items.length ++ ")"))

/-- Headers to be sent, by name. -/
def sent (entries : List (String × Datum)) : Except Cause Headers :=
  entries.mapM fun (name, value) ↦ return (← encoded .ascii name, ← sentText value)

/-- The value of the first header of a name given in small letters. -/
def get? (headers : Headers) (name : String) : Option String :=
  (headers.find? fun header ↦ Text.lowerAscii header.1 = name).map (·.2)

/-- The longest correlation id that is taken over. -/
def maxCorrelationLength : Nat := 128

/-- The correlation id of a request, without blanks around it, if it is usable. -/
def correlation? (headers : Headers) : Option String :=
  (headers.get? "x-correlation-id").bind fun value ↦
    let id := Text.strip value
    if id = "" ∨ maxCorrelationLength < id.length then none else some id

end Headers
end BundleLedger
