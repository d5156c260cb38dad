import BundleLedger.Calendar.Timestamp
import BundleLedger.Validation.Spelling

/-!
# Instants from numbers and texts

Points in time as fields take them: the written form, or a count of seconds since 1970, which is one of
milliseconds when it is larger than twenty thousand million. A year 0 can be read but has no day in the
calendar, and is told from what cannot be read.
-/

set_option autoImplicit false

namespace BundleLedger

/-- What a number or a text says about a point in time. -/
inductive Instant where
  | point (t : Timestamp)
  /-- A point in the year before year 1, at midnight or not. -/
  | inYearZero (midnight : Bool)
  | unreadable
deriving DecidableEq, Repr

namespace Instant

/-- The first count of seconds that is one of milliseconds is above this one. -/
def secondsLimit : Nat := 20000000000

/-- Days from the start of year 0 to the start of 1970. -/
def daysFromYearZero : Int := 719528

/-- The point in time a number of microseconds after the start of 1970, in universal time. -/
def ofMicros (micros : Int) : Instant :=
  let day : Int := microsPerDay
  match Moment.ofEpochMicros? micros with
  | some m => .point ⟨m, some 0⟩
  | none =>
    if -daysFromYearZero * day ≤ micros ∧ micros < (366 - daysFromYearZero) * day then
      .inYearZero (micros % day = 0)
    else .unreadable

/-- The point in time of a whole number. -/
def ofInt (count : Int) : Instant :=
  ofMicros (if count.natAbs ≤ secondsLimit then count * 1000000 else count * 1000)

/-- A binary number cut at the largest integer not above it: that integer, and the rest in
microseconds, where both the rest and its multiple are rounded to binary numbers and the multiple then to
an integer, a tie upward. -/
def wholeAndMicros (negative : Bool) (mantissa : Nat) (exponent : Int) : Int × Nat :=
  let (n, d) := Double.ratio mantissa exponent
  let signed : Int := if negative then -Int.ofNat n else Int.ofNat n
  let whole := signed / (d : Int)
  let scaled := match Double.nearest false (signed % (d : Int)).toNat d with
    | .finite _ m e =>
      let (rest, unit) := Double.ratio m e
      Double.nearest false (rest * 1000000) unit
    | x => x
  match scaled with
  | .finite _ m e =>
    let (micros, unit) := Double.ratio m e
    (whole, (2 * micros + unit) / (2 * unit))
  | _ => (whole, 0)

/-- The point in time of a number of seconds. -/
def ofSeconds : Double → Instant
  | .finite negative mantissa exponent =>
    let (whole, micros) := wholeAndMicros negative mantissa exponent
    ofMicros (whole * 1000000 + micros)
  | _ => .unreadable

/-- The point in time of a binary number; one of milliseconds is divided first. -/
def ofReal : Double → Instant
  | .finite negative mantissa exponent =>
    let (n, d) := Double.ratio mantissa exponent
    if n ≤ secondsLimit * d then ofSeconds (.finite negative mantissa exponent)
    else ofSeconds (Double.nearest negative n (d * 1000))
  | _ => .unreadable

/-- The point in time of a count in a text: a sign and digits, and a binary number if a point follows
the digits. -/
def ofCount (s : List Char) : Instant :=
  let (negative, digits) := Decimal.splitSign s
  match digits.dropWhile Text.isAsciiDigit with
  | [] =>
    match Text.natural? digits with
    | some n => ofInt (if negative then -Int.ofNat n else Int.ofNat n)
    | none => .unreadable
  | '.' :: _ =>
    match Spelling.realChars? s with
    | some x => ofReal x
    | none => .unreadable
  | _ => .unreadable

/-- The point in time a text names: its written form, or a count. Year 0 has the months of year
2000. -/
def ofText (s : String) : Instant :=
  match Timestamp.ofText? s with
  | some t => .point t
  | none =>
    match s.toList with
    | '0' :: '0' :: '0' :: '0' :: rest =>
      match Timestamp.ofText? (String.ofList ('2' :: '0' :: '0' :: '0' :: rest)) with
      | some t => .inYearZero (t.moment.micros.val = 0)
      | none => ofCount s.toList
    | characters => ofCount characters

end Instant
end BundleLedger
