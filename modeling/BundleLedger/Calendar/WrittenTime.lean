import BundleLedger.Calendar.Timestamp
import BundleLedger.Calendar.WrittenDay

/-!
# Points in time as people write them

A written day, any one character, and a time of day, after which an offset from universal time may follow.
The time has hours, then minutes, seconds and a fraction as far as they are given, with colons between all
of them or none. Where a week is written, the character between day and time is found by counting digits. In
front of an offset a character too many is passed over.
-/

set_option autoImplicit false

namespace BundleLedger

/-- Why a text names no point in time. -/
inductive TimeFault where
  | malformed (text : String)
  | day (fault : DayFault)
  | hour
  | minute
  | second
  /-- The offset, in microseconds, is a day or more. -/
  | offset (micros : Int)
deriving DecidableEq, Repr

/-- A length of time as it reads in a message: days, which alone may be negative, seconds and microseconds, as
far as they are not zero. -/
def lengthText (micros : Int) : String :=
  let day : Int := microsPerDay
  let parts := [("days=", micros / day), ("seconds=", micros % day / 1000000),
    ("microseconds=", micros % 1000000)]
  "datetime.timedelta(" ++
    String.intercalate ", " ((parts.filter fun part ↦ part.2 ≠ 0).map fun (name, n) ↦
      name ++ Text.integer n) ++ ")"

def TimeFault.text : TimeFault → String
  | .malformed text => (DayFault.malformed text).text
  | .day fault => fault.text
  | .hour => "hour must be in 0..23"
  | .minute => "minute must be in 0..59"
  | .second => "second must be in 0..59"
  | .offset micros =>
    "offset must be a timedelta strictly between -timedelta(hours=24) and timedelta(hours=24), not " ++
      lengthText micros ++ "."

/-- The numbers of a time of day. -/
structure ClockNumbers where
  hours : Nat
  minutes : Nat
  seconds : Nat
  micros : Nat
deriving DecidableEq, Repr

namespace ClockNumbers

/-- A part of a time: two digits, and what follows. -/
def pair? : List Char → Option (Nat × List Char)
  | a :: b :: rest => (Text.natural? [a, b]).map (·, rest)
  | _ => none

/-- A fraction of a second: up to six digits, or six that others may follow, and whether something that is no
digit follows. -/
def fraction? (s : List Char) : Option (Nat × Bool) := do
  let micros ← Timestamp.fraction? (s.take 6)
  return (micros, ((s.drop 6).dropWhile Text.isAsciiDigit) ≠ [])

/-- What follows the parts that have been read. -/
inductive Tail where
  | parts (rest : List Char)
  | fraction (digits : List Char)

/-- The next part follows a colon, or at once if the parts have no colons; a fraction follows a point or a
comma. -/
def tail? (colons : Bool) (c : Char) (rest : List Char) : Option Tail :=
  if colons ∧ c = ':' then some (.parts rest)
  else if c = '.' ∨ c = ',' then some (.fraction rest)
  else if colons then none
  else some (.parts (c :: rest))

/-- The parts after those that have been read, and whether something is left over: a single character after a
part, or what follows a fraction. After the last part there can only be a fraction, whatever stands in front
of it. -/
def more? (colons : Bool) (read : List Nat) (left : Nat) : List Char → Option (List Nat × Nat × Bool)
  | [] => some (read, 0, false)
  | [c] => if c.toNat < 128 then some (read, 0, true) else none
  | c :: rest => do
    match ← tail? colons c rest, left with
    | .fraction digits, _ | .parts digits, 0 => return (read, ← fraction? digits)
    | .parts rest, left + 1 =>
      let (part, rest) ← pair? rest
      more? colons (read ++ [part]) left rest
termination_by left

/-- The numbers in characters, and whether something is left over. -/
def ofChars? (s : List Char) : Option (ClockNumbers × Bool) := do
  let (hours, rest) ← pair? s
  let (parts, micros, leftOver) ← more? (rest.head? = some ':') [hours] 2 rest
  return (⟨parts.getD 0 0, parts.getD 1 0, parts.getD 2 0, micros⟩, leftOver)

end ClockNumbers

namespace Timestamp

/-- The bytes of a written day in front of a time, by the form of the day. -/
def dayLength (s : List Char) : Nat :=
  let digitsFrom (start : Nat) : Nat := start + ((s.drop start).takeWhile Text.isAsciiDigit).length
  if (String.ofList s).utf8ByteSize = 7 then 7
  else if s[4]? = some '-' then
    if s[5]? = some 'W' then
      if s[8]? = some '-' then
        if (s[10]?.map Text.isAsciiDigit).getD false then 8 else 10
      else 8
    else 10
  else if s[4]? = some 'W' then
    let stop := digitsFrom 7
    if stop < 9 then stop else if stop % 2 = 0 then 7 else 8
  else 8

/-- A time in front of an offset, and the offset. -/
def splitOffset (s : List Char) : List Char × List Char :=
  s.span fun c ↦ c ≠ '+' && c ≠ '-' && c ≠ 'Z'

/-- The offset in microseconds; none if the characters are no offset. -/
def offsetMicros? : List Char → Option (Option Int)
  | [] => some none
  | ['Z'] => some (some 0)
  | sign :: rest =>
    if sign = 'Z' then none
    else
      match ClockNumbers.ofChars? rest with
      | some (c, false) =>
        let size : Int := (c.hours * 3600 + c.minutes * 60 + c.seconds) * 1000000 + c.micros
        some (some (if sign = '-' then -size else size))
      | _ => none

/-- The time of day of some numbers, or the first of them that is out of range. -/
def clockOf (c : ClockNumbers) : Except TimeFault (Fin microsPerDay) :=
  match clock? c.hours c.minutes c.seconds c.micros with
  | some time => .ok time
  | none => .error (if 24 ≤ c.hours then .hour else if 60 ≤ c.minutes then .minute else .second)

/-- The moment that a text names; an offset is read and forgotten. -/
def readMoment (s : String) : Except TimeFault Moment := do
  let malformed : TimeFault := .malformed s
  let characters := s.toList
  let length := dayLength characters
  let day := Date.read (String.ofList (characters.take length))
  if let .error (.malformed _) := day then .error malformed
  else
    let (time, offset) ← match characters.drop length with
      | [] => .ok (⟨0, 0, 0, 0⟩, none)
      | _ :: rest =>
        let (time, offset) := splitOffset rest
        match ClockNumbers.ofChars? time, offsetMicros? offset with
        | some (time, leftOver), some offset =>
          if leftOver ∧ offset = none then .error malformed else .ok (time, offset)
        | _, _ => .error malformed
    if microsPerDay ≤ (offset.getD 0).natAbs then .error (.offset (offset.getD 0))
    else return ⟨← day.mapError .day, ← clockOf time⟩

end Timestamp
end BundleLedger
