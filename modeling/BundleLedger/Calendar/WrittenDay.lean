import BundleLedger.Calendar.Date
import BundleLedger.Text.Quoted

/-!
# Days as people write them

Besides `YYYY-MM-DD` a day may be written without hyphens, or by its week: `YYYY-Www` and `YYYY-Www-D`, again
with or without hyphens, the weeks of a year starting on Mondays and the first of them holding the first
Thursday. A text of another form is malformed; numbers that name no day are told apart by which of them is
out of range.
-/

set_option autoImplicit false

namespace BundleLedger

namespace Calendar

/-- The number of days from the start of year 1 to the start of a year. -/
def daysBefore (year : Nat) : Nat :=
  let passed := year - 1
  passed * 365 + passed / 4 - passed / 100 + passed / 400

/-- The day of the week on which a year starts, counted from Monday. -/
def firstWeekday (year : Nat) : Nat :=
  daysBefore year % 7

/-- The number of weeks of a year. -/
def weeksOf (year : Nat) : Nat :=
  if firstWeekday year = 3 ∨ (firstWeekday year = 2 ∧ isLeapYear year) then 53 else 52

/-- The first Monday of the weeks of a year, in days after 1 January 1970. -/
def firstMonday (year : Nat) : Int :=
  let monday : Int := daysBefore year - firstWeekday year
  (if 3 < firstWeekday year then monday + 7 else monday) - 719162

end Calendar

/-- Why a text names no day. -/
inductive DayFault where
  | malformed (text : String)
  | year (year : Nat)
  | month
  | day
deriving DecidableEq, Repr

def DayFault.text : DayFault → String
  | .malformed text => "Invalid isoformat string: " ++ Text.quoted text
  | .year n => "year " ++ Text.natural n ++ " is out of range"
  | .month => "month must be in 1..12"
  | .day => "day is out of range for month"

/-- The numbers in a written day. -/
inductive DayNumbers where
  | calendar (year month day : Nat)
  | week (year week weekday : Nat)
deriving DecidableEq, Repr

namespace DayNumbers

/-- What follows the week: a digit for the day of the week, Monday if there is none. -/
def weekday? (hyphens : Bool) (rest : List Char) : Option Nat :=
  match hyphens, rest with
  | _, [] => some 1
  | true, '-' :: digit :: _ | false, digit :: _ => Text.natural? [digit]
  | _, _ => none

/-- What follows the month: the day. -/
def day? (hyphens : Bool) (rest : List Char) : Option Nat :=
  match hyphens, rest with
  | true, ['-', d1, d2] | false, [d1, d2] => Text.natural? [d1, d2]
  | _, _ => none

/-- The numbers in characters, with hyphens between all parts or none. -/
def ofChars? : List Char → Option DayNumbers
  | y1 :: y2 :: y3 :: y4 :: rest => do
    let year ← Text.natural? [y1, y2, y3, y4]
    let hyphens := rest.head? = some '-'
    match if hyphens then rest.drop 1 else rest with
    | 'W' :: w1 :: w2 :: rest => return .week year (← Text.natural? [w1, w2]) (← weekday? hyphens rest)
    | m1 :: m2 :: rest => return .calendar year (← Text.natural? [m1, m2]) (← day? hyphens rest)
    | _ => none
  | _ => none

end DayNumbers

namespace Date

/-- The day with these numbers, or the first of them that is out of range. -/
def ofNumbers (year month day : Nat) : Except DayFault Date :=
  match of? year month day with
  | some d => .ok d
  | none =>
    .error
      (if year = 0 ∨ 9999 < year then .year year
        else if month = 0 ∨ 12 < month then .month
        else .day)

/-- The day of a week of a year; none if the year has no such week or the week no such day. Year 0 has
weeks without days in any month. -/
def ofWeek? (year week weekday : Nat) : Option (Except DayFault Date) :=
  if week = 0 ∨ Calendar.weeksOf year < week ∨ weekday = 0 ∨ 7 < weekday then none
  else if year = 0 then some (.error .month)
  else
    let (year, month, day) :=
      numbersOfEpochDays (Calendar.firstMonday year + ((week - 1) * 7 + (weekday - 1) : Nat))
    some (ofNumbers year.toNat month.toNat day.toNat)

/-- The lengths in bytes that a written day may have. -/
def writtenLengths : List Nat := [7, 8, 10]

/-- The day that a text names. -/
def read (s : String) : Except DayFault Date :=
  let numbers := if s.utf8ByteSize ∈ writtenLengths then DayNumbers.ofChars? s.toList else none
  match numbers with
  | some (.calendar year month day) => ofNumbers year month day
  | some (.week year week weekday) => (ofWeek? year week weekday).getD (.error (.malformed s))
  | none => .error (.malformed s)

end Date
end BundleLedger
