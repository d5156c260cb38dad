import BundleLedger.Text.Numeral

/-!
# Days

Days of the Gregorian calendar in the years 1 to 9999, their order, their text `YYYY-MM-DD`, and the
count of days that ties them to instants.
-/

set_option autoImplicit false

namespace BundleLedger

namespace Calendar

def isLeapYear (year : Nat) : Bool :=
  year % 4 == 0 && (year % 100 != 0 || year % 400 == 0)

/-- The number of days of a month; zero if there is no such month. -/
def monthLength (year month : Nat) : Nat :=
  match month with
  | 1 | 3 | 5 | 7 | 8 | 10 | 12 => 31
  | 4 | 6 | 9 | 11 => 30
  | 2 => if isLeapYear year then 29 else 28
  | _ => 0

/-- Whether a year, a month and a day name a day of the calendar. -/
def isDay (year month day : Nat) : Bool :=
  1 ≤ year && year ≤ 9999 && 1 ≤ day && day ≤ monthLength year month

theorem monthLength_le (year month : Nat) : monthLength year month ≤ 31 := by
  unfold monthLength
  split <;> first | omega | (split <;> omega)

theorem month_le_of_monthLength_pos {year month : Nat} (h : 0 < monthLength year month) :
    1 ≤ month ∧ month ≤ 12 := by
  unfold monthLength at h
  split at h <;> omega

end Calendar

/-- A day of the calendar. -/
structure Date where
  year : Nat
  month : Nat
  day : Nat
  isDay : Calendar.isDay year month day = true
deriving DecidableEq, Repr

namespace Date

instance : Inhabited Date := ⟨⟨1970, 1, 1, by decide⟩⟩

/-- The day with these numbers, if there is one. -/
def of? (year month day : Nat) : Option Date :=
  if h : Calendar.isDay year month day = true then some ⟨year, month, day, h⟩ else none

/-- A number that grows with the day; months and days fit below 16 and 32. -/
def rank (d : Date) : Nat :=
  (d.year * 16 + d.month) * 32 + d.day

instance : LE Date := ⟨fun a b ↦ a.rank ≤ b.rank⟩
instance : LT Date := ⟨fun a b ↦ a.rank < b.rank⟩
instance (a b : Date) : Decidable (a ≤ b) := inferInstanceAs (Decidable (a.rank ≤ b.rank))
instance (a b : Date) : Decidable (a < b) := inferInstanceAs (Decidable (a.rank < b.rank))

theorem le_iff (a b : Date) : a ≤ b ↔ a.rank ≤ b.rank := Iff.rfl

theorem lt_iff (a b : Date) : a < b ↔ a.rank < b.rank := Iff.rfl

theorem bounds (d : Date) : 1 ≤ d.month ∧ d.month ≤ 12 ∧ 1 ≤ d.day ∧ d.day ≤ 31 := by
  have h := d.isDay
  simp only [Calendar.isDay, Bool.and_eq_true, decide_eq_true_eq] at h
  have hm : 1 ≤ d.month ∧ d.month ≤ 12 := @Calendar.month_le_of_monthLength_pos d.year d.month (by omega)
  have hl := Calendar.monthLength_le d.year d.month
  omega

/-- Days of equal rank are equal. -/
theorem rank_injective {a b : Date} (h : a.rank = b.rank) : a = b := by
  have ha := a.bounds
  have hb := b.bounds
  obtain ⟨ya, ma, da, pa⟩ := a
  obtain ⟨yb, mb, db, pb⟩ := b
  simp only [rank] at h ha hb
  have hd : da = db := by omega
  have hm : ma = mb := by omega
  have hy : ya = yb := by omega
  subst hd hm hy
  rfl

/-- The written form `YYYY-MM-DD`. -/
def text (d : Date) : String :=
  Text.padded 4 d.year ++ "-" ++ Text.padded 2 d.month ++ "-" ++ Text.padded 2 d.day

/-- A day from characters of the form `YYYY-MM-DD`. -/
def ofChars? : List Char → Option Date
  | [y1, y2, y3, y4, '-', m1, m2, '-', d1, d2] => do
    of? (← Text.natural? [y1, y2, y3, y4]) (← Text.natural? [m1, m2]) (← Text.natural? [d1, d2])
  | _ => none

/-- The day a text of the form `YYYY-MM-DD` names. -/
def ofText? (s : String) : Option Date :=
  ofChars? s.toList

/-! ### Counting days -/

/-- Year, month and day of the day that comes `days` after 1 January 1970, with years starting in March so
that the leap day ends one: 400 years have 146097 days. The year before year 1 is year 0. -/
def numbersOfEpochDays (days : Int) : Int × Int × Int :=
  let shifted := days + 719468
  let era := shifted / 146097
  let dayOfEra := shifted % 146097
  let yearOfEra := (dayOfEra - dayOfEra / 1460 + dayOfEra / 36524 - dayOfEra / 146096) / 365
  let dayOfYear := dayOfEra - (365 * yearOfEra + yearOfEra / 4 - yearOfEra / 100)
  let marchMonth := (5 * dayOfYear + 2) / 153
  let day := dayOfYear - (153 * marchMonth + 2) / 5 + 1
  let month := if marchMonth < 10 then marchMonth + 3 else marchMonth - 9
  (yearOfEra + era * 400 + (if month ≤ 2 then 1 else 0), month, day)

/-- The day that comes `days` after 1 January 1970; none outside the years 1 to 9999. -/
def ofEpochDays? (days : Int) : Option Date :=
  let (year, month, day) := numbersOfEpochDays days
  if 1 ≤ year then of? year.toNat month.toNat day.toNat else none

end Date
end BundleLedger
