import BundleLedger.Calendar.Date
import BundleLedger.Double
import BundleLedger.Text.Trim

/-!
# Points in time

Points in time of a day, with or without an offset from universal time: `Moment` is the naive pair
of a day and a time, `Timestamp` adds the offset. The module orders moments, writes both, reads the
accepted text forms, and turns a count of seconds into a moment.
-/

set_option autoImplicit false

namespace BundleLedger

/-- The number of microseconds of a day. -/
def microsPerDay : Nat := 86400000000

/-- A day and a time of day in microseconds, without an offset. -/
structure Moment where
  date : Date
  micros : Fin microsPerDay
deriving DecidableEq, Repr

/-- A moment with an offset from universal time in minutes, when one is known. -/
structure Timestamp where
  moment : Moment
  offset : Option Int
deriving DecidableEq, Repr

namespace Moment

instance : Inhabited Moment := ⟨⟨default, ⟨0, by decide⟩⟩⟩

/-- A number that grows with time. -/
def rank (m : Moment) : Nat :=
  m.date.rank * microsPerDay + m.micros.val

instance : LE Moment := ⟨fun a b ↦ a.rank ≤ b.rank⟩
instance : LT Moment := ⟨fun a b ↦ a.rank < b.rank⟩
instance (a b : Moment) : Decidable (a ≤ b) := inferInstanceAs (Decidable (a.rank ≤ b.rank))
instance (a b : Moment) : Decidable (a < b) := inferInstanceAs (Decidable (a.rank < b.rank))

/-- Moments of equal rank are equal. -/
theorem rank_injective {a b : Moment} (h : a.rank = b.rank) : a = b := by
  obtain ⟨da, ma, hma⟩ := a
  obtain ⟨db, mb, hmb⟩ := b
  simp only [rank, microsPerDay] at h hma hmb
  have hd : da.rank = db.rank := by omega
  have hm : ma = mb := by omega
  have := Date.rank_injective hd
  subst this hm
  rfl

/-- Midnight at the start of a day. -/
def midnight (d : Date) : Moment :=
  ⟨d, ⟨0, by decide⟩⟩

/-- The start of 1970. -/
def epoch : Moment := midnight default

/-- The written form, with a `T` between day and time; microseconds appear when they are not zero,
always with six digits. -/
def text (m : Moment) : String :=
  let micros := m.micros.val
  let seconds := micros / 1000000
  let fraction := micros % 1000000
  m.date.text ++ "T" ++ Text.padded 2 (seconds / 3600) ++ ":" ++
    Text.padded 2 (seconds / 60 % 60) ++ ":" ++ Text.padded 2 (seconds % 60) ++
    (if fraction = 0 then "" else "." ++ Text.padded 6 fraction)

/-- The moment a number of microseconds after the start of 1970. -/
def ofEpochMicros? (micros : Int) : Option Moment :=
  (Date.ofEpochDays? (micros / (microsPerDay : Int))).map fun d ↦
    ⟨d, ⟨(micros % (microsPerDay : Int)).toNat % microsPerDay, Nat.mod_lt _ (by decide)⟩⟩

end Moment

namespace Timestamp

instance : Inhabited Timestamp := ⟨⟨default, none⟩⟩

/-- A moment without an offset. -/
def naive (m : Moment) : Timestamp :=
  ⟨m, none⟩

/-- The offset as written: nothing, `Z` for zero, or hours and minutes with a sign. -/
def offsetText : Option Int → String
  | none => ""
  | some minutes =>
    if minutes = 0 then "Z"
    else
      (if minutes < 0 then "-" else "+") ++ Text.padded 2 (minutes.natAbs / 60) ++ ":" ++
        Text.padded 2 (minutes.natAbs % 60)

/-- The written form. -/
def text (t : Timestamp) : String :=
  t.moment.text ++ offsetText t.offset

/-! ### Reading -/

/-- The characters before the first that is no digit, and the rest. -/
def spanDigits (s : List Char) : List Char × List Char :=
  s.span Text.isAsciiDigit

/-- An offset: `Z`, or a sign, two digits of hours and two of minutes, with or without a colon; less
than a day. -/
def offset? : List Char → Option (Option Int)
  | [] => some none
  | ['Z'] | ['z'] => some (some 0)
  | sign :: h1 :: h2 :: rest => do
    let negative ←
      if sign = '-' ∨ sign = '\u2212' then some true else if sign = '+' then some false else none
    let minutes ← match rest with
      | [':', m1, m2] | [m1, m2] => Text.natural? [m1, m2]
      | _ => none
    let hours ← Text.natural? [h1, h2]
    if 60 ≤ minutes ∨ 24 ≤ hours then none
    else
      let total : Int := hours * 60 + minutes
      some (some (if negative then -total else total))
  | _ => none

/-- A fraction of a second in microseconds; digits after the sixth are cut off. -/
def fraction? (digits : List Char) : Option Nat :=
  if digits.isEmpty then none
  else Text.natural? (digits.take 6 ++ List.replicate (6 - digits.length) '0')

/-- A time of day in microseconds from its numbers, if they are in range. -/
def clock? (hours minutes seconds micros : Nat) : Option (Fin microsPerDay) :=
  if h : hours < 24 ∧ minutes < 60 ∧ seconds < 60 ∧ micros < 1000000 then
    some ⟨((hours * 60 + minutes) * 60 + seconds) * 1000000 + micros, by
      simp only [microsPerDay]; omega⟩
  else none

/-- A time of day: hours and minutes, then seconds and a fraction where present, and what follows. -/
def time? : List Char → Option (Fin microsPerDay × List Char)
  | h1 :: h2 :: ':' :: m1 :: m2 :: rest => do
    let hours ← Text.natural? [h1, h2]
    let minutes ← Text.natural? [m1, m2]
    match rest with
    | ':' :: s1 :: s2 :: rest =>
      let seconds ← Text.natural? [s1, s2]
      match rest with
      | mark :: after =>
        if mark = '.' ∨ mark = ',' then
          let (digits, tail) := spanDigits after
          return (← clock? hours minutes seconds (← fraction? digits), tail)
        else return (← clock? hours minutes seconds 0, rest)
      | [] => return (← clock? hours minutes seconds 0, [])
    | _ => return (← clock? hours minutes 0 0, rest)
  | _ => none

/-- A day, one of `T`, `t`, blank and underscore, a time and an offset. -/
def ofChars? (s : List Char) : Option Timestamp := do
  let date ← Date.ofChars? (s.take 10)
  match s.drop 10 with
  | mark :: rest =>
    if mark ∈ ['T', 't', ' ', '_'] then
      let (micros, tail) ← time? rest
      return ⟨⟨date, micros⟩, ← offset? tail⟩
    else none
  | [] => none

/-- The point in time a text names; a day alone stands for its midnight. -/
def ofText? (s : String) : Option Timestamp :=
  match Date.ofText? s with
  | some date => some (naive (Moment.midnight date))
  | none => ofChars? s.toList

end Timestamp

/-! ### Seconds since 1970 -/

/-- A size in seconds as whole seconds and microseconds: the fraction is multiplied in the binary
format and rounded, a tie to the even number. -/
def splitSeconds (mantissa : Nat) (exponent : Int) : Nat × Nat :=
  let (n, d) := Double.ratio mantissa exponent
  match Double.nearest false (n % d * 1000000) d with
  | .finite _ m e =>
    let (fn, fd) := Double.ratio m e
    (n / d, Double.roundRatio fn fd)
  | _ => (n / d, 0)

/-- A number of seconds as whole seconds and microseconds above them. -/
def secondsAndMicros (negative : Bool) (mantissa : Nat) (exponent : Int) : Int × Nat :=
  let (whole, micros) := splitSeconds mantissa exponent
  let total : Int := whole * 1000000 + micros
  let signed := if negative then -total else total
  (signed / 1000000, (signed % 1000000).toNat)

end BundleLedger
