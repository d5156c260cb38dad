import BundleLedger.Calendar.Date
import BundleLedger.Decimal.Arithmetic
import BundleLedger.Text.Case

/-!
# Currency conversion

Conversion of amounts into a reference currency by dated rates. A rate covers the days from its start
to its end. Of the rates that cover a day the one that starts last applies; an amount without a rate
converts to nothing, which is not zero.
-/

set_option autoImplicit false

namespace BundleLedger

/-- A rate from a currency into the reference currency, with the days it covers. -/
structure Rate where
  currency : String
  start : Date
  finish : Date
  rate : Decimal
deriving DecidableEq, Repr

namespace Rate

def covers (r : Rate) (day : Date) : Bool :=
  r.start ≤ day && day ≤ r.finish

/-- The order of rates by their first day. -/
def startsBefore (a b : Rate) : Bool :=
  a.start ≤ b.start

end Rate

/-- A reference currency with the rates into it. -/
structure Converter where
  reference : String
  rates : List Rate
deriving Repr

namespace Converter

/-- The number of digits after the point of a converted amount. -/
def places : Nat := 6

/-- A converter into a currency, whose code is brought to upper case. -/
def of (reference : String) (rates : List Rate) : Converter where
  reference := Text.upper reference
  rates := rates

/-- The rates of a currency code in upper case by first day; rates of one first day stay in the order
given. -/
def ratesOf (c : Converter) (currency : String) : List Rate :=
  (c.rates.filter fun r ↦ Text.upper r.currency = currency).mergeSort Rate.startsBefore

/-- The last rate that covers a day among rates in the order of their first days; the scan stops at
the first rate that starts later. -/
def scan (day : Date) (found : Option Rate) : List Rate → Option Rate
  | [] => found
  | r :: rest =>
    if day < r.start then found
    else scan day (if day ≤ r.finish then some r else found) rest

/-- The rate that applies to a currency code in upper case on a day. -/
def rateOn (c : Converter) (currency : String) (day : Date) : Option Rate :=
  scan day none (c.ratesOf currency)

/-- An amount at a rate, with six digits after the point. -/
def atRate (amount : Decimal) (r : Rate) : Except Decimal.Fault Decimal :=
  (amount.multiply r.rate).bind (Decimal.quantize places)

/-- The value of an amount in the reference currency. An amount in that currency stays as it is;
without an amount, a currency, a day or a rate there is no value. -/
def convert (c : Converter) (amount : Option Decimal) (currency : Option String) (day : Option Date) :
    Except Decimal.Fault (Option Decimal) :=
  match amount, currency with
  | some amount, some currency =>
    if Text.upper currency = c.reference then .ok (some amount)
    else
      match day with
      | none => .ok none
      | some day =>
        match c.rateOn (Text.upper currency) day with
        | none => .ok none
        | some r => (atRate amount r).map some
  | _, _ => .ok none

theorem convert_none_amount (c : Converter) (currency : Option String) (day : Option Date) :
    c.convert none currency day = .ok none := rfl

theorem convert_none_currency (c : Converter) (amount : Option Decimal) (day : Option Date) :
    c.convert amount none day = .ok none := by
  cases amount <;> rfl

end Converter
end BundleLedger
