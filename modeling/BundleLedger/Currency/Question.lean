import BundleLedger.Currency
import BundleLedger.Datum.Conversion

/-!
# Converters and questions from given values

A converter may be given as a reference currency and rates of any shape. First the days and the rates are read,
then the codes; the first value that does not fit is the failure. A question asks a converter for the value of
an amount in a currency on a day, each of which may be missing.
-/

set_option autoImplicit false

namespace BundleLedger

/-- The days and the rate of a given rate, with the value for its currency. -/
def Rate.terms (d : Datum) : Except Cause (Datum × Date × Date × Decimal) := do
  let currency ← d.field "currency"
  let start ← (← d.field "start_date").day
  let finish ← (← d.field "end_date").day
  return (currency, start, finish, ← (← d.field "reference_rate").numeral)

/-- The rate of some terms, if the value for the currency is a code. -/
def Rate.ofTerms : Datum × Date × Date × Decimal → Except Cause Rate
  | (currency, start, finish, rate) => return ⟨← currency.code, start, finish, rate⟩

/-- The converter of a reference currency and given rates. -/
def Converter.read (reference : Datum) (rates : List Datum) : Except Cause Converter := do
  let terms ← rates.mapM Rate.terms
  let reference ← reference.code
  return .of reference (← terms.mapM Rate.ofTerms)

/-- What a converter is asked. -/
structure Question where
  amount : Option Decimal
  currency : Datum
  day : Option Date

namespace Question

/-- The question in a list of amount, currency and day; what is not there is missing. -/
def read (d : Datum) : Except Cause Question := do
  let items := d.items
  let item (index : Nat) : Datum := items.getD index .null
  return ⟨← (item 0).orNull Datum.numeral, item 1, ← (item 2).orNull Datum.day⟩

/-- The answer of a converter. -/
def answer (q : Question) (c : Converter) : Except Cause (Option Decimal) :=
  match q.amount, q.currency with
  | none, _ | _, .null => .ok none
  | some amount, currency => do
    let currency ← currency.code
    (c.convert (some amount) (some currency) q.day).mapError .arithmetic

end Question
end BundleLedger
