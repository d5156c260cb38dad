/-!
# Validation

Results of reading a record: the record, or every complaint about its fields in the order in which the
fields are declared. Reading one field never hides the complaints about the next.
-/

set_option autoImplicit false

namespace BundleLedger

/-- What is wrong with one field. -/
inductive Issue where
  | missing
  | uuidType | uuidParsing
  | stringType
  | intType | intParsing | intParsingSize | intFromFloat | greaterThanEqual
  | floatType | floatParsing
  | boolType | boolParsing
  | decimalType | decimalParsing | finiteNumber
  | dateType | dateParsing | dateFromDatetime | dateInexact
  | datetimeType | datetimeParsing | datetimeFromDate
  | listType | tupleType | dictType
  | literal
  | attributes | modelType
  | frozen | extraForbidden
deriving DecidableEq, Repr

/-- The name of an issue in answers. -/
def Issue.code : Issue → String
  | .missing => "missing"
  | .uuidType => "uuid_type"
  | .uuidParsing => "uuid_parsing"
  | .stringType => "string_type"
  | .intType => "int_type"
  | .intParsing => "int_parsing"
  | .intFromFloat => "int_from_float"
  | .intParsingSize => "int_parsing_size"
  | .greaterThanEqual => "greater_than_equal"
  | .floatType => "float_type"
  | .floatParsing => "float_parsing"
  | .boolType => "bool_type"
  | .boolParsing => "bool_parsing"
  | .decimalType => "decimal_type"
  | .decimalParsing => "decimal_parsing"
  | .finiteNumber => "finite_number"
  | .dateType => "date_type"
  | .dateParsing => "date_parsing"
  | .dateFromDatetime => "date_from_datetime_parsing"
  | .dateInexact => "date_from_datetime_inexact"
  | .datetimeType => "datetime_type"
  | .datetimeParsing => "datetime_parsing"
  | .datetimeFromDate => "datetime_from_date_parsing"
  | .listType => "list_type"
  | .tupleType => "tuple_type"
  | .dictType => "dict_type"
  | .literal => "literal_error"
  | .attributes => "model_attributes_type"
  | .modelType => "model_type"
  | .frozen => "frozen_instance"
  | .extraForbidden => "extra_forbidden"

/-- A complaint: the way from the record to the field, and what is wrong there. -/
structure FieldError where
  location : List String
  issue : Issue
deriving DecidableEq, Repr

/-- A value, or at least one complaint. -/
inductive Validated (α : Type) where
  | ok (value : α)
  | invalid (first : FieldError) (others : List FieldError)
deriving Repr

namespace Validated

variable {α β : Type}

/-- All complaints; none of a value. -/
def errors : Validated α → List FieldError
  | .ok _ => []
  | .invalid first others => first :: others

def map (f : α → β) : Validated α → Validated β
  | .ok value => .ok (f value)
  | .invalid first others => .invalid first others

/-- A function applied to a value, both possibly with complaints; those about the function come
first. -/
def apply (f : Validated (α → β)) (x : Unit → Validated α) : Validated β :=
  match f with
  | .ok f => (x ()).map f
  | .invalid first others => .invalid first (others ++ (x ()).errors)

instance : Functor Validated where
  map := map

instance : Applicative Validated where
  pure := .ok
  seq := apply

/-- A complaint about the value itself. -/
def issue (i : Issue) : Validated α :=
  .invalid ⟨[], i⟩ []

/-- The complaints of a part, located inside the whole. -/
def within (segment : String) : Validated α → Validated α
  | .ok value => .ok value
  | .invalid first others =>
    let inside (e : FieldError) : FieldError := ⟨segment :: e.location, e.issue⟩
    .invalid (inside first) (others.map inside)

/-- The result of reading one value, with its issue as a complaint. -/
def ofReading : Except Issue α → Validated α
  | .ok value => .ok value
  | .error i => issue i

/-- A list of results as one result. -/
def sequence : List (Validated α) → Validated (List α)
  | [] => .ok []
  | x :: rest => (x.map List.cons).apply fun _ ↦ sequence rest

end Validated
end BundleLedger
