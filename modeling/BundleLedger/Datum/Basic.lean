import BundleLedger.Calendar.Timestamp
import BundleLedger.Uuid

/-!
# Values of inputs and answers

Values whose shape is known only when they are looked at: the fields of log records, event envelopes,
token claims, requests and answers. A dictionary keeps its entries in the order of insertion.
-/

set_option autoImplicit false

namespace BundleLedger

/-- A value of a shape not fixed in advance. -/
inductive Datum where
  | null
  | bool (value : Bool)
  | int (value : Int)
  | real (value : Double)
  | text (value : String)
  | uuid (value : Uuid)
  | decimal (value : Decimal)
  | date (value : Date)
  | list (items : List Datum)
  | dict (entries : List (String × Datum))
  /-- An object of any other kind: the name of its kind, how it reads inside another value, and its text. -/
  | object (kind shown text : String)
deriving Inhabited, Repr

namespace Datum

/-- The value of a key among entries. -/
def lookup (entries : List (String × Datum)) (key : String) : Option Datum :=
  (entries.find? (·.1 = key)).map (·.2)

/-- Entries with a key set: in its place if it is there, at the end otherwise. -/
def put (entries : List (String × Datum)) (key : String) (value : Datum) : List (String × Datum) :=
  match entries with
  | [] => [(key, value)]
  | entry :: rest => if entry.1 = key then (key, value) :: rest else entry :: put rest key value

/-- The value of a key, when the datum is a dictionary that has it. -/
def get? : Datum → String → Option Datum
  | .dict entries, key => lookup entries key
  | _, _ => none

/-- The value of a key; null when it is missing. -/
def get (d : Datum) (key : String) : Datum :=
  (d.get? key).getD .null

def isNull : Datum → Bool
  | .null => true
  | _ => false

def text? : Datum → Option String
  | .text s => some s
  | _ => none

def int? : Datum → Option Int
  | .int n => some n
  | _ => none

def bool? : Datum → Option Bool
  | .bool b => some b
  | _ => none

/-- The items of a list; none of anything else. -/
def items : Datum → List Datum
  | .list items => items
  | _ => []

/-- The entries of a dictionary; none of anything else. -/
def entries : Datum → List (String × Datum)
  | .dict entries => entries
  | _ => []

def ofText? (s : Option String) : Datum :=
  match s with
  | some s => .text s
  | none => .null

def ofDate? (d : Option Date) : Datum :=
  match d with
  | some d => .date d
  | none => .null

def ofUuid? (id : Option Uuid) : Datum :=
  match id with
  | some id => .uuid id
  | none => .null

def ofDecimal? (d : Option Decimal) : Datum :=
  match d with
  | some d => .decimal d
  | none => .null

theorem lookup_put_self (entries : List (String × Datum)) (key : String) (value : Datum) :
    lookup (put entries key value) key = some value := by
  induction entries with
  | nil => simp [put, lookup]
  | cons entry rest ih =>
    unfold put
    split
    · simp [lookup]
    · rename_i h
      simpa [lookup, List.find?_cons, h] using ih

theorem lookup_put_of_ne {key other : String} (entries : List (String × Datum)) (value : Datum)
    (h : other ≠ key) : lookup (put entries key value) other = lookup entries other := by
  induction entries with
  | nil => simp [put, lookup, Ne.symm h]
  | cons entry rest ih =>
    unfold put
    split
    · rename_i he
      have hne : entry.1 ≠ other := fun ho ↦ h (ho.symm.trans he)
      simp [lookup, Ne.symm h, hne]
    · by_cases ho : entry.1 = other
      · simp [lookup, ho]
      · simpa [lookup, List.find?_cons, ho] using ih

end Datum
end BundleLedger
