import BundleLedger.Datum.Basic
import BundleLedger.Text.Quoted

/-!
# How values read in messages

Values as they read in messages: a text stands for itself at the top and in quotes inside another
value; the remaining kinds have one spelling each.
-/

set_option autoImplicit false

namespace BundleLedger.Datum

/-- Pieces with a comma and a blank between. -/
def listed : List String → String
  | [] => ""
  | [piece] => piece
  | piece :: rest => piece ++ ", " ++ listed rest

/-- A day by its numbers. -/
def displayDate (d : Date) : String :=
  "datetime.date(" ++ Text.natural d.year ++ ", " ++ Text.natural d.month ++ ", " ++
    Text.natural d.day ++ ")"

mutual

/-- A value as it reads inside another value. -/
def display : Datum → String
  | .null => "None"
  | .bool true => "True"
  | .bool false => "False"
  | .int n => Text.integer n
  | .real x => x.text
  | .text s => Text.quoted s
  | .uuid id => "UUID('" ++ id.text ++ "')"
  | .decimal d => "Decimal('" ++ d.text ++ "')"
  | .date d => displayDate d
  | .list items => "[" ++ listed (displayItems items) ++ "]"
  | .dict entries => "\x7b" ++ listed (displayEntries entries) ++ "\x7d"
  | .object _ shown _ => shown

/-- Items as they read inside a list. -/
def displayItems : List Datum → List String
  | [] => []
  | item :: rest => display item :: displayItems rest

/-- Entries as they read inside a dictionary. -/
def displayEntries : List (String × Datum) → List String
  | [] => []
  | (key, value) :: rest => (Text.quoted key ++ ": " ++ display value) :: displayEntries rest

end

/-- A value as it reads by itself. -/
def plain : Datum → String
  | .text s => s
  | .uuid id => id.text
  | .decimal d => d.text
  | .date d => d.text
  | .object _ _ spelling => spelling
  | d => d.display

/-- Whether a value counts as something: not null, false, zero, or empty. -/
def isTruthy : Datum → Bool
  | .null => false
  | .bool b => b
  | .int n => n != 0
  | .real (.finite _ mantissa _) => mantissa != 0
  | .real _ => true
  | .text s => s != ""
  | .decimal (.finite _ coefficient _) => coefficient != 0
  | .list items => !items.isEmpty
  | .dict entries => !entries.isEmpty
  | _ => true

/-- The name of the kind of a value. -/
def kindName : Datum → String
  | .null => "NoneType"
  | .bool _ => "bool"
  | .int _ => "int"
  | .real _ => "float"
  | .text _ => "str"
  | .uuid _ => "UUID"
  | .decimal _ => "decimal.Decimal"
  | .date _ => "datetime.date"
  | .list _ => "list"
  | .dict _ => "dict"
  | .object kind _ _ => kind

end BundleLedger.Datum
