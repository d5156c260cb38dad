import BundleLedger.Datum.Basic
import BundleLedger.Text.Escaped

/-!
# Writing values

Values in the data-interchange notation, in ASCII and on one line. Values that the notation does not
have are written as strings of their text.
-/

set_option autoImplicit false

namespace BundleLedger.Datum

/-- Items with commas between. -/
def commaSeparated : List (List Char) → List Char
  | [] => []
  | [item] => item
  | item :: rest => item ++ ',' :: ' ' :: commaSeparated rest

mutual

/-- The written form of a value. -/
def json : Datum → List Char
  | .null => "null".toList
  | .bool true => "true".toList
  | .bool false => "false".toList
  | .int n => (Text.integer n).toList
  | .real x => (x.textWith "Infinity" "NaN").toList
  | .text s => Text.escaped s
  | .uuid id => Text.escaped id.text
  | .decimal d => Text.escaped d.text
  | .date d => Text.escaped d.text
  | .list items => '[' :: (commaSeparated (jsonItems items) ++ [']'])
  | .dict entries => '\x7b' :: (commaSeparated (jsonEntries entries) ++ ['\x7d'])
  | .object _ _ spelling => Text.escaped spelling

/-- The written forms of list items. -/
def jsonItems : List Datum → List (List Char)
  | [] => []
  | item :: rest => json item :: jsonItems rest

/-- The written forms of dictionary entries. -/
def jsonEntries : List (String × Datum) → List (List Char)
  | [] => []
  | (key, value) :: rest => (Text.escaped key ++ ':' :: ' ' :: json value) :: jsonEntries rest

end

/-- The written form of a value as a text. -/
def jsonText (d : Datum) : String :=
  String.ofList d.json

end BundleLedger.Datum
