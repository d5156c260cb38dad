import BundleLedger.Datum.Conversion
import BundleLedger.Store.Fixed
import BundleLedger.Validation.Field

/-!
# Cells and columns

A row as a list of named cells, for statements that name columns at run time. A column has a kind, by which
values are read into cells, and a value for rows that do not give one.
-/

set_option autoImplicit false

namespace BundleLedger

/-- The value of one column of one row. -/
inductive Cell where
  | null
  | bool (value : Bool)
  | int (value : Int)
  | text (value : String)
  | uuid (value : Uuid)
  | date (value : Date)
  | moment (value : Moment)
  | amount (value : Amount)
  | rate (value : StoredRate)
deriving DecidableEq, Repr

/-- The kind of the values of a column. -/
inductive CellKind where
  | bool | int | text | uuid | date | moment | amount | rate
deriving DecidableEq, Repr

namespace Cell

/-- The cell of a numeral, by the cell of its stored form; what is not a number has none and is null. -/
def ofNumeral {places : Nat} (write : Fixed places → Cell) (d : Decimal) : Cell :=
  ((Fixed.ofDecimal? d).map write).getD .null

/-- The cell of an integer, which must fit 64 bits. -/
def ofInt (n : Int) : Except Cause Cell :=
  if -Int.ofNat Field.wordBound ≤ n ∧ n < Field.wordBound then .ok (.int n)
  else .error (.fault .overflow "integer too large for a column")

/-- The integer that a text stands for in a column of integers. -/
def integer? (s : String) : Option Int := do
  let characters := Text.trimBy (· = ' ') s.toList
  if !(characters.all fun c ↦ c.toNat < 128 && c ≠ '_') then none
  let .finite negative coefficient exponent ← Decimal.ofText? (String.ofList characters) | none
  let n ← (Double.ofNumeral negative coefficient exponent).toInt?
  if n.natAbs < Field.wordBound then some n else none

/-- The cell of an integer, if there is one. -/
def ofInteger? : Option Int → Except Cause Cell
  | some n => .ok (.int n)
  | none => .error (.database .integrity)

/-- The cell that a value makes in a column of a kind. Numbers stand for texts and texts for numbers; points in
time lose their offset. -/
def ofDatum : CellKind → Datum → Except Cause Cell
  | _, .null => .ok .null
  | .bool, .bool b => .ok (.bool b)
  | .bool, .int 0 => .ok (.bool false)
  | .bool, .int 1 => .ok (.bool true)
  | .bool, _ => .error (.database .statement)
  | .int, .int n => ofInt n
  | .int, .bool b => .ok (.int (if b then 1 else 0))
  | .int, .real x => ofInteger? x.toInt?
  | .int, .text s => ofInteger? (integer? s)
  | .text, .text s => .ok (.text s)
  | .text, .int n => .ok (.text (Text.integer n))
  | .text, .bool b => .ok (.text (if b then "1" else "0"))
  | .text, .real x => .ok (.text x.text)
  | .uuid, d => d.identifier.map .uuid
  | .date, d => d.day.map .date
  | .moment, d => d.moment.map .moment
  | .amount, d => d.numeral.map (ofNumeral .amount)
  | .rate, d => d.numeral.map (ofNumeral .rate)
  | _, _ => .error (.database .integrity)

/-! ### Reading typed values -/

def bool? : Cell → Option Bool
  | .bool b => some b
  | _ => none

def int? : Cell → Option Int
  | .int n => some n
  | _ => none

def text? : Cell → Option String
  | .text s => some s
  | _ => none

def uuid? : Cell → Option Uuid
  | .uuid id => some id
  | _ => none

def date? : Cell → Option Date
  | .date d => some d
  | _ => none

def moment? : Cell → Option Moment
  | .moment m => some m
  | _ => none

def amount? : Cell → Option Amount
  | .amount a => some a
  | _ => none

def rate? : Cell → Option StoredRate
  | .rate r => some r
  | _ => none

/-- Null, or a typed value. -/
def orNull {α : Type} (read : Cell → Option α) : Cell → Option (Option α)
  | .null => some none
  | c => (read c).map some

/-! ### Writing typed values -/

/-- A value that may be missing. -/
def ofOption {α : Type} (write : α → Cell) : Option α → Cell
  | some value => write value
  | none => .null

/-- A cell as a value of an answer. -/
def toDatum : Cell → Datum
  | .null => .null
  | .bool b => .bool b
  | .int n => .int n
  | .text s => .text s
  | .uuid id => .uuid id
  | .date d => .date d
  | .moment m => .text m.text
  | .amount a => .decimal a.toDecimal
  | .rate r => .decimal r.toDecimal

/-- The text of a cell; empty for null. -/
def plain : Cell → String
  | .null => ""
  | c => c.toDatum.plain

end Cell

/-- Cells by the names of their columns. -/
abbrev Cells := List (String × Cell)

namespace Cells

/-- The cell of a column; null if there is none. -/
def get (cells : Cells) (name : String) : Cell :=
  ((cells.find? fun cell ↦ cell.1 = name).map (·.2)).getD .null

/-- The cells, those of some columns replaced. -/
def replaced (cells changes : Cells) : Cells :=
  cells.map fun (name, cell) ↦
    (name, ((changes.find? fun change ↦ change.1 = name).map (·.2)).getD cell)

/-- Whether the cells agree with the conditions, column by column. -/
def agrees (cells conditions : Cells) : Bool :=
  conditions.all fun (name, cell) ↦ cells.get name = cell

end Cells

/-- A column of a table. The default is for rows that do not give a value, from their record number. -/
structure Column where
  name : String
  kind : CellKind
  default : Int → Cell := fun _ ↦ .null

end BundleLedger
