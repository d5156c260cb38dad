import BundleLedger.Failure
import BundleLedger.Store.Cell

/-!
# Tables

A table holds rows that keep its constraints: `Stored.Consistent` says which columns never repeat. A
statement that would break a constraint is refused as a whole, so the constraints hold in every table.
Rows are inserted and changed by named cells, and deleted by conditions on them.
-/

set_option autoImplicit false

namespace BundleLedger

/-- Rows of a kind that tables are made of. -/
class Stored (Row : Type) where
  /-- The columns in order. -/
  columns : List Column
  /-- The cells of a row. -/
  cells : Row → Cells
  /-- The row that cells make, unless one that must not be null is. -/
  ofCells? : Cells → Option Row
  recordId : Row → Int
  /-- No value repeats where none may. -/
  Consistent : List Row → Prop
  decideConsistent : DecidablePred Consistent
  nil : Consistent []
  sublist : ∀ {kept rows : List Row}, kept.Sublist rows → Consistent rows → Consistent kept

instance {Row : Type} [Stored Row] : DecidablePred (@Stored.Consistent Row _) :=
  Stored.decideConsistent

/-- A table: rows in the order of their insertion. -/
structure Table (Row : Type) [Stored Row] where
  rows : List Row
  consistent : Stored.Consistent rows

namespace Table

variable {Row : Type} [Stored Row]

def empty : Table Row := ⟨[], Stored.nil⟩

/-- A table of some rows, if they keep the constraints. -/
def ofRows (rows : List Row) : Except DatabaseFault (Table Row) :=
  if h : Stored.Consistent rows then .ok ⟨rows, h⟩ else .error .integrity

/-- The table with the rows of which `p` holds. -/
def filter (t : Table Row) (p : Row → Bool) : Table Row where
  rows := t.rows.filter p
  consistent := Stored.sublist List.filter_sublist t.consistent

/-- The number that the next row gets: one more than the largest. -/
def nextRecordId (rows : List Row) : Int :=
  match (rows.map Stored.recordId).max? with
  | some n => n + 1
  | none => 1

/-- The table with rows added. -/
def add (t : Table Row) (rows : List Row) : Except DatabaseFault (Table Row) :=
  ofRows (t.rows ++ rows)

theorem ofRows_eq_ok_iff (rows : List Row) (t : Table Row) :
    ofRows rows = .ok t ↔ t.rows = rows := by
  obtain ⟨kept, h⟩ := t
  unfold ofRows
  split
  · simp [eq_comm]
  · rename_i hn
    simp only [reduceCtorEq, false_iff]
    rintro rfl
    exact hn h

/-! ### Statements with named columns -/

/-- The cells that values make in the columns that they name, all of which must exist. -/
def cellsOf (columns : List Column) (values : List (String × Datum)) : Except Cause Cells :=
  values.mapM fun (name, value) ↦
    match columns.find? fun column ↦ column.name = name with
    | some column => (Cell.ofDatum column.kind value).map fun cell ↦ (name, cell)
    | none => .error (.missingKey name)

/-- The row that cells make. -/
def rowOf (cells : Cells) : Except DatabaseFault Row :=
  match Stored.ofCells? cells with
  | some row => .ok row
  | none => .error .integrity

/-- The cells of a new row: the given ones, and the defaults of the other columns. -/
def completed (columns : List Column) (number : Int) (cells : Cells) : Cells :=
  let number := ((cells.get "record_id").int?).getD number
  columns.map fun column ↦
    (column.name,
      ((cells.find? fun cell ↦ cell.1 = column.name).map (·.2)).getD (column.default number))

/-- One row added from cells. -/
def insertRow (rows : List Row) (cells : Cells) : Except DatabaseFault (List Row) := do
  let row ← rowOf (completed (Stored.columns Row) (nextRecordId rows) cells)
  return rows ++ [row]

/-- The cells of a new row from values by column; a null counts as a value that is not given. -/
def newCells (columns : List Column) (values : List (String × Datum)) : Except Cause Cells :=
  (cellsOf columns values).map fun cells ↦ cells.filter fun cell ↦ cell.2 ≠ .null

/-- Rows added from values by column: all or none. The values of all rows are read first. -/
def insert (t : Table Row) (rows : List (List (String × Datum))) : Except Cause (Table Row) := do
  let cells ← rows.mapM (newCells (Stored.columns Row))
  ((cells.foldlM insertRow t.rows).bind ofRows).mapError .database

/-- Whether a row agrees with conditions on its columns. -/
def selects (conditions : Cells) (row : Row) : Bool :=
  (Stored.cells row).agrees conditions

/-- The rows with those that agree with the conditions changed. -/
def changed (rows : List Row) (conditions changes : Cells) : Except DatabaseFault (List Row) :=
  rows.mapM fun row ↦
    if selects conditions row then rowOf ((Stored.cells row).replaced changes) else .ok row

/-- The rows that agree with the conditions changed, with their number. -/
def update (t : Table Row) (conditions changes : List (String × Datum)) :
    Except Cause (Nat × Table Row) := do
  let conditions ← cellsOf (Stored.columns Row) conditions
  let changes ← cellsOf (Stored.columns Row) changes
  let after ← ((changed t.rows conditions changes).bind ofRows).mapError .database
  return (t.rows.countP (selects conditions), after)

/-- The table without the rows that agree with the conditions, and their number. -/
def delete (t : Table Row) (conditions : List (String × Datum)) : Except Cause (Nat × Table Row) := do
  let conditions ← cellsOf (Stored.columns Row) conditions
  return (t.rows.countP (selects conditions), t.filter fun row ↦ !selects conditions row)

end Table
end BundleLedger
